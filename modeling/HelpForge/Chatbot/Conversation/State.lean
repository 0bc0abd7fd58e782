import HelpForge.Chatbot.Value

set_option autoImplicit false

namespace HelpForge.Chatbot

inductive ConversationStage where
  | opening
  | gathering
  | investigating
  | resolving
  | closing
  deriving DecidableEq, Repr

def ConversationStage.value : ConversationStage → String
  | .opening => "opening"
  | .gathering => "gathering"
  | .investigating => "investigating"
  | .resolving => "resolving"
  | .closing => "closing"

structure ConversationState where
  stage : ConversationStage := .opening
  turn_count : Nat := 0
  intent_history : List String := []
  entity_map : Dict (List String) := []
  severity_history : List String := []
  unresolved_turns : Nat := 0
  last_intent : Option String := none
  deriving DecidableEq, Repr

def maxHistory : Nat := 20

/-- `history.append(label)`, of which the last entries are kept. -/
def capped (history : List String) (label : String) : List String :=
  let longer := history ++ [label]
  longer.drop (longer.length - maxHistory)

def addDistinct (existing values : List String) : List String :=
  values.foldl (fun known value => if value ∈ known then known else known ++ [value]) existing

def mergeEntities (known found : Dict (List String)) : Dict (List String) :=
  found.foldl
    (fun merged entry =>
      Dict.put merged entry.1 (addDistinct ((merged.lookup entry.1).getD []) entry.2))
    known

def actionableIntents : List String :=
  ["refund_request", "billing", "technical_support", "status_check", "cancellation", "complaint"]

def satisfactionIntents : List String := ["compliment", "general"]

namespace ConversationState

def advanceStage (state : ConversationState) (has_new_entities : Bool) (agent_action : String) :
    ConversationStage :=
  let intent := match state.last_intent with
    | some "" | none => "general"
    | some intent => intent
  match state.stage with
  | .opening => if 2 ≤ state.turn_count then .gathering else .opening
  | .gathering =>
    if has_new_entities ∨ intent ∈ actionableIntents then .investigating else .gathering
  | .investigating =>
    if (agent_action = "tool_call" ∨ agent_action = "respond") ∧ state.unresolved_turns = 0 then
      .resolving
    else .investigating
  | .resolving =>
    if intent ∈ satisfactionIntents ∧ 3 ≤ state.turn_count then .closing else .resolving
  | .closing => .closing

def applyTurn (state : ConversationState) (intent : String) (entities : Dict (List String))
    (severity agent_action : String) : ConversationState :=
  let state := { state with
    turn_count := state.turn_count + 1
    intent_history := capped state.intent_history intent
    last_intent := some intent
    entity_map := mergeEntities state.entity_map entities
    severity_history := capped state.severity_history severity
    unresolved_turns := if agent_action = "respond" then 0 else state.unresolved_turns + 1 }
  { state with stage := state.advanceStage (!entities.isEmpty) agent_action }

end ConversationState

end HelpForge.Chatbot
