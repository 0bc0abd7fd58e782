import HelpForge.Chatbot.Agent.SystemFields
import HelpForge.Chatbot.Memory.TicketMemory
import HelpForge.Chatbot.Widget.Session

set_option autoImplicit false

/-!
# Chat on a ticket

The stores are those of the widget and the memory of the tickets.
-/

namespace HelpForge.Chatbot

open Lib

structure ChatRequest where
  org_id : String
  ticket_id : String
  message : String
  context_window : Int := 10
  mode : String := "support"
  ticket_context : Dict Value := []
  window : 1 ≤ context_window ∧ context_window ≤ 50 := by decide

theorem default_window : (1 : Int) ≤ 10 ∧ (10 : Int) ≤ 50 := by decide

namespace ChatService

structure ChatResponse where
  ticket_id : String
  message : String
  confidence : Rat
  action : String := "none"
  sources : List (Dict Value) := []
  metadata : Dict Value := []

structure ChatState where
  service : WidgetState := {}
  memory : TicketMemory := []
  -- The history in the context of each run of the agent.
  histories : List (List (Dict Value)) := []

abbrev ChatCall (α : Type) := Program ChatState PyError α

/-- What a request meets besides: the templates in Redis, and the identification, the tokens and
the costs that the trace of its decision gives, or the exception. -/
structure ChatSurroundings extends Surroundings where
  template : String → Except PyError (Option String) := fun _ => .ok none
  trace : AgentDecision → Except PyError (Dict Value) := fun _ => .ok []
  preTrace : Dict Value := []

def onService {α : Type} (call : SessionCall α) : ChatCall α :=
  call.zoom ChatState.service fun service state => { state with service }

theorem run_onService {α : Type} (call : SessionCall α) (state : ChatState) :
    (onService call).run state =
      ((call.run state.service).1, { state with service := (call.run state.service).2 }) := by
  unfold onService
  rw [Program.run_zoom]
  · intro part state
    rfl
  · intro state
    rfl
  · intro part part' state
    rfl

def templateConfidenceThreshold : Rat := 80 / 100

structure TemplateMatch where
  response : String
  template_key : String

section Service

variable (python : Python) (regex : Regex) (outside : ChatSurroundings)

def templateVars (entities : Dict (List String)) (context : Dict Value) : Dict String :=
  -- The values of the placeholders; entities hide the fields of the context.
  Dict.merge (context.map fun entry => (entry.1, python.str entry.2))
    (entities.map fun entry => (entry.1, python.str (.list (entry.2.map .str))))

/-- `_VAR_RE.sub`; `pending` is the brace and the word that may begin a placeholder. -/
def renderFrom (vars : Dict String) : Option (List Char) → List Char → List Char
  | none, [] => []
  | some word, [] => '\x7b' :: word
  | none, char :: rest =>
    if char = '\x7b' then renderFrom vars (some []) rest
    else char :: renderFrom vars none rest
  | some word, char :: rest =>
    if python.isWord char then renderFrom vars (some (word ++ [char])) rest
    else if char = '\x7d' ∧ word ≠ [] then
      let kept := String.ofList ('\x7b' :: word ++ ['\x7d'])
      ((vars.lookup (String.ofList word)).getD kept).toList ++ renderFrom vars none rest
    else if char = '\x7b' then '\x7b' :: word ++ renderFrom vars (some []) rest
    else '\x7b' :: word ++ char :: renderFrom vars none rest

def render (template : Value) (vars : Dict String) : Except PyError String :=
  match template with
  | .str text => .ok (String.ofList (renderFrom python vars none text.toList))
  | other => .error ⟨"TypeError",
      "expected string or bytes-like object, got '" ++ other.typeName ++ "'"⟩

/-- `json.loads(raw)["response"]`, nothing where the template is malformed. -/
def templateText (raw : String) : Except PyError (Option Value) :=
  match python.loads raw with
  | .error error => if error.name = "JSONDecodeError" then .ok none else .error error
  | .ok (.dict entries) => .ok (entries.lookup "response")
  | .ok (.list _) => .error ⟨"TypeError", "list indices must be integers or slices, not str"⟩
  | .ok (.str _) => .error ⟨"TypeError", "string indices must be integers, not 'str'"⟩
  | .ok other =>
    .error ⟨"TypeError", "'" ++ other.typeName ++ "' object is not subscriptable"⟩

def findTemplate (vars : Dict String) : List String → Except PyError (Option TemplateMatch)
  | [] => .ok none
  | key :: rest =>
    match outside.template key with
    | .error _ => .ok none
    | .ok none => findTemplate vars rest
    | .ok (some raw) => do
      match ← templateText python raw with
      | none => findTemplate vars rest
      | some template => return some ⟨← render python template vars, key⟩

def matchTemplate (org_id : String) (intent : IntentResult) (entities : Dict (List String))
    (context : Dict Value) : Except PyError (Option TemplateMatch) :=
  if intent.confidence < templateConfidenceThreshold then .ok none
  else findTemplate python outside (templateVars python entities context)
    ["template:" ++ org_id ++ ":" ++ intent.intent.value,
      "template:global:" ++ intent.intent.value]

def buildTicketContext (request : ChatRequest) : Dict Value :=
  Dict.merge
    [("ticket_id", .str request.ticket_id), ("org_id", .str request.org_id),
      ("context_window", .int request.context_window), ("priority", .str "MEDIUM"),
      ("category", .str "General")]
    request.ticket_context

def entitiesValue (findings : Findings) : Value :=
  .dict (findings.entities.map fun entry => (entry.1, .list (entry.2.map .str)))

def chatAgentInput (request : ChatRequest) (findings : Findings) : AgentInput where
  mode := .chat
  org_id := request.org_id
  ticket_id := request.ticket_id
  query := request.message
  ticket_context := Dict.merge (buildTicketContext request)
    [("conv_intent", .str findings.intent.intent.value),
      ("conv_intent_confidence", .float (roundTo 3 findings.intent.confidence)),
      ("conv_stage", .str findings.state.stage.value),
      ("conv_severity", .str findings.escalation.severity.value),
      ("conv_turn", .int (findings.state.turn_count + 1)),
      ("conv_entities", entitiesValue findings),
      ("conv_unresolved_turns", .int findings.state.unresolved_turns)]

def examine (request : ChatRequest) : SessionCall Findings := do
  let state ← ConversationStateStore.getOrCreate request.org_id request.ticket_id
  let intent ←
    onAgent (detectIntent python regex outside.toSurroundings request.org_id request.message)
  let entities := entityMap (extractEntities python regex request.message)
  let escalation := detectEscalation regex request.message state intent
  return { state, intent, entities, escalation }

def recordTurn (request : ChatRequest) (findings : Findings) (agent_action : String) :
    SessionCall Unit :=
  ConversationStateStore.update request.org_id request.ticket_id findings.intent.intent.value
    findings.entities findings.escalation.severity.value agent_action

def handOver : String :=
  "I'll connect you with a human support agent who can assist you further. Please hold on."

def escalateTurn (request : ChatRequest) (findings : Findings) : SessionCall ChatResponse := do
  recordTurn request findings "escalate"
  return {
    ticket_id := request.ticket_id
    message := orElse (findings.escalation.escalation_message.getD "") handOver
    confidence := 0
    action := "escalate"
    metadata :=
      [("conv_triggers", .list (findings.escalation.triggers.map .str)),
        ("conv_severity", .str findings.escalation.severity.value),
        ("conv_score", .float findings.escalation.score),
        ("conv_intent", .str findings.intent.intent.value),
        ("conv_stage", .str findings.state.stage.value)] ++ outside.preTrace }

def answerFromTemplate (request : ChatRequest) (findings : Findings) (hit : TemplateMatch) :
    SessionCall ChatResponse := do
  recordTurn request findings "respond"
  return {
    ticket_id := request.ticket_id
    message := hit.response
    confidence := 1
    metadata :=
      [("template_hit", .bool true), ("template_key", .str hit.template_key),
        ("conv_intent", .str findings.intent.intent.value),
        ("conv_stage", .str findings.state.stage.value),
        ("conv_entities", entitiesValue findings)] }

def readSources (sources : Value) : Except PyError (List (Dict Value)) :=
  -- The sources of a response are a list of dictionaries.
  match sources with
  | .list items =>
    match items.mapM Value.asDict with
    | some sources => .ok sources
    | none => .error ⟨"ValidationError", python.validationText "ChatResponse" [("sources", sources)]⟩
  | other => .error ⟨"ValidationError", python.validationText "ChatResponse" [("sources", other)]⟩

def chatResponse (request : ChatRequest) (findings : Findings) (decision : AgentDecision)
    (trace : Dict Value) : Except PyError ChatResponse := do
  let sources ← readSources python ((decision.metadata.lookup "sources").getD (.list []))
  return {
    ticket_id := request.ticket_id
    message := decision.message
    confidence := decision.confidence
    action := mapAction decision.action
    sources
    metadata :=
      [("usage", (decision.metadata.lookup "metrics").getD (.dict [])),
        ("reasoning", .str decision.reasoning), ("tool", dumped .str decision.tool),
        ("tool_result", dumped .dict decision.tool_result),
        ("conv_intent", .str findings.intent.intent.value),
        ("conv_stage", .str findings.state.stage.value),
        ("conv_severity", .str findings.escalation.severity.value),
        ("conv_entities", entitiesValue findings)] ++ trace }

def withMemory (state : ChatState) : Surroundings :=
  -- The agent's view of the world: its memory is the ticket memory.
  { outside.toSurroundings with
    recentMessages := fun org_id ticket_id limit =>
      if state.service.fault then .error ⟨"ConnectionError", "Error connecting to Redis"⟩
      else state.memory.getRecentMessages org_id ticket_id limit }

def historyOf (around : Surroundings) (inp : AgentInput) : Option (List (Dict Value)) :=
  -- The history in the context that the agent builds, once the query has passed its guard.
  let guard := checkInput python inp.query
  if guard.safe then some (buildContext around inp guard.safe_value).history else none

def answerFromAgent (request : ChatRequest) (findings : Findings) : ChatCall ChatResponse := do
  let inp := chatAgentInput request findings
  let around ← Program.reads (withMemory outside)
  Program.modify fun state => { state with
    histories := state.histories ++ (historyOf python around inp).toList }
  let decision ← onService (onAgent (agentRun python around inp))
  onService (recordTurn request findings decision.action.value)
  let trace ← Program.done (outside.trace decision)
  Program.done (chatResponse python request findings decision trace)

/-- `ChatService.handle_message`. -/
def handleMessage (request : ChatRequest) : ChatCall ChatResponse := do
  let findings ← onService (examine python regex outside request)
  if findings.escalation.should_escalate then
    onService (escalateTurn outside request findings)
  else
    match ← Program.done (matchTemplate python outside request.org_id findings.intent
        findings.entities (buildTicketContext request)) with
    | some hit => onService (answerFromTemplate request findings hit)
    | none => answerFromAgent python outside request findings

end Service

end ChatService

end HelpForge.Chatbot
