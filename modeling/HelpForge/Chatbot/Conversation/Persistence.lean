import HelpForge.Chatbot.Conversation.Turns
import HelpForge.Chatbot.Widget.Turns

set_option autoImplicit false

namespace HelpForge.Chatbot

open Lib

/-- A command is served, is refused, or is carried out while its answer is lost. -/
inductive Reply where
  | served
  | refused
  | lost
  deriving DecidableEq, Repr

namespace ConversationStateStore

def connectionError : PyError := ⟨"ConnectionError", "Error connecting to Redis"⟩

def replied {α : Type} (reply : Reply) (body : WidgetState → α × WidgetState) : SessionCall α :=
  match reply with
  | .served => Program.stretch body
  | .refused => Program.fail connectionError
  | .lost => do
    let _ ← Program.stretch body
    Program.fail connectionError

section Update

variable (org_id ticket_id : String)

def getOrCreateUnder (read : Reply) : SessionCall ConversationState :=
  (replied read fun state =>
    ((state.states.get state.now (stateKey org_id ticket_id)).getD {}, state)).recover
    fun _ => pure {}

/-- `update`, with the replies to its two commands. -/
def updateUnder (read write : Reply) (turn : ConversationTurn) : SessionCall Unit :=
  Program.recover
    (do
      let known ← getOrCreateUnder org_id ticket_id read
      replied write fun state =>
        ((), { state with
          states := state.states.setex state.now memoryTtlSeconds (stateKey org_id ticket_id)
            (known.turn turn) }))
    fun _ => pure ()

def storedState (state : WidgetState) : Option ConversationState :=
  state.states.get state.now (stateKey org_id ticket_id)

/-- The state is the one of before, or that one advanced by the turn. -/
def Advances (turn : ConversationTurn) (known : ConversationState) (state : WidgetState) : Prop :=
  storedState org_id ticket_id state = some known ∨
    storedState org_id ticket_id state = some (known.turn turn)

theorem run_replied {α : Type} (reply : Reply) (body : WidgetState → α × WidgetState)
    (state : WidgetState) :
    (replied reply body).run state =
      (if reply = .served then .ok (body state).1 else .error connectionError,
        if reply = .refused then state else (body state).2) := by
  cases reply <;> rfl

theorem run_getOrCreateUnder (read : Reply) (state : WidgetState) :
    (getOrCreateUnder org_id ticket_id read).run state =
      (.ok (if read = .served then (storedState org_id ticket_id state).getD {} else {}), state) := by
  unfold getOrCreateUnder
  rw [Program.run_recover, run_replied]
  cases read <;> rfl

theorem run_updateUnder (read write : Reply) (turn : ConversationTurn) (state : WidgetState) :
    (updateUnder org_id ticket_id read write turn).run state =
      (.ok (), if write = .refused then state else
        { state with
          states := state.states.setex state.now memoryTtlSeconds (stateKey org_id ticket_id)
            ((if read = .served then (storedState org_id ticket_id state).getD {} else {}).turn
              turn) }) := by
  unfold updateUnder
  rw [Program.run_recover, Program.run_bind, run_getOrCreateUnder]
  simp only
  rw [run_replied]
  cases write <;> rfl

theorem updateUnder_update (turn : ConversationTurn) (state : WidgetState) :
    (updateUnder org_id ticket_id (if state.fault then .refused else .served)
        (if state.fault then .refused else .served) turn).run state =
      (update org_id ticket_id turn.intent turn.entities turn.severity turn.agent_action).run
        state := by
  rw [run_updateUnder, run_update]
  unfold WidgetState.setConversation WidgetState.conversation storedState
  cases state.fault <;> rfl

theorem storedState_set (state : WidgetState) (next : ConversationState) :
    storedState org_id ticket_id { state with
      states := state.states.setex state.now memoryTtlSeconds (stateKey org_id ticket_id) next } =
      some next := by
  simp [storedState, Expiring.get, Expiring.setex, memoryTtlSeconds]

/-- An update leaves the stored state or its advance exactly where the read is served or the
write refused, or where a fresh state and the turn happen to give one of the two. -/
theorem update_keeps_state_iff (read write : Reply) (turn : ConversationTurn)
    (state : WidgetState) (known : ConversationState)
    (stored : storedState org_id ticket_id state = some known) :
    ((updateUnder org_id ticket_id read write turn).run state).1 = .ok () ∧
      (Advances org_id ticket_id turn known
          ((updateUnder org_id ticket_id read write turn).run state).2 ↔
        read = .served ∨ write = .refused ∨
          ({} : ConversationState).turn turn = known ∨
          ({} : ConversationState).turn turn = known.turn turn) := by
  rw [run_updateUnder, stored]
  refine ⟨rfl, ?_⟩
  unfold Advances
  by_cases refused : write = .refused
  · simp [refused, stored]
  · simp only [refused, if_false, storedState_set, Option.some.injEq, false_or]
    by_cases served : read = .served
    · simp [served]
    · simp [served]

structure TurnUpdate where
  turn : ConversationTurn
  read : Reply
  write : Reply

def updates : List TurnUpdate → SessionCall Unit
  | [] => pure ()
  | next :: rest => do
    updateUnder org_id ticket_id next.read next.write next.turn
    updates rest

def keptTurns (steps : List TurnUpdate) : List ConversationTurn :=
  (steps.filter fun step => step.write ≠ .refused).map TurnUpdate.turn

theorem run_updates (steps : List TurnUpdate) (state : WidgetState) (known : ConversationState)
    (stored : storedState org_id ticket_id state = some known)
    (sound : ∀ step ∈ steps, step.read = .served ∨ step.write = .refused) :
    storedState org_id ticket_id ((updates org_id ticket_id steps).run state).2 =
      some ((keptTurns steps).foldl ConversationState.turn known) := by
  induction steps generalizing state known with
  | nil => exact stored
  | cons step rest ih =>
    have here := sound step (List.mem_cons_self ..)
    have later := fun other member => sound other (List.mem_cons_of_mem _ member)
    rw [updates, Program.run_bind, run_updateUnder, stored]
    simp only
    by_cases refused : step.write = .refused
    · have kept := ih state known stored later
      simpa [keptTurns, refused] using kept
    · have served : step.read = .served := here.resolve_right refused
      have written := storedState_set org_id ticket_id state (known.turn step.turn)
      have kept := ih _ _ written later
      simpa [keptTurns, refused, served] using kept

end Update

def reminder : ConversationTurn where
  intent := Intent.status_check.value
  entities := []
  severity := Severity.calm.value
  agent_action := "escalate"

/-- A conversation in which a number was given and two turns are unresolved. -/
def longKnown : ConversationState where
  stage := .investigating
  turn_count := 2
  intent_history := [Intent.refund_request.value, Intent.refund_request.value]
  entity_map := [("order_id", ["ORD-12345"])]
  severity_history := [Severity.calm.value, Severity.frustrated.value]
  unresolved_turns := 2
  last_intent := some Intent.refund_request.value

def keptConversation : WidgetState where
  states := Expiring.setex {} 0 memoryTtlSeconds (stateKey "acme" "t_1") longKnown

theorem refused_turn_left_out :
    let steps : List TurnUpdate := [⟨reminder, .lost, .refused⟩, ⟨reminder, .served, .lost⟩]
    storedState "acme" "t_1" ((updates "acme" "t_1" steps).run keptConversation).2 =
      some ((keptTurns steps).foldl ConversationState.turn longKnown) :=
  run_updates "acme" "t_1" _ keptConversation longKnown (storedState_set "acme" "t_1" {} longKnown)
    (by simp)

/-- A lost answer to the write does no harm. -/
theorem lost_write_advances :
    ((updateUnder "acme" "t_1" .served .lost reminder).run keptConversation).1 = .ok () ∧
      (Advances "acme" "t_1" reminder longKnown
          ((updateUnder "acme" "t_1" .served .lost reminder).run keptConversation).2 ↔
        Reply.served = .served ∨ Reply.lost = .refused ∨
          ({} : ConversationState).turn reminder = longKnown ∨
          ({} : ConversationState).turn reminder = longKnown.turn reminder) :=
  update_keeps_state_iff "acme" "t_1" .served .lost reminder keptConversation longKnown
    (storedState_set "acme" "t_1" {} longKnown)

/-- After a refused read the state is that of a conversation which has just begun. -/
theorem refused_read_forgets :
    ¬ ∀ (read write : Reply) (turn : ConversationTurn) (state : WidgetState)
      (known : ConversationState), storedState "acme" "t_1" state = some known →
        Advances "acme" "t_1" turn known
          ((updateUnder "acme" "t_1" read write turn).run state).2 := by
  intro advances
  have kept := advances .refused .served reminder keptConversation longKnown
    (storedState_set "acme" "t_1" {} longKnown)
  have forgotten : storedState "acme" "t_1"
      ((updateUnder "acme" "t_1" .refused .served reminder).run keptConversation).2 =
        some (({} : ConversationState).turn reminder) := by
    rw [run_updateUnder]
    exact storedState_set "acme" "t_1" keptConversation _
  unfold Advances at kept
  rw [forgotten] at kept
  revert kept
  decide +kernel

end ConversationStateStore

end HelpForge.Chatbot
