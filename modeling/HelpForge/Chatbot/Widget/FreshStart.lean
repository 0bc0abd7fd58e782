import HelpForge.Chatbot.Conversation.Turns
import HelpForge.Chatbot.Widget.Handover

set_option autoImplicit false

namespace HelpForge.Chatbot

open Lib
open Expiring (entry_of_delete entry_of_setex)

variable {session_id : String}

namespace FreshStart

/-- A request that comes in at some instant, at which Redis can be reached or not. -/
structure Arrival extends Visit where
  time : Nat
  fault : Bool := false

def Arrival.meets (arrival : Arrival) (state : WidgetState) : WidgetState :=
  { state with now := arrival.time, fault := arrival.fault }

structure Conduct where
  escalation : EscalationSignal
  stage : ConversationStage
  prompts : List Prompt
  reply : Except PyError WidgetChatResponse

section Serving

variable (python : Python) (regex : Regex)

def serve (arrival : Arrival) (state : WidgetState) :
    Except PyError WidgetChatResponse × WidgetState :=
  (handle python regex arrival.outside arrival.request).run (arrival.meets state)

def serveAll (history : List Arrival) (state : WidgetState) : WidgetState :=
  history.foldl (fun state arrival => (serve python regex arrival state).2) state

def conduct (arrival : Arrival) (state : WidgetState) : Conduct :=
  let found := findings python regex arrival.outside arrival.request (arrival.meets state)
  let served := serve python regex arrival state
  { escalation := found.escalation
    stage := found.state.stage
    prompts := served.2.agent.asked.drop state.agent.asked.length
    reply := served.1 }

def conducts : List Arrival → WidgetState → List Conduct
  | [], _ => []
  | arrival :: rest, state =>
    conduct python regex arrival state :: conducts rest (serve python regex arrival state).2

end Serving

structure NewSession (session_id : String) (state : WidgetState) : Prop where
  messages : state.messages.entry (messagesKey session_id) = none
  contexts : state.contexts.entry (contextKey session_id) = none
  states : ∀ org_id, state.states.entry (stateKey org_id session_id) = none

structure Continues (session_id : String) (time : Nat) (continuation : List Arrival) : Prop where
  session : ∀ arrival ∈ continuation, arrival.request.session_id = session_id
  late : ∀ arrival ∈ continuation, time ≤ arrival.time
  ordered : continuation.Pairwise fun earlier later => earlier.time ≤ later.time

def StartsAfresh (python : Python) (regex : Regex) (session_id : String) (time : Nat)
    (state : WidgetState) : Prop :=
  ∀ fresh, NewSession session_id fresh → fresh.agent = state.agent →
    ∀ continuation, Continues session_id time continuation →
      conducts python regex continuation state = conducts python regex continuation fresh

section Alike

variable {python : Python} {regex : Regex} {outside : WidgetSurroundings}
  {request : WidgetChatRequest}

/-- A relation of states that gives a request the same to read, and that no write of the
request breaks. -/
structure Carried (request : WidgetChatRequest) (related : WidgetState → WidgetState → Prop) :
    Prop where
  same : ∀ {left right}, related left right → left.agent = right.agent ∧
    left.history request.session_id = right.history request.session_id ∧
      left.context request.session_id = right.context request.session_id ∧
        left.conversation request.org_id request.session_id =
          right.conversation request.org_id request.session_id
  agent : ∀ {left right} agent, related left right →
    related { left with agent } { right with agent }
  appended : ∀ {left right} role content, related left right →
    related (left.appended request.session_id [("role", .str role), ("content", .str content)])
      (right.appended request.session_id [("role", .str role), ("content", .str content)])
  context : ∀ {left right} context, related left right →
    related (left.setContext request.session_id context)
      (right.setContext request.session_id context)
  conversation : ∀ {left right} conversation, related left right →
    related (left.setConversation request.org_id request.session_id conversation)
      (right.setConversation request.org_id request.session_id conversation)
  cleared : ∀ {left right}, related left right →
    related (left.cleared request.session_id) (right.cleared request.session_id)

namespace Carried

variable {related : WidgetState → WidgetState → Prop} {left right : WidgetState}

section Carried

variable (carried : Carried request related)

include carried

theorem classified (alike : related left right) :
    related (left.classified regex request) (right.classified regex request) := by
  unfold WidgetState.classified
  split_ifs
  · exact alike
  · rw [← (carried.same alike).1]
    exact carried.agent _ alike

theorem recorded (found : Findings) (agent_action : String) (alike : related left right) :
    related (found.recorded request agent_action left)
      (found.recorded request agent_action right) := by
  unfold Findings.recorded
  rw [← (carried.same alike).2.2.2]
  exact carried.conversation _ alike

theorem called (call : GatewayCall) (alike : related left right) :
    related (left.called outside call request.session_id)
      (right.called outside call request.session_id) := by
  unfold WidgetState.called
  rw [← (carried.same alike).1]
  have sent := carried.agent (left.agent.calling call) alike
  simp only
  split_ifs
  · exact carried.cleared sent
  · exact sent

theorem kept (stored_ctx : Dict Value) (decision : AgentDecision) (alike : related left right) :
    related (left.kept request stored_ctx decision) (right.kept request stored_ctx decision) :=
  carried.context _ (carried.appended _ _ (carried.appended _ _ alike))

theorem settle (messages : List (Dict Value)) (stored_ctx : Dict Value) (found : Findings)
    (decision : AgentDecision) (alike : related left right) : let settled :=
      (settle python outside request messages stored_ctx found decision).run
    (settled left).1 = (settled right).1 ∧ related (settled left).2 (settled right).2 := by
  cases escalated : decision.action == .escalate with
  | false =>
    simp only [run_settle_kept _ _ _ _ _ _ _ _ escalated]
    exact ⟨trivial, carried.kept _ _ (carried.recorded _ _ alike)⟩
  | true =>
    simp only [run_settle_escalated _ _ _ _ _ _ _ _ escalated]
    cases ticketCall python request.org_id
      (messages ++ [userMessage request.message, assistantMessage decision.message])
      (pageContext request.context) found.intent.intent.value
      found.escalation.severity.value with
    | error error => exact ⟨rfl, alike⟩
    | ok call =>
      simp only [(carried.same alike).1]
      exact ⟨trivial, carried.recorded _ _ (carried.called _ alike)⟩

end Carried

theorem handle (carried : Carried request related) (alike : related left right) :
    let handled := (handle python regex outside request).run
    (handled left).1 = (handled right).1 ∧ related (handled left).2 (handled right).2 := by
  obtain ⟨-, histories, contexts, conversations⟩ := carried.same alike
  have found : findings python regex outside request right =
      findings python regex outside request left := by
    unfold findings
    rw [conversations]
  have inputs : agentInput python regex outside request right =
      agentInput python regex outside request left := by
    unfold agentInput
    rw [found, histories]
  have stored : storedContext request right = storedContext request left := by
    unfold storedContext
    rw [contexts]
  have middle : related (left.classified regex request) (right.classified regex request) :=
    carried.classified alike
  simp only [run_handle, found, inputs, stored, ← histories]
  split_ifs with escalates
  · have reached := carried.recorded (findings python regex outside request left) "escalate" middle
    simp only [run_escalateFirst]
    cases ticketCall python request.org_id
      (left.history request.session_id ++ [userMessage request.message])
      (pageContext request.context)
      (findings python regex outside request left).intent.intent.value
      (findings python regex outside request left).escalation.severity.value with
    | error error => exact ⟨rfl, reached⟩
    | ok call =>
      simp only [(carried.same reached).1]
      exact ⟨trivial, carried.called _ reached⟩
  · simp only [Program.run_bind, run_onAgent, (carried.same middle).1]
    rcases (agentRun python outside.toSurroundings
      (agentInput python regex outside request left)).run
        (right.classified regex request).agent with ⟨error | decision, agent⟩
    · exact ⟨rfl, carried.agent agent middle⟩
    · exact carried.settle _ _ _ _ (carried.agent agent middle)

end Carried

end Alike

/-- From `time` on, the two states give the same of the session. -/
structure Shared (session_id : String) (time : Nat) (left right : WidgetState) : Prop where
  agent : left.agent = right.agent
  messages : Expiring.SameFrom time (messagesKey session_id) left.messages right.messages
  contexts : Expiring.SameFrom time (contextKey session_id) left.contexts right.contexts
  states : ∀ org_id, Expiring.SameFrom time (stateKey org_id session_id) left.states right.states

structure Facing (session_id : String) (time : Nat) (left right : WidgetState) : Prop
    extends Shared session_id time left right where
  now : left.now = right.now
  late : time ≤ left.now
  fault : left.fault = right.fault

theorem facing_carried (request : WidgetChatRequest) (time : Nat) :
    Carried request (Facing request.session_id time) := by
  constructor
  · intro left right facing
    have messages := facing.messages left.now facing.late
    have contexts := facing.contexts left.now facing.late
    have states := facing.states request.org_id left.now facing.late
    refine ⟨facing.agent, ?_, ?_, ?_⟩
    · unfold WidgetState.history
      rw [messages, facing.now, facing.fault]
    · unfold WidgetState.context
      rw [contexts, facing.now, facing.fault]
    · unfold WidgetState.conversation
      rw [states, facing.now, facing.fault]
  · intro left right agent facing
    exact { facing with agent := rfl }
  · intro left right role content facing
    have read := facing.messages left.now facing.late
    have same : left.history request.session_id = right.history request.session_id := by
      unfold WidgetState.history
      rw [read, facing.now, facing.fault]
    unfold WidgetState.appended WidgetState.setHistory
    rw [same, ← facing.fault]
    split_ifs
    · exact facing
    · rw [← facing.now]
      exact { facing with
        now := rfl, fault := rfl, messages := facing.messages.setex _ _ _ _ }
  · intro left right context facing
    unfold WidgetState.setContext
    rw [← facing.fault]
    split_ifs
    · exact facing
    · rw [← facing.now]
      exact { facing with
        now := rfl, fault := rfl, contexts := facing.contexts.setex _ _ _ _ }
  · intro left right conversation facing
    unfold WidgetState.setConversation
    rw [← facing.fault]
    split_ifs
    · exact facing
    · rw [← facing.now]
      exact { facing with
        now := rfl, fault := rfl
        states := fun org_id => (facing.states org_id).setex _ _ _ _ }
  · intro left right facing
    unfold WidgetState.cleared
    rw [← facing.fault]
    split_ifs
    · exact facing
    · exact { facing with
        fault := rfl
        messages := facing.messages.delete _
        contexts := facing.contexts.delete _ }

variable {python : Python} {regex : Regex}

theorem conduct_shared {session_id : String} {time : Nat} {left right : WidgetState}
    (shared : Shared session_id time left right) (arrival : Arrival)
    (own : arrival.request.session_id = session_id) (late : time ≤ arrival.time) :
    conduct python regex arrival left = conduct python regex arrival right ∧
      Shared session_id time (serve python regex arrival left).2
        (serve python regex arrival right).2 := by
  subst own
  have carried := facing_carried arrival.request time
  have facing : Facing arrival.request.session_id time (arrival.meets left)
      (arrival.meets right) := ⟨{ shared with }, rfl, late, rfl⟩
  obtain ⟨replies, reached⟩ :=
    @Carried.handle python regex arrival.outside _ _ _ _ carried facing
  refine ⟨?_, reached.toShared⟩
  have found : findings python regex arrival.outside arrival.request (arrival.meets left) =
      findings python regex arrival.outside arrival.request (arrival.meets right) := by
    unfold findings
    rw [(carried.same facing).2.2.2]
  unfold conduct serve
  simp only [found, replies, reached.agent, shared.agent]

theorem conducts_shared {time : Nat} {continuation : List Arrival}
    (continues : Continues session_id time continuation) {left right : WidgetState}
    (shared : Shared session_id time left right) :
    conducts python regex continuation left = conducts python regex continuation right := by
  obtain ⟨session, late, -⟩ := continues
  induction continuation generalizing left right with
  | nil => rfl
  | cons arrival rest ih =>
    obtain ⟨here, there⟩ := @conduct_shared python regex _ _ _ _ shared arrival
      (session arrival List.mem_cons_self) (late arrival List.mem_cons_self)
    unfold conducts
    rw [here, ih there (fun later member => session later (List.mem_cons_of_mem _ member))
      fun later member => late later (List.mem_cons_of_mem _ member)]

def IsText (message : Dict Value) : Prop :=
  -- A message as it is stored.
  ∃ role content : String, message = [("role", .str role), ("content", .str content)]

theorem ticketCall_text (org_id : String) {messages : List (Dict Value)}
    (texts : ∀ message ∈ messages, IsText message) (page_context : Dict Value)
    (intent severity : String) :
    ∃ call, ticketCall python org_id messages page_context intent severity = .ok call := by
  -- The text of a ticket can be made of messages as they are stored.
  have last : ∃ text, lastUserMessage messages = .ok text := by
    unfold lastUserMessage
    cases found : messages.reverse.find? isUser with
    | none => exact ⟨"", rfl⟩
    | some message =>
      have member := List.mem_reverse.mp (List.mem_of_find?_eq_some found)
      obtain ⟨role, content, rfl⟩ := texts message member
      exact ⟨stripped content, rfl⟩
  have lines := (mapM_ok_iff (transcriptLines python) messages).mpr fun message member => by
    obtain ⟨role, content, rfl⟩ := texts message member
    exact ⟨_, rfl⟩
  obtain ⟨text, last⟩ := last
  obtain ⟨transcript, lines⟩ := lines
  unfold ticketCall buildDescription
  rw [last, lines]
  exact ⟨_, rfl⟩

section Records

variable {outside : WidgetSurroundings} {request : WidgetChatRequest} {state : WidgetState}

theorem called_frame (call : GatewayCall) (session_id : String) :
    (state.called outside call session_id).states = state.states ∧
      (state.called outside call session_id).now = state.now ∧
        (state.called outside call session_id).fault = state.fault := by
  unfold WidgetState.called WidgetState.cleared
  simp only
  split_ifs <;> exact ⟨rfl, rfl, rfl⟩

theorem kept_states (stored_ctx : Dict Value) (decision : AgentDecision) :
    (state.kept request stored_ctx decision).states = state.states := by
  unfold WidgetState.kept WidgetState.appended WidgetState.setContext WidgetState.setHistory
  split_ifs <;> rfl

def Records (request : WidgetChatRequest) (state reached : WidgetState) : Prop :=
  -- The states are as those of another state after one more turn of the conversation.
  ∃ turn, reached.states = (state.setConversation request.org_id request.session_id
    ((state.conversation request.org_id request.session_id).turn turn)).states

theorem records_recorded {other reached : WidgetState} (found : Findings) (agent_action : String)
    (states : other.states = state.states) (now : other.now = state.now)
    (fault : other.fault = state.fault)
    (same : reached.states = (found.recorded request agent_action other).states) :
    Records request state reached := by
  refine ⟨⟨found.intent.intent.value, found.entities, found.escalation.severity.value,
    agent_action⟩, ?_⟩
  rw [same]
  unfold Findings.recorded WidgetState.setConversation WidgetState.conversation
    ConversationState.turn
  rw [states, now, fault]
  split_ifs
  · exact states
  · rfl

theorem handle_records
    (texts : ∀ message ∈ state.history request.session_id, IsText message) :
    Records request state ((handle python regex outside request).run state).2 := by
  have user : IsText (userMessage request.message) := ⟨"user", request.message, rfl⟩
  have classified : (state.classified regex request).states = state.states ∧
      (state.classified regex request).now = state.now ∧
        (state.classified regex request).fault = state.fault := by
    unfold WidgetState.classified
    split_ifs <;> exact ⟨rfl, rfl, rfl⟩
  obtain ⟨states, now, fault⟩ := classified
  let found := findings python regex outside request state
  rw [run_handle]
  split_ifs with escalates
  · have written : ∀ message ∈ state.history request.session_id ++ [userMessage request.message],
        IsText message := by
      intro message member
      rcases List.mem_append.mp member with member | member
      · exact texts message member
      · exact List.mem_singleton.mp member ▸ user
    obtain ⟨call, made⟩ := @ticketCall_text python request.org_id _ written
      (pageContext request.context) found.intent.intent.value found.escalation.severity.value
    simp only [run_escalateFirst]
    rw [made]
    exact records_recorded found "escalate" states now fault (called_frame _ _).1
  · simp only [Program.run_bind, run_onAgent]
    obtain ⟨decision, agent, decides⟩ := @agentRun_returns python
      (agentInput python regex outside request state) outside.toSurroundings
      (state.classified regex request).agent
    let middle : WidgetState := { state.classified regex request with agent }
    rw [decides]
    change Records request state ((settle python outside request _ _ _ decision).run middle).2
    cases escalated : decision.action == .escalate with
    | false =>
      rw [run_settle_kept _ _ _ _ _ _ _ _ escalated]
      exact @records_recorded request state middle _ found decision.action.value states now fault
        (kept_states _ _)
    | true =>
      have written : ∀ message ∈ state.history request.session_id ++
          [userMessage request.message, assistantMessage decision.message], IsText message := by
        intro message member
        rcases List.mem_append.mp member with member | member
        · exact texts message member
        · rcases List.mem_pair.mp member with rfl | rfl
          · exact user
          · exact ⟨"assistant", decision.message, rfl⟩
      obtain ⟨call, made⟩ := @ticketCall_text python request.org_id _ written
        (pageContext request.context) found.intent.intent.value found.escalation.severity.value
      rw [run_settle_escalated _ _ _ _ _ _ _ _ escalated]
      rw [made]
      obtain ⟨states', now', fault'⟩ :=
        @called_frame outside middle call request.session_id
      exact records_recorded found decision.action.value (states'.trans states) (now'.trans now)
        (fault'.trans fault) rfl

end Records

variable {history : List Arrival}

section Histories

variable (python regex)

theorem serveAll_concat (history : List Arrival) (arrival : Arrival) (state : WidgetState) :
    serveAll python regex (history ++ [arrival]) state =
      (serve python regex arrival (serveAll python regex history state)).2 := by
  unfold serveAll
  rw [List.foldl_append]
  rfl

variable {python regex}

def Leaves (history : List Arrival) (session_id : String) (ends : Nat) : Prop :=
  -- An entry for the session is that of some request, at which Redis was there.
  ∃ arrival ∈ history, arrival.fault = false ∧ arrival.request.session_id = session_id ∧
    ends ≤ arrival.time + sessionTtlSeconds

structure Memories (history : List Arrival) (state : WidgetState) : Prop where
  texts : ∀ session_id messages ends,
    state.messages.entry (messagesKey session_id) = some (messages, ends) →
      ∀ message ∈ messages, IsText message
  messages : ∀ session_id messages ends,
    state.messages.entry (messagesKey session_id) = some (messages, ends) →
      Leaves history session_id ends
  contexts : ∀ session_id context ends,
    state.contexts.entry (contextKey session_id) = some (context, ends) →
      Leaves history session_id ends

structure Conversations (history : List Arrival) (state : WidgetState) : Prop where
  begun : ∀ key conversation ends, state.states.entry key = some (conversation, ends) →
    1 ≤ conversation.turn_count
  lapse : ∀ key conversation ends, state.states.entry key = some (conversation, ends) →
    ∃ arrival ∈ history, arrival.fault = false ∧ arrival.request.stateKey = key ∧
      ends ≤ arrival.time + memoryTtlSeconds
  last : ∀ arrival ∈ history, arrival.fault = false →
    ∃ conversation ends, state.states.entry arrival.request.stateKey = some (conversation, ends) ∧
      arrival.time + memoryTtlSeconds ≤ ends

theorem Leaves.more {history : List Arrival} {session_id : String} {ends : Nat}
    (leaves : Leaves history session_id ends) (arrival : Arrival) :
    Leaves (history ++ [arrival]) session_id ends := by
  obtain ⟨earlier, member, there, own, short⟩ := leaves
  exact ⟨earlier, List.mem_append_left _ member, there, own, short⟩

structure During (history : List Arrival) (arrival : Arrival) (state : WidgetState) : Prop
    extends Memories (history ++ [arrival]) state where
  now : state.now = arrival.time
  fault : state.fault = arrival.fault

variable {state : WidgetState}

theorem During.history_texts {arrival : Arrival} (during : During history arrival state)
    (session_id : String) : ∀ message ∈ state.history session_id, IsText message := by
  unfold WidgetState.history
  split_ifs
  · simp
  · unfold Expiring.get
    cases stored : state.messages.entry (messagesKey session_id) with
    | none => simp
    | some stored' =>
      simp only [Option.bind_some]
      split_ifs
      · exact during.texts session_id stored'.1 stored'.2 stored
      · simp

theorem during_carried (history : List Arrival) (arrival : Arrival) :
    Carried arrival.request fun left right => left = right ∧ During history arrival left := by
  have here {state : WidgetState} (during : During history arrival state)
      (there : ¬state.fault = true) {ends : Nat} (short : ends = state.now + sessionTtlSeconds) :
      Leaves (history ++ [arrival]) arrival.request.session_id ends := by
    refine ⟨arrival, List.mem_append_right _ (List.mem_singleton.mpr rfl), ?_, rfl, ?_⟩
    · rw [← during.fault]
      exact Bool.not_eq_true _ ▸ there
    · rw [short, during.now]
  constructor
  · rintro left right ⟨rfl, -⟩
    exact ⟨rfl, rfl, rfl, rfl⟩
  · rintro left right agent ⟨rfl, during⟩
    exact ⟨rfl, { during with }⟩
  · rintro left right role content ⟨rfl, during⟩
    refine ⟨rfl, ?_⟩
    have texts := during.history_texts arrival.request.session_id
    unfold WidgetState.appended WidgetState.setHistory
    split_ifs with fault
    · exact during
    · refine { during with texts := ?_, messages := ?_ }
      · intro session_id messages ends stored
        rcases entry_of_setex stored with ⟨-, written⟩ | before
        · rw [(Prod.mk.inj written).1]
          intro message member
          rcases List.mem_append.mp (List.mem_of_mem_drop member) with member | member
          · exact texts message member
          · exact ⟨role, content, List.mem_singleton.mp member⟩
        · exact during.texts session_id messages ends before
      · intro session_id messages ends stored
        rcases entry_of_setex stored with ⟨own, written⟩ | before
        · rw [(messagesKey_inj _ _).mp own]
          exact here during fault (Prod.mk.inj written).2
        · exact during.messages session_id messages ends before
  · rintro left right context ⟨rfl, during⟩
    refine ⟨rfl, ?_⟩
    unfold WidgetState.setContext
    split_ifs with fault
    · exact during
    · refine { during with contexts := ?_ }
      intro session_id stored_ctx ends stored
      rcases entry_of_setex stored with ⟨own, written⟩ | before
      · rw [(contextKey_inj _ _).mp own]
        exact here during fault (Prod.mk.inj written).2
      · exact during.contexts session_id stored_ctx ends before
  · rintro left right conversation ⟨rfl, during⟩
    refine ⟨rfl, ?_⟩
    unfold WidgetState.setConversation
    split_ifs
    · exact during
    · exact { during with }
  · rintro left right ⟨rfl, during⟩
    refine ⟨rfl, ?_⟩
    unfold WidgetState.cleared
    split_ifs
    · exact during
    · refine { during with texts := ?_, messages := ?_, contexts := ?_ }
      · intro session_id messages ends stored
        exact during.texts session_id messages ends (entry_of_delete stored)
      · intro session_id messages ends stored
        exact during.messages session_id messages ends (entry_of_delete stored)
      · intro session_id context ends stored
        exact during.contexts session_id context ends (entry_of_delete stored)

theorem Memories.during (memories : Memories history state) (arrival : Arrival) :
    During history arrival (arrival.meets state) := by
  refine { texts := memories.texts, messages := ?_, contexts := ?_, now := rfl, fault := rfl }
  · intro session_id messages ends stored
    exact (memories.messages session_id messages ends stored).more arrival
  · intro session_id context ends stored
    exact (memories.contexts session_id context ends stored).more arrival

theorem Memories.serve {history : List Arrival} (memories : Memories history state)
    (arrival : Arrival) : Memories (history ++ [arrival]) (serve python regex arrival state).2 := by
  have handled := @Carried.handle python regex arrival.outside _ _ _ _
    (during_carried history arrival) ⟨rfl, memories.during arrival⟩
  exact handled.2.2.toMemories

theorem serve_states {state : WidgetState} (arrival : Arrival)
    (texts : ∀ message ∈ (arrival.meets state).history arrival.request.session_id,
      IsText message) :
    ∃ turn, (serve python regex arrival state).2.states =
      if arrival.fault then state.states
      else state.states.setex arrival.time memoryTtlSeconds arrival.request.stateKey
        (((arrival.meets state).conversation arrival.request.org_id
          arrival.request.session_id).turn turn) := by
  -- Where Redis is there, the conversation takes one more turn.
  obtain ⟨turn, states⟩ := @handle_records python regex arrival.outside _ _ texts
  refine ⟨turn, states.trans ?_⟩
  unfold WidgetState.setConversation
  change (if arrival.fault = true then _ else _ : WidgetState).states = _
  split_ifs <;> rfl

theorem Conversations.serve (conversations : Conversations history state)
    (memories : Memories history state) (arrival : Arrival)
    (ordered : ∀ earlier ∈ history, earlier.time ≤ arrival.time) :
    Conversations (history ++ [arrival]) (FreshStart.serve python regex arrival state).2 := by
  obtain ⟨turn, same⟩ := @serve_states python regex state arrival
    ((memories.during arrival).history_texts _)
  by_cases fault : arrival.fault = true
  · rw [if_pos fault] at same
    constructor
    · rw [same]
      exact conversations.begun
    · rw [same]
      intro key conversation ends stored
      obtain ⟨earlier, member, rest⟩ := conversations.lapse key conversation ends stored
      exact ⟨earlier, List.mem_append_left _ member, rest⟩
    · rw [same]
      intro other member there
      rcases List.mem_append.mp member with member | member
      · exact conversations.last other member there
      · rw [List.mem_singleton.mp member, fault] at there
        cases there
  · have there : arrival.fault = false := Bool.not_eq_true _ ▸ fault
    rw [if_neg fault] at same
    constructor
    · rw [same]
      intro key conversation ends stored
      rcases entry_of_setex stored with ⟨-, written⟩ | before
      · rw [(Prod.mk.inj written).1]
        exact Nat.le_add_left 1 _
      · exact conversations.begun key conversation ends before
    · rw [same]
      intro key conversation ends stored
      rcases entry_of_setex stored with ⟨own, written⟩ | before
      · exact ⟨arrival, List.mem_append_right _ (List.mem_singleton.mpr rfl), there, own.symm,
          (Prod.mk.inj written).2.le⟩
      · obtain ⟨earlier, member, rest⟩ := conversations.lapse key conversation ends before
        exact ⟨earlier, List.mem_append_left _ member, rest⟩
    · rw [same]
      intro other member reachable
      by_cases own : other.request.stateKey = arrival.request.stateKey
      · rw [own]
        refine ⟨_, _, Function.update_self .., ?_⟩
        rcases List.mem_append.mp member with member | member
        · have before := ordered other member
          omega
        · rw [List.mem_singleton.mp member]
      · rw [Expiring.entry_setex_of_ne _ _ _ _ _ _ own]
        rcases List.mem_append.mp member with member | member
        · exact conversations.last other member reachable
        · exact absurd (congrArg (·.request.stateKey) (List.mem_singleton.mp member)) own

theorem history_leaves (agent : AgentState) (history : List Arrival)
    (ordered : history.Pairwise fun earlier later => earlier.time ≤ later.time) :
    Memories history (serveAll python regex history { agent }) ∧
      Conversations history (serveAll python regex history { agent }) := by
  -- What holds of the stores after any history.
  induction history using List.reverseRecOn with
  | nil =>
    constructor
    · constructor <;> intro _ _ _ stored <;> cases stored
    · constructor
      · intro _ _ _ stored
        cases stored
      · intro _ _ _ stored
        cases stored
      · intro _ member
        cases member
  | append_singleton history arrival ih =>
    obtain ⟨before, -, across⟩ := List.pairwise_append.mp ordered
    obtain ⟨memories, conversations⟩ := ih before
    rw [serveAll_concat]
    refine ⟨memories.serve arrival, conversations.serve memories arrival ?_⟩
    intro earlier member
    exact across earlier member arrival (List.mem_singleton.mpr rfl)

end Histories

/-- The requests that came in before, in their order. -/
structure History where
  arrivals : List Arrival
  ordered : arrivals.Pairwise fun earlier later => earlier.time ≤ later.time

def Elapsed (session_id : String) (time : Nat) (history : List Arrival) : Prop :=
  -- All that was written of the conversations of the session has lapsed.
  ∀ arrival ∈ history, arrival.fault = false →
    (∃ org_id, stateKey org_id session_id = arrival.request.stateKey) →
      arrival.time + memoryTtlSeconds ≤ time

theorem turn_stage_first (turn : ConversationTurn) :
    (({} : ConversationState).turn turn).stage = .opening := rfl

theorem turn_stage_later {conversation : ConversationState} (begun : 1 ≤ conversation.turn_count)
    (turn : ConversationTurn) : (conversation.turn turn).stage ≠ .opening := by
  obtain ⟨stage, count, _, _, _, _, _⟩ := conversation
  have second : 2 ≤ count + 1 := by
    simp only at begun
    omega
  unfold ConversationState.turn ConversationState.applyTurn ConversationState.advanceStage
  cases stage <;> simp only [second, if_true] <;> try split_ifs
  all_goals simp

theorem second_conversation {state : WidgetState} (arrival : Arrival)
    (reachable : arrival.fault = false)
    (texts : ∀ message ∈ (arrival.meets state).history arrival.request.session_id,
      IsText message) :
    ∃ turn, (arrival.meets (serve python regex arrival state).2).conversation
        arrival.request.org_id arrival.request.session_id =
      ((arrival.meets state).conversation arrival.request.org_id
        arrival.request.session_id).turn turn := by
  -- What a second request of the session reads, where it comes at once.
  obtain ⟨turn, states⟩ := @serve_states python regex state arrival texts
  refine ⟨turn, ?_⟩
  rw [if_neg (Bool.not_eq_true _ ▸ reachable)] at states
  have there : ¬(arrival.meets (serve python regex arrival state).2).fault = true :=
    Bool.not_eq_true _ ▸ reachable
  generalize (arrival.meets state).conversation arrival.request.org_id
    arrival.request.session_id = before at states ⊢
  unfold WidgetState.conversation
  rw [if_neg there]
  change ((serve python regex arrival state).2.states.get arrival.time
    arrival.request.stateKey).getD {} = _
  rw [states]
  simp [Expiring.get, Expiring.setex, memoryTtlSeconds]

theorem stages_twice (arrival : Arrival) (state : WidgetState) :
    (conducts python regex [arrival, arrival] state).map Conduct.stage =
      [((arrival.meets state).conversation arrival.request.org_id
          arrival.request.session_id).stage,
        ((arrival.meets (serve python regex arrival state).2).conversation arrival.request.org_id
          arrival.request.session_id).stage] := rfl

variable (agent : AgentState)

theorem startsAfresh_of_elapsed (history : History) (session_id : String) (time : Nat)
    (elapsed : Elapsed session_id time history.arrivals) :
    StartsAfresh python regex session_id time
      (serveAll python regex history.arrivals { agent }) := by
  -- The session begins anew, whatever comes, once the state of its conversation has lapsed.
  obtain ⟨memories, conversations⟩ :=
    @history_leaves python regex agent history.arrivals history.ordered
  have left {ends : Nat} (leaves : Leaves history.arrivals session_id ends) : ends ≤ time := by
    obtain ⟨arrival, member, reachable, own, short⟩ := leaves
    have late := elapsed arrival member reachable ⟨arrival.request.org_id, by rw [← own]; rfl⟩
    have within : sessionTtlSeconds ≤ memoryTtlSeconds := by decide
    omega
  intro fresh new same continuation continues
  refine conducts_shared continues ⟨same.symm, ?_, ?_, ?_⟩
  · refine Expiring.SameFrom.of_ended ?_ new.messages
    intro messages ends stored
    exact left (memories.messages session_id messages ends stored)
  · refine Expiring.SameFrom.of_ended ?_ new.contexts
    intro context ends stored
    exact left (memories.contexts session_id context ends stored)
  · intro org_id
    refine Expiring.SameFrom.of_ended ?_ (new.states org_id)
    intro conversation ends stored
    obtain ⟨arrival, member, reachable, own, short⟩ :=
      conversations.lapse _ conversation ends stored
    have late := elapsed arrival member reachable ⟨org_id, own.symm⟩
    omega

theorem elapsed_of_startsAfresh (history : History) (session_id : String) (time : Nat)
    (afresh : StartsAfresh python regex session_id time
      (serveAll python regex history.arrivals { agent })) :
    Elapsed session_id time history.arrivals := by
  -- Before that, two requests that come at once tell the session from a new one.
  obtain ⟨memories, conversations⟩ :=
    @history_leaves python regex agent history.arrivals history.ordered
  rintro arrival member reachable ⟨org_id, own⟩
  by_contra early
  obtain ⟨conversation, ends, stored, late⟩ := conversations.last arrival member reachable
  have begun := conversations.begun _ conversation ends stored
  let next : Arrival :=
    { arrival with request := { arrival.request with session_id, org_id }, time, fault := false }
  let state := serveAll python regex history.arrivals { agent }
  let fresh : WidgetState := { agent := state.agent }
  have continues : Continues session_id time [next, next] := by
    refine ⟨?_, ?_, ?_⟩
    · intro each member
      rcases List.mem_pair.mp member with rfl | rfl <;> rfl
    · intro each member
      rcases List.mem_pair.mp member with rfl | rfl <;> exact le_rfl
    · simp
  have stages := congrArg (List.map Conduct.stage)
    (afresh fresh ⟨rfl, rfl, fun _ => rfl⟩ rfl [next, next] continues)
  rw [stages_twice, stages_twice] at stages
  have second := (List.cons.inj (List.cons.inj stages).2).1
  obtain ⟨turn, here⟩ := @second_conversation python regex state next rfl
    ((memories.during next).history_texts _)
  obtain ⟨turn', there⟩ := @second_conversation python regex fresh next rfl (by simp [
    WidgetState.history, Arrival.meets, fresh, Expiring.get])
  have known : (next.meets state).conversation org_id session_id = conversation := by
    unfold WidgetState.conversation
    rw [if_neg (by exact Bool.false_ne_true)]
    change ((state.states.get time (stateKey org_id session_id)).getD {}) = _
    unfold Expiring.get
    rw [own]
    simp only [state, stored, Option.bind_some]
    rw [if_pos (by omega)]
    rfl
  have unknown : (next.meets fresh).conversation org_id session_id = {} := rfl
  rw [here, there] at second
  change (((next.meets state).conversation org_id session_id).turn turn).stage =
    (((next.meets fresh).conversation org_id session_id).turn turn').stage at second
  rw [known, unknown, turn_stage_first] at second
  exact turn_stage_later begun turn second

def TicketCreated (reply : Except PyError WidgetChatResponse) : Prop :=
  ∃ response id, reply = .ok response ∧ response.escalated = true ∧
    response.ticket_id = some id ∧ id ≠ ""

def Emptied (session_id : String) (state : WidgetState) : Prop :=
  -- Redis has no messages and no context of the session.
  state.messages.entry (messagesKey session_id) = none ∧
    state.contexts.entry (contextKey session_id) = none

section Clearing

variable {outside : WidgetSurroundings} {request : WidgetChatRequest} {state : WidgetState}

theorem called_emptied {call : GatewayCall} {id : String} (reachable : state.fault = false)
    (created : id ≠ "")
    (given : givenId (outside.gateway (state.agent.calls ++ [call])) = .str id) (session_id : String) :
    Emptied session_id (state.called outside call session_id) := by
  have granted : (givenId (outside.gateway (state.agent.calls ++ [call]))).truthy = true := by
    rw [given]
    simpa [Value.truthy] using created
  unfold WidgetState.called WidgetState.cleared
  simp only [granted, reachable, if_true, Bool.false_eq_true, if_false]
  exact ⟨Function.update_self .., Function.update_self ..⟩

theorem recorded_emptied (found : Findings) (agent_action : String)
    (emptied : Emptied session_id state) :
    Emptied session_id (found.recorded request agent_action state) := by
  unfold Findings.recorded WidgetState.setConversation
  split_ifs <;> exact emptied

theorem handle_emptied (reachable : state.fault = false)
    (created : TicketCreated ((handle python regex outside request).run state).1) :
    Emptied request.session_id ((handle python regex outside request).run state).2 := by
  obtain ⟨response, id, replied, escalated, named, proper⟩ := created
  rw [run_handle] at replied ⊢
  have classified : (state.classified regex request).fault = false := by
    rw [Handover.classified_frame.2.2.1, reachable]
  let found := findings python regex outside request state
  split_ifs at replied ⊢ with escalates
  · simp only [run_escalateFirst] at replied ⊢
    have reached : (found.recorded request "escalate" (state.classified regex request)).fault =
        false := by rw [(Handover.recorded_frame found "escalate").2.2.1, classified]
    cases made : ticketCall python request.org_id
      (state.history request.session_id ++ [userMessage request.message])
      (pageContext request.context) found.intent.intent.value found.escalation.severity.value with
    | error error =>
      rw [made] at replied
      cases replied
    | ok call =>
      rw [made] at replied
      exact called_emptied reached proper (Handover.widgetResponse_named replied named) _
  · simp only [Program.run_bind, run_onAgent] at replied ⊢
    obtain ⟨decision, agent, decides⟩ := @agentRun_returns python
      (agentInput python regex outside request state) outside.toSurroundings
      (state.classified regex request).agent
    let middle : WidgetState := { state.classified regex request with agent }
    rw [decides] at replied ⊢
    change ((settle python outside request _ _ _ decision).run middle).1 = _ at replied
    change Emptied _ ((settle python outside request _ _ _ decision).run middle).2
    cases action : decision.action == .escalate with
    | false =>
      rw [run_settle_kept _ _ _ _ _ _ _ _ action] at replied
      rw [(Handover.settledReply_ok replied).1] at escalated
      cases escalated
    | true =>
      rw [run_settle_escalated _ _ _ _ _ _ _ _ action] at replied ⊢
      cases made : ticketCall python request.org_id
        (state.history request.session_id ++
          [userMessage request.message, assistantMessage decision.message])
        (pageContext request.context) found.intent.intent.value
        found.escalation.severity.value with
      | error error =>
        rw [made] at replied
        cases replied
      | ok call =>
        rw [made] at replied
        obtain ⟨_, -, answered⟩ := (bind_eq_ok _ _ _).mp replied
        have emptied := @called_emptied outside middle call id classified proper
          (Handover.widgetResponse_named answered named) request.session_id
        exact recorded_emptied found _ emptied

end Clearing

/-- Whatever came before: the session begins anew for all requests from an instant on just when
nothing written of its conversation is left by then. The escalation itself takes its messages
and its context away, where Redis can be reached. -/
theorem fresh_start (python : Python) (regex : Regex) (agent : AgentState) (history : History)
    (session_id : String) (time : Nat) :
    (StartsAfresh python regex session_id time
        (serveAll python regex history.arrivals { agent }) ↔
      Elapsed session_id time history.arrivals) ∧
    ∀ earlier last, history.arrivals = earlier ++ [last] → last.request.session_id = session_id →
      last.fault = false →
        TicketCreated (serve python regex last (serveAll python regex earlier { agent })).1 →
          Emptied session_id (serveAll python regex history.arrivals { agent }) := by
  refine ⟨⟨elapsed_of_startsAfresh agent history session_id time,
    startsAfresh_of_elapsed agent history session_id time⟩, ?_⟩
  rintro earlier last same rfl reachable created
  rw [same, serveAll_concat]
  exact handle_emptied reachable created

def asksForHuman (time : Nat) : Arrival where
  request := Handover.toHuman
  outside := noting
  time := time

theorem stages_afresh {state : WidgetState} (arrival : Arrival)
    (own : arrival.request.session_id = session_id)
    (afresh : StartsAfresh python regex session_id arrival.time state) :
    (conducts python regex [arrival, arrival] state).map Conduct.stage =
      (conducts python regex [arrival, arrival] { agent := state.agent }).map Conduct.stage := by
  have continues : Continues session_id arrival.time [arrival, arrival] := by
    refine ⟨?_, ?_, ?_⟩ <;> simp [own]
  exact congrArg _ (afresh { agent := state.agent } ⟨rfl, rfl, fun _ => rfl⟩ rfl _ continues)

/-- A minute after a ticket was made of it, the session is not a new one. -/
theorem conversation_survives_ticket :
    TicketCreated (serve (.reading notedData) humanRequests (asksForHuman 0) {}).1 ∧
      ¬StartsAfresh (.reading notedData) humanRequests "s" 60
        (serveAll (.reading notedData) humanRequests [asksForHuman 0] {}) := by
  constructor
  · have told : ((serve (.reading notedData) humanRequests (asksForHuman 0) {}).1.map
        fun response => (response.escalated, response.ticket_id)) = .ok (true, some "T-1") := by
      decide +kernel
    cases replied : (serve (.reading notedData) humanRequests (asksForHuman 0) {}).1 with
    | error error =>
      rw [replied] at told
      cases told
    | ok response =>
      rw [replied] at told
      have told := Prod.mk.inj (Except.ok.inj told)
      exact ⟨response, "T-1", rfl, told.1, told.2, by decide⟩
  · intro afresh
    exact absurd (stages_afresh (asksForHuman 60) rfl afresh) (by decide +kernel)

end FreshStart

end HelpForge.Chatbot
