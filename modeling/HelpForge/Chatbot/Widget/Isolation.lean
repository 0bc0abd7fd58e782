import HelpForge.Chatbot.Agent.Secrecy
import HelpForge.Chatbot.Widget.Session

set_option autoImplicit false

namespace HelpForge.Chatbot

open Lib

structure Visit where
  request : WidgetChatRequest
  outside : WidgetSurroundings

structure Turning (κ : Type) where
  call : κ
  time : Nat
  fault : Bool

def Turning.meets {κ : Type} (turning : Turning κ) (state : WidgetState) : WidgetState :=
  { state with now := turning.time, fault := turning.fault }

structure WidgetRun (κ : Type) where
  visits : κ → Visit
  turns : List (Turning κ)
  ordered : turns.Pairwise fun earlier later => earlier.time ≤ later.time

namespace WidgetRun

variable {κ : Type} [DecidableEq κ]

def org (run : WidgetRun κ) (call : κ) : String := (run.visits call).request.org_id

def session (run : WidgetRun κ) (call : κ) : String := (run.visits call).request.session_id

def pool (run : WidgetRun κ) (python : Python) (regex : Regex) (agent : AgentState) :
    Pool κ WidgetState (SessionCall WidgetChatResponse) :=
  Pool.attend Turning.call Turning.meets
    (fun call => handle python regex (run.visits call).outside (run.visits call).request)
    run.turns (Pool.idle { agent })

/-- What an organisation gets to see of a run: the replies to its requests, the prompts made
for it, and the requests, as for a ticket, that reach the gateway for it. -/
structure Sight (κ : Type) where
  replies : κ → Option (Except PyError WidgetChatResponse)
  prompts : List Prompt
  requests : List GatewayCall

def answered (pool : Pool κ WidgetState (SessionCall WidgetChatResponse)) (call : κ) :
    Option (Except PyError WidgetChatResponse) :=
  match pool.calls call with
  | some (.done result) => some result
  | _ => none

def seenBy (run : WidgetRun κ) (python : Python) (regex : Regex) (agent : AgentState)
    (org_id : String) : Sight κ where
  replies call :=
    if run.org call = org_id then answered (run.pool python regex agent) call else none
  prompts := promptsFor org_id (run.pool python regex agent).state.agent.asked
  requests := callsFor org_id (run.pool python regex agent).state.agent.calls

/-- The runs differ in the messages of one organisation. -/
structure DifferIn (first second : WidgetRun κ) (org_id : String) : Prop where
  outside : ∀ call, (second.visits call).outside = (first.visits call).outside
  request : ∀ call, (second.visits call).request =
    { (first.visits call).request with message := (second.visits call).request.message }
  message : ∀ call, first.org call ≠ org_id →
    (second.visits call).request.message = (first.visits call).request.message

def SameTurns (first second : WidgetRun κ) (inside : String → Bool) : Prop :=
  first.turns.filter (fun turning => !inside (first.org turning.call)) =
    second.turns.filter fun turning => !inside (second.org turning.call)

end WidgetRun

inductive WidgetFact where
  | agent (fact : AgentFact)
  | messages (time : Nat) (key : String)
  | contexts (time : Nat) (key : String)
  | states (time : Nat) (key : String)

open Expiring (SameFrom Within Touched) in
def WidgetFact.Shared : WidgetFact → WidgetState → WidgetState → Prop
  | .agent fact, left, right => fact.Shared left.agent right.agent
  | .messages time key, left, right => SameFrom time key left.messages right.messages
  | .contexts time key, left, right => SameFrom time key left.contexts right.contexts
  | .states time key, left, right => SameFrom time key left.states right.states

theorem WidgetFact.equivalence (fact : WidgetFact) : Equivalence fact.Shared := by
  cases fact with
  | agent fact =>
    have inside := fact.equivalence
    exact ⟨fun _ => inside.refl _, inside.symm, inside.trans⟩
  | messages time key =>
    have inside := @Expiring.SameFrom.equivalence _ (List (Dict Value)) time key
    exact ⟨fun _ => inside.refl _, inside.symm, inside.trans⟩
  | contexts time key =>
    have inside := @Expiring.SameFrom.equivalence _ (Dict Value) time key
    exact ⟨fun _ => inside.refl _, inside.symm, inside.trans⟩
  | states time key =>
    have inside := @Expiring.SameFrom.equivalence _ ConversationState time key
    exact ⟨fun _ => inside.refl _, inside.symm, inside.trans⟩

def WidgetChatRequest.stateKey (request : WidgetChatRequest) : String :=
  Chatbot.stateKey request.org_id request.session_id

structure SameSession (request : WidgetChatRequest) (left right : WidgetState) : Prop where
  now : left.now = right.now
  fault : left.fault = right.fault
  agent : SameFor request.org_id left.agent right.agent
  messages : Expiring.SameFrom left.now (messagesKey request.session_id) left.messages
    right.messages
  contexts : Expiring.SameFrom left.now (contextKey request.session_id) left.contexts
    right.contexts
  states : Expiring.SameFrom left.now request.stateKey left.states right.states

structure WidgetState.Bounded (state : WidgetState) : Prop where
  messages : Expiring.Within sessionTtlSeconds state.now state.messages
  contexts : Expiring.Within sessionTtlSeconds state.now state.contexts
  states : Expiring.Within memoryTtlSeconds state.now state.states

structure OnlySession (request : WidgetChatRequest) (state reached : WidgetState) : Prop where
  now : reached.now = state.now
  agent : OnlyFor request.org_id state.agent reached.agent
  messages : Expiring.Touched sessionTtlSeconds state.now (messagesKey request.session_id)
    state.messages reached.messages
  contexts : Expiring.Touched sessionTtlSeconds state.now (contextKey request.session_id)
    state.contexts reached.contexts
  states : Expiring.Touched memoryTtlSeconds state.now request.stateKey
    state.states reached.states

abbrev InSession (request : WidgetChatRequest) {α : Type} (post : α → Prop)
    (call : SessionCall α) (known : WidgetFact → Prop) : Prop :=
  call.GoesBy WidgetFact.Shared (SameSession request) (OnlySession request) post known

theorem OnlySession.refl (request : WidgetChatRequest) (state : WidgetState) :
    OnlySession request state state :=
  ⟨rfl, .of_fields rfl, .refl _, .refl _, .refl _⟩

section Session

variable {request : WidgetChatRequest} {known : WidgetFact → Prop} {α : Type}

theorem command_in_session (body : WidgetState → α × WidgetState)
    (same : ∀ left right, SameSession request left right → (body left).1 = (body right).1 ∧
      ∀ fact : WidgetFact, fact.Shared left right → fact.Shared (body left).2 (body right).2)
    (sides : ∀ state, OnlySession request state (body state).2) :
    InSession request (fun _ => True) (command body) known := by
  refine .bind (?_ : InSession request (fun _ => True) _ known) fun _ _ => .done fun _ _ => trivial
  refine .stretch ?_ ?_ fun _ => trivial
  · intro left right need _
    simp only [StateT.run, ← need.fault]
    cases left.fault with
    | true => exact ⟨rfl, fun fact shared => shared⟩
    | false =>
      obtain ⟨value, facts⟩ := same left right need
      exact ⟨congrArg Except.ok value, facts⟩
  · intro state
    simp only [StateT.run]
    cases state.fault with
    | true => exact .refl request state
    | false => exact sides state

theorem command_reads (view : WidgetState → α)
    (same : ∀ left right, SameSession request left right → view left = view right) :
    InSession request (fun _ => True) (command fun state => (view state, state)) known :=
  command_in_session _ (fun left right need => ⟨same left right need, fun _ shared => shared⟩)
    fun state => .refl request state

theorem recovered {call : SessionCall α} (value : α)
    (goes : InSession request (fun _ => True) call known) :
    InSession request (fun _ => True) (call.recover fun _ => pure value) known :=
  Program.GoesBy.recover goes fun _ => .pure trivial

theorem getSession_in_session : InSession request (fun _ => True)
    (WidgetSessionMemory.getSession request.session_id) known := by
  refine recovered _ (command_reads _ ?_)
  intro left right need
  rw [need.messages _ le_rfl, need.contexts _ le_rfl, need.now]

theorem setMessages_in_session (messages : List (Dict Value)) : InSession request (fun _ => True)
    (command fun state =>
      ((), { state with
        messages := state.messages.setex state.now sessionTtlSeconds
          (messagesKey request.session_id) messages })) known := by
  refine command_in_session _ ?_ ?_
  · intro left right need
    refine ⟨rfl, fun fact shared => ?_⟩
    cases fact with
    | messages time key =>
      simp only [WidgetFact.Shared, ← need.now]
      exact Expiring.SameFrom.setex shared _ _ _ _
    | _ => exact shared
  · intro state
    exact ⟨rfl, .of_fields rfl, .setex _ _, .refl _, .refl _⟩

theorem appendMessage_in_session (role content : String) : InSession request (fun _ => True)
    (WidgetSessionMemory.appendMessage request.session_id role content) known := by
  refine recovered _ ((command_reads _ ?_).bind fun messages _ => setMessages_in_session _)
  intro left right need
  rw [need.messages _ le_rfl, need.now]

theorem saveContext_in_session (context : Dict Value) : InSession request (fun _ => True)
    (WidgetSessionMemory.saveContext request.session_id context) known := by
  refine recovered _ (command_in_session _ ?_ ?_)
  · intro left right need
    refine ⟨rfl, fun fact shared => ?_⟩
    cases fact with
    | contexts time key =>
      simp only [WidgetFact.Shared, ← need.now]
      exact Expiring.SameFrom.setex shared _ _ _ _
    | _ => exact shared
  · intro state
    exact ⟨rfl, .of_fields rfl, .refl _, .setex _ _, .refl _⟩

theorem clear_in_session : InSession request (fun _ => True)
    (WidgetSessionMemory.clear request.session_id) known := by
  refine recovered _ (command_in_session _ ?_ ?_)
  · intro left right need
    refine ⟨rfl, fun fact shared => ?_⟩
    cases fact with
    | messages time key => exact Expiring.SameFrom.delete shared _
    | contexts time key => exact Expiring.SameFrom.delete shared _
    | _ => exact shared
  · intro state
    exact ⟨rfl, .of_fields rfl, .delete _, .delete _, .refl _⟩

theorem getOrCreate_in_session : InSession request (fun _ => True)
    (ConversationStateStore.getOrCreate request.org_id request.session_id) known := by
  refine recovered _ (command_reads _ ?_)
  intro left right need
  have same := need.states _ le_rfl
  unfold WidgetChatRequest.stateKey at same
  rw [same, need.now]

theorem update_in_session (intent : String) (entities : Dict (List String))
    (severity agent_action : String) : InSession request (fun _ => True)
      (ConversationStateStore.update request.org_id request.session_id intent entities severity
        agent_action) known := by
  refine recovered _ (getOrCreate_in_session.bind fun before _ => command_in_session _ ?_ ?_)
  · intro left right need
    refine ⟨rfl, fun fact shared => ?_⟩
    cases fact with
    | states time key =>
      simp only [WidgetFact.Shared, ← need.now]
      exact Expiring.SameFrom.setex shared _ _ _ _
    | _ => exact shared
  · intro state
    exact ⟨rfl, .of_fields rfl, .refl _, .refl _, .setex _ _⟩

theorem onAgent_in_session {call : AgentCall α}
    (confined : ConfinedTo request.org_id (fun _ => True) call fun _ => False) :
    InSession request (fun _ => True) (onAgent call) known := by
  have zoomed : InSession request (fun _ => True) (onAgent call) fun fact =>
      known fact ∨ ∃ part, fact = .agent part ∧ False := by
    refine Program.GoesBy.zoom WidgetFact.agent ?_ ?_ ?_ ?_ ?_ confined
    · intro left right need
      exact need.agent
    · intro part left right
      exact Iff.rfl
    · intro part state
      rfl
    · intro fact
      cases fact with
      | agent part => exact .inl ⟨part, rfl⟩
      | _ => exact .inr fun _ _ _ _ shared => shared
    · intro state part only
      exact ⟨rfl, only, .refl _, .refl _, .refl _⟩
  refine zoomed.known_mono ?_
  rintro fact (held | ⟨_, _, impossible⟩)
  · exact held
  · exact impossible.elim

variable {python : Python} {regex : Regex} {outside : WidgetSurroundings} {org_id : String}

theorem detectIntent_confined (message : String) :
    ConfinedTo org_id (fun _ => True)
      (detectIntent python regex outside.toSurroundings org_id message) fun _ => False := by
  unfold detectIntent
  split
  · exact .pure trivial
  · refine (asked_confined { org_id, content := message, system_prompt := intentSystem } rfl).bind ?_
    intro _ _
    exact .pure trivial

theorem send_confined (separates : outside.gateway.Separates) (call : GatewayCall)
    (own : call.orgId = some (.str org_id)) :
    ConfinedTo org_id (fun _ => True) (Program.stretch (send outside.gateway call))
      fun _ => False := by
  refine .stretch ?_ ?_ fun _ => trivial
  · intro left right need _
    refine ⟨separates org_id left.calls right.calls call own need.calls, fun fact shared => ?_⟩
    exact shared.sent [call] rfl rfl fun counted => counted
  · intro state
    exact .sent [call] (fun _ member => List.mem_singleton.mp member ▸ own) rfl

theorem escalate_in_session (separates : outside.gateway.Separates)
    (messages : List (Dict Value)) (page_context : Dict Value) (intent severity : String) :
    InSession request (fun _ => True)
      (escalateWidgetSession python outside request.org_id request.session_id messages
        page_context intent severity) known := by
  unfold escalateWidgetSession
  refine Program.GoesBy.bind (.done fun _ _ => trivial) fun last _ => ?_
  refine Program.GoesBy.bind (.done fun _ _ => trivial) fun description _ => ?_
  refine (onAgent_in_session (send_confined separates _ rfl)).bind fun answer _ => ?_
  cases answer >>= createdTicketId with
  | error error => exact .pure trivial
  | ok ticket_id =>
    cases truthy : ticket_id.truthy with
    | false =>
      simp only [truthy, Bool.false_eq_true, if_false]
      exact .pure trivial
    | true =>
      simp only [truthy, if_true]
      exact clear_in_session.bind fun _ _ => .pure trivial

theorem detect_in_session : InSession request (fun _ => True)
    (detect python regex outside request) known := by
  refine getOrCreate_in_session.bind fun state _ => ?_
  refine (onAgent_in_session (detectIntent_confined _)).bind fun intent _ => ?_
  exact .pure trivial

theorem escalateFirst_in_session (separates : outside.gateway.Separates)
    (messages : List (Dict Value)) (findings : Findings) : InSession request (fun _ => True)
      (escalateFirst python outside request messages findings) known := by
  refine (update_in_session _ _ _ _).bind fun _ _ => ?_
  refine (escalate_in_session separates _ _ _ _).bind fun ticket_id _ => ?_
  exact .done fun _ _ => trivial

theorem settle_in_session (separates : outside.gateway.Separates)
    (messages : List (Dict Value)) (stored_ctx : Dict Value) (findings : Findings)
    (decision : AgentDecision) : InSession request (fun _ => True)
      (settle python outside request messages stored_ctx findings decision) known := by
  have answered (escalated : Bool) (ticket_id : Value) : InSession request (fun _ => True)
      (do
        Program.done (outside.trace decision)
        Program.done (widgetResponse python request decision.message
          (buildActions decision.action.value request.context.page) decision.confidence escalated
          ticket_id)) known :=
    Program.GoesBy.bind (.done fun _ _ => trivial) fun _ _ => .done fun _ _ => trivial
  unfold settle
  cases decision.action == .escalate with
  | true =>
    simp only [if_true, Bool.not_true, Bool.false_eq_true, if_false]
    refine (escalate_in_session separates _ _ _ _).bind fun ticket_id _ => ?_
    exact (update_in_session _ _ _ _).bind fun _ _ => answered true ticket_id
  | false =>
    simp only [Bool.not_false, if_true, Bool.false_eq_true, if_false, Program.pure_bind]
    refine (update_in_session _ _ _ _).bind fun _ _ => ?_
    refine (appendMessage_in_session _ _).bind fun _ _ => ?_
    refine (appendMessage_in_session _ _).bind fun _ _ => ?_
    exact (saveContext_in_session _).bind fun _ _ => answered false .none

theorem handle_in_session (separates : outside.gateway.Separates)
    (keeps : outside.toSurroundings.KeepsTo python) : InSession request (fun _ => True)
      (handle python regex outside request) known := by
  refine getSession_in_session.bind ?_
  rintro ⟨messages, stored_ctx⟩ -
  refine detect_in_session.bind fun findings _ => ?_
  split
  · exact escalateFirst_in_session separates _ _
  · refine (onAgent_in_session (agentRun_confined _ separates keeps rfl)).bind
      fun decision _ => ?_
    exact settle_in_session separates _ _ _ _

end Session

section Isolation

variable {κ : Type} [DecidableEq κ]

namespace WidgetRun

def Apart (run : WidgetRun κ) (inside : String → Bool) (turns : List (Turning κ)) : Prop :=
  -- An organisation outside finds a session, or the state of its conversation, only where the last
  -- organisation inside that used it is long gone.
  turns.Pairwise fun earlier later =>
    inside (run.org earlier.call) = true → inside (run.org later.call) = false →
      (run.session earlier.call = run.session later.call →
        earlier.time + sessionTtlSeconds ≤ later.time) ∧
      (stateKey (run.org earlier.call) (run.session earlier.call) =
          stateKey (run.org later.call) (run.session later.call) →
        earlier.time + memoryTtlSeconds ≤ later.time)

def Unbroken (run : WidgetRun κ) (inside : String → Bool) : Prop :=
  -- No request of an organisation inside takes a turn while one from outside is handled.
  ∀ first between last, [first, between, last].Sublist run.turns →
    first.call = last.call → inside (run.org first.call) = false →
      inside (run.org between.call) = false

end WidgetRun

def knownBefore (run : WidgetRun κ) (inside : String → Bool) (rest : List (Turning κ)) :
    WidgetFact → Prop
  | .agent .statuses => True
  | .agent .call_count => False
  | .agent (.calls org_id) | .agent (.asked org_id) => inside org_id = false
  | .messages time key => ∃ turning ∈ rest, inside (run.org turning.call) = false ∧
    key = messagesKey (run.session turning.call) ∧ turning.time ≤ time
  | .contexts time key => ∃ turning ∈ rest, inside (run.org turning.call) = false ∧
    key = contextKey (run.session turning.call) ∧ turning.time ≤ time
  | .states time key => ∃ turning ∈ rest, inside (run.org turning.call) = false ∧
    key = (run.visits turning.call).request.stateKey ∧ turning.time ≤ time

structure Due (run : WidgetRun κ) (inside : String → Bool) (rest : List (Turning κ))
    (state : WidgetState) : Prop where
  bounded : state.Bounded
  now : ∀ turning ∈ rest, state.now ≤ turning.time
  ordered : rest.Pairwise fun earlier later => earlier.time ≤ later.time
  apart : run.Apart inside rest

omit [DecidableEq κ] in
theorem Due.meets {run : WidgetRun κ} {inside : String → Bool} {turning : Turning κ}
    {rest : List (Turning κ)} {state : WidgetState} (due : Due run inside (turning :: rest) state) :
    Due run inside rest (turning.meets state) := by
  have later := due.now turning (List.mem_cons_self ..)
  have bounded := due.bounded
  refine ⟨⟨?_, ?_, ?_⟩, ?_, ?_, ?_⟩
  · exact bounded.messages.later later
  · exact bounded.contexts.later later
  · exact bounded.states.later later
  · exact (List.pairwise_cons.mp due.ordered).1
  · exact (List.pairwise_cons.mp due.ordered).2
  · exact (List.pairwise_cons.mp due.apart).2

omit [DecidableEq κ] in
theorem Due.moved {run : WidgetRun κ} {inside : String → Bool} {rest : List (Turning κ)}
    {state reached : WidgetState} {request : WidgetChatRequest} (due : Due run inside rest state)
    (only : OnlySession request state reached) : Due run inside rest reached := by
  have bounded := due.bounded
  refine ⟨⟨?_, ?_, ?_⟩, ?_, due.ordered, due.apart⟩
  · rw [only.now]
    exact only.messages.within bounded.messages
  · rw [only.now]
    exact only.contexts.within bounded.contexts
  · rw [only.now]
    exact only.states.within bounded.states
  · rw [only.now]
    exact due.now

theorem messagesKey_inj (session other : String) :
    messagesKey session = messagesKey other ↔ session = other :=
  String.append_right_inj "session:messages:"

theorem contextKey_inj (session other : String) :
    contextKey session = contextKey other ↔ session = other :=
  String.append_right_inj "session:context:"

omit [DecidableEq κ] in
theorem spared {run : WidgetRun κ} {inside : String → Bool} {turning : Turning κ}
    {rest : List (Turning κ)} {state reached : WidgetState}
    (within : inside (run.org turning.call) = true)
    (due : Due run inside (turning :: rest) state)
    (only : OnlySession (run.visits turning.call).request (turning.meets state) reached) :
    Agree WidgetFact.Shared (knownBefore run inside rest) (turning.meets state) reached := by
  have bounded := due.meets.bounded
  have apart := (List.pairwise_cons.mp due.apart).1
  have differs : ∀ org_id, inside org_id = false →
      org_id ≠ (run.visits turning.call).request.org_id := by
    rintro _ outside rfl
    exact absurd (within.symm.trans outside) (by decide)
  intro fact known
  cases fact with
  | agent fact =>
    cases fact with
    | statuses => exact only.agent.statuses
    | call_count => exact known.elim
    | calls org_id => exact only.agent.calls org_id (differs org_id known)
    | asked org_id => exact only.agent.asked org_id (differs org_id known)
  | messages time key =>
    obtain ⟨later, member, outside, rfl, due⟩ := known
    by_cases same : run.session turning.call = run.session later.call
    · have gone := (apart later member within outside).1 same
      exact only.messages.sameFrom_late bounded.messages time (Nat.le_trans gone due) _
    · refine only.messages.sameFrom_other time _ ?_
      rw [Ne, messagesKey_inj]
      exact Ne.symm same
  | contexts time key =>
    obtain ⟨later, member, outside, rfl, due⟩ := known
    by_cases same : run.session turning.call = run.session later.call
    · have gone := (apart later member within outside).1 same
      exact only.contexts.sameFrom_late bounded.contexts time (Nat.le_trans gone due) _
    · refine only.contexts.sameFrom_other time _ ?_
      rw [Ne, contextKey_inj]
      exact Ne.symm same
  | states time key =>
    obtain ⟨later, member, outside, rfl, due⟩ := known
    by_cases same : (run.visits turning.call).request.stateKey =
        (run.visits later.call).request.stateKey
    · have gone := (apart later member within outside).2 same
      exact only.states.sameFrom_late bounded.states time (Nat.le_trans gone due) _
    · exact only.states.sameFrom_other time _ (Ne.symm same)

omit [DecidableEq κ] in
theorem needed {run : WidgetRun κ} {inside : String → Bool} {turning : Turning κ}
    {rest : List (Turning κ)} {left right : WidgetState}
    (outside : inside (run.org turning.call) = false)
    (agree : Agree WidgetFact.Shared (knownBefore run inside (turning :: rest)) left right) :
    SameSession (run.visits turning.call).request (turning.meets left)
      (turning.meets right) where
  now := rfl
  fault := rfl
  agent := ⟨agree (.agent .statuses) trivial, agree (.agent (.calls _)) outside⟩
  messages := agree (.messages turning.time _)
    ⟨turning, List.mem_cons_self .., outside, rfl, le_rfl⟩
  contexts := agree (.contexts turning.time _)
    ⟨turning, List.mem_cons_self .., outside, rfl, le_rfl⟩
  states := agree (.states turning.time _)
    ⟨turning, List.mem_cons_self .., outside, rfl, le_rfl⟩

def isolation (run : WidgetRun κ) (inside : String → Bool) :
    Policy κ (Turning κ) WidgetState WidgetFact where
  call := Turning.call
  meets := Turning.meets
  low call := !inside (run.org call)
  fact := WidgetFact.Shared
  need call := SameSession (run.visits call).request
  side call := OnlySession (run.visits call).request
  inv := Due run inside
  known := knownBefore run inside
  equivalence := WidgetFact.equivalence
  unseen fact turning state := by
    cases fact with
    | agent fact => exact fact.equivalence.refl _
    | _ => exact Expiring.SameFrom.refl _ _ _
  remains turning rest fact held := by
    have longer {holds : Turning κ → Prop} (found : ∃ other ∈ rest, holds other) :
        ∃ other ∈ turning :: rest, holds other := by
      obtain ⟨other, member, held⟩ := found
      exact ⟨other, List.mem_cons_of_mem _ member, held⟩
    cases fact with
    | agent fact => cases fact <;> exact held
    | _ => exact longer held
  needed turning rest left right low _ agree := needed (by simpa using low) agree
  held _ _ _ due := due.meets
  moved _ _ _ _ due only := due.meets.moved only
  spared turning rest state reached high due only := spared (by simpa using high) due only

omit [DecidableEq κ] in
theorem WidgetRun.DifferIn.visits {first second : WidgetRun κ} {A : String}
    (differ : first.DifferIn second A) (call : κ) (other : first.org call ≠ A) :
    second.visits call = first.visits call := by
  have outside := differ.outside call
  have request := differ.request call
  rw [differ.message call other] at request
  cases one : second.visits call
  cases another : first.visits call
  rw [one, another] at outside request
  cases outside
  cases request
  rfl

omit [DecidableEq κ] in
theorem WidgetRun.DifferIn.org {first second : WidgetRun κ} {A : String}
    (differ : first.DifferIn second A) (call : κ) : second.org call = first.org call := by
  unfold WidgetRun.org
  rw [differ.request call]

theorem purged {run other : WidgetRun κ} {inside : String → Bool} {python : Python}
    (regex : Regex) (agent : AgentState)
    (same : ∀ call, inside (run.org call) = false → other.visits call = run.visits call)
    (apart : run.Apart inside run.turns) (unbroken : run.Unbroken inside)
    (separates : ∀ call, (run.visits call).outside.gateway.Separates)
    (keeps : ∀ call, (run.visits call).outside.toSurroundings.KeepsTo python) :
    (isolation run inside).Alike [] (run.pool python regex agent)
      (Pool.attend Turning.call Turning.meets
        (fun call => handle python regex (other.visits call).outside (other.visits call).request)
        (run.turns.filter fun turning => !inside (run.org turning.call))
        (Pool.idle { agent })) := by
  -- To the organisations outside, a run looks like the run without the others, where only the
  -- requests from outside have to be the same.
  have idle : (isolation run inside).Alike run.turns
      (Pool.idle { agent } : Pool κ WidgetState (SessionCall WidgetChatResponse))
      (Pool.idle { agent }) := by
    refine Policy.alike_idle _ _ _ ⟨⟨?_, ?_, ?_⟩, ?_, run.ordered, apart⟩
    · exact fun _ _ _ => nofun
    · exact fun _ _ _ => nofun
    · exact fun _ _ _ => nofun
    · exact fun _ _ => Nat.zero_le _
  refine Policy.purge ?_ ?_ run.turns ?_ idle
  · intro call
    exact handle_in_session (separates call) (keeps call)
  · intro call low
    rw [same call (by simpa [isolation] using low)]
  · intro first between last ordered own low
    have visible := unbroken first between last ordered own (by simpa [isolation] using low)
    simpa [isolation] using visible

/-- What one organisation sees does not depend on the messages of another, where the
sessions of the two are kept apart. -/
theorem isolated_when_apart (python : Python) (regex : Regex) (agent : AgentState)
    (A B : String) (inside : String → Bool) (first second : WidgetRun κ)
    (differ : first.DifferIn second A) (turns : first.SameTurns second inside)
    (a_inside : inside A = true) (b_outside : inside B = false)
    (apart : first.Apart inside first.turns) (apart' : second.Apart inside second.turns)
    (unbroken : first.Unbroken inside) (unbroken' : second.Unbroken inside)
    (separates : ∀ call, (first.visits call).outside.gateway.Separates)
    (keeps : ∀ call, (first.visits call).outside.toSurroundings.KeepsTo python) :
    first.seenBy python regex agent B = second.seenBy python regex agent B := by
  have same : ∀ call, inside (first.org call) = false → second.visits call = first.visits call := by
    intro call outside
    refine differ.visits call ?_
    rintro rfl
    exact absurd (a_inside.symm.trans outside) (by decide)
  have one := purged regex agent (fun _ _ => rfl) apart unbroken separates keeps
  have other := purged regex agent
    (fun call outside => (same call (differ.org call ▸ outside)).symm) apart' unbroken'
    (fun call => differ.outside call ▸ separates call)
    (fun call => differ.outside call ▸ keeps call)
  rw [← turns] at other
  have seen : ∀ fact, knownBefore first inside [] fact → fact.Shared
      (first.pool python regex agent).state (second.pool python regex agent).state := by
    intro fact known
    have known' : knownBefore second inside [] fact := by
      cases fact with
      | agent fact => cases fact <;> exact known
      | _ =>
        obtain ⟨_, impossible, -⟩ := known
        cases impossible
    exact fact.equivalence.trans (one.facts fact known)
      (fact.equivalence.symm (other.facts fact known'))
  have prompts := seen (.agent (.asked B)) b_outside
  have requests := seen (.agent (.calls B)) b_outside
  have replies : (fun call => if first.org call = B then
        WidgetRun.answered (first.pool python regex agent) call else none) =
      fun call => if second.org call = B then
        WidgetRun.answered (second.pool python regex agent) call else none := by
    funext call
    rw [differ.org call]
    by_cases own : first.org call = B
    · have outside : inside (first.org call) = false := own ▸ b_outside
      have calls := (one.calls call (by simpa [isolation] using outside)).trans
        (other.calls call (by simpa [isolation, differ.org] using outside)).symm
      simp only [own, if_true, WidgetRun.answered, calls]
    · simp only [own, if_false]
  simp only [WidgetRun.seenBy, replies]
  congr 1

end Isolation

/-! Two organisations, of which one has a message of its own and the other asks for a human. -/

def noted : String :=
  "\x7b\"action\": \"respond\", \"confidence\": 1, \"reasoning\": \"noted\", " ++
    "\"message\": \"Noted.\"\x7d"

def notedData : Value := .dict
  [("action", .str "respond"), ("confidence", .int 1), ("reasoning", .str "noted"),
    ("message", .str "Noted.")]

def askForHuman : String := "speak to a human"

/-- Of the texts below only this one is found by a pattern, and by no other pattern. -/
def humanRequests : Regex where
  search pattern text := text = askForHuman ∧ pattern = humanRequestPattern
  finditer _ _ _ := []

def noting : WidgetSurroundings where
  generate _ _ := .ok (.dict [("content", .str noted)])
  gateway _ := .ok (.dict [("id", .str "T-1")])

def twoVisits (session text : String) : Bool → Visit
  | false => ⟨{ session_id := session, org_id := "A", message := text }, noting⟩
  | true => ⟨{ session_id := "s", org_id := "B", message := askForHuman }, noting⟩

def twoTurns : List (Turning Bool) :=
  List.replicate 20 ⟨false, 0, false⟩ ++ List.replicate 9 ⟨true, 1, false⟩

def twoRequests (session text : String) : WidgetRun Bool where
  visits := twoVisits session text
  turns := twoTurns
  ordered := by decide

theorem twoRequests_differ (session text other : String) :
    (twoRequests session text).DifferIn (twoRequests session other) "A" := by
  refine ⟨fun call => by cases call <;> rfl, fun call => by cases call <;> rfl, ?_⟩
  intro call differs
  cases call with
  | false => exact absurd rfl differs
  | true => rfl

theorem twoRequests_unbroken (session text : String) :
    (twoRequests session text).Unbroken (· == "A") := by
  intro first between last ordered _ outside
  have later : twoTurns.Pairwise fun one other => one.call = true → other.call = true := by
    decide
  have own : first.call = true := by
    rcases call : first.call
    · simp [WidgetRun.org, twoRequests, twoVisits, call] at outside
    · rfl
  have next := (List.pairwise_cons.mp (later.sublist ordered)).1 between (by simp) own
  simp [WidgetRun.org, twoRequests, twoVisits, next]

theorem noting_separates : noting.gateway.Separates := by
  intro _ _ _ _ _ _
  rfl

theorem noting_keepsTo : noting.toSurroundings.KeepsTo (.reading notedData) := by
  have none : ∀ mode : AgentMode, ∀ inp : AgentInput, inp.mode = mode →
      (readReply (.reading notedData) inp (.dict [("content", .str noted)])).map
        (fun reply => reply.2.tool) = .ok none := by
    intro mode inp same
    unfold readReply
    rw [same]
    cases mode <;> decide +kernel
  intro inp step prompt answer tokens decision answered said tool found
  cases answered
  have absent := none inp.mode inp rfl
  rw [said] at absent
  have absent : decision.tool = Option.none := Except.ok.inj absent
  have nothing : findTool "" = Option.none := by decide
  rw [absent, Option.getD_none, nothing] at found
  cases found

theorem twoRequests_apart (session text : String) (differs : session ≠ "s")
    (keys : stateKey "A" session ≠ stateKey "B" "s") :
    (twoRequests session text).Apart (· == "A") twoTurns := by
  refine List.pairwise_of_forall fun earlier later within outside => ?_
  have first : earlier.call = false := by
    rcases call : earlier.call
    · rfl
    · simp [WidgetRun.org, twoRequests, twoVisits, call] at within
  have second : later.call = true := by
    rcases call : later.call
    · simp [WidgetRun.org, twoRequests, twoVisits, call] at outside
    · rfl
  simp only [WidgetRun.org, WidgetRun.session, twoRequests, twoVisits, first, second]
  exact ⟨fun same => absurd same differs, fun same => absurd same keys⟩

theorem own_sessions_isolated :
    (twoRequests "r" "Our merger closes on Friday.").seenBy (.reading notedData) humanRequests {}
        "B" =
      (twoRequests "r" "Hello.").seenBy (.reading notedData) humanRequests {} "B" :=
  isolated_when_apart (.reading notedData) humanRequests {} "A" "B" (· == "A") _ _
    (twoRequests_differ "r" _ _) rfl rfl rfl (twoRequests_apart "r" _ (by decide) (by decide))
    (twoRequests_apart "r" _ (by decide) (by decide)) (twoRequests_unbroken "r" _)
    (twoRequests_unbroken "r" _) (fun call => by cases call <;> exact noting_separates)
    (fun call => by cases call <;> exact noting_keepsTo)

def descriptionSizes (sight : WidgetRun.Sight Bool) : List (Option Nat) :=
  sight.requests.map fun call =>
    ((call.json.bind fun sent => sent.lookup "description").bind Value.asStr).map
      String.utf8ByteSize

/-- Both use one session id: the ticket of the one tells what the other had written. -/
theorem transcript_of_other_told :
    (twoRequests "s" "Our merger closes on Friday.").DifferIn (twoRequests "s" "Hello.") "A" ∧
      (twoRequests "s" "Our merger closes on Friday.").SameTurns (twoRequests "s" "Hello.")
        (· == "A") ∧
      (twoRequests "s" "Our merger closes on Friday.").seenBy (.reading notedData) humanRequests
          {} "B" ≠
        (twoRequests "s" "Hello.").seenBy (.reading notedData) humanRequests {} "B" := by
  refine ⟨twoRequests_differ "s" _ _, rfl, fun same => ?_⟩
  have sizes := congrArg descriptionSizes same
  exact absurd sizes (by decide +kernel)

end HelpForge.Chatbot
