import HelpForge.Chatbot.Conversation.Turns
import HelpForge.Chatbot.Widget.Isolation
import HelpForge.Chatbot.Widget.Turns
import HelpForge.Lib.Noted

set_option autoImplicit false

namespace HelpForge.Chatbot

open Lib

namespace Updates

inductive Note where
  | append (read found : List (Dict Value)) (message : Dict Value)
  | update (read found : ConversationState) (turn : ConversationTurn)
  | clear (found : List (Dict Value))
  -- Time goes by: what can be read before and after it.
  | pass (before after : List (Dict Value) × ConversationState)

abbrev NotedCall (α : Type) := Program (Noted WidgetState Note) PyError α

def command (change : WidgetState → WidgetState) (note : WidgetState → Note) : NotedCall Unit := do
  let outcome ← Program.noting
    (fun state =>
      if state.fault then (.error ⟨"ConnectionError", "Error connecting to Redis"⟩, state)
      else (.ok (), change state))
    fun state => if state.fault then [] else [note state]
  Program.done outcome

def appendMessage (session_id role content : String) : NotedCall Unit :=
  Program.recover
    (do
      let read ← (Chatbot.command fun state =>
        ((state.messages.get state.now (messagesKey session_id)).getD [], state)).quietly
      let message : Dict Value := [("role", .str role), ("content", .str content)]
      let messages := read ++ [message]
      let messages := messages.drop (messages.length - maxSessionMessages)
      command
        (fun state => { state with
          messages := state.messages.setex state.now sessionTtlSeconds
            (messagesKey session_id) messages })
        fun state => .append read (state.history session_id) message)
    fun _ => pure ()

def clear (session_id : String) : NotedCall Unit :=
  (command
    (fun state => { state with
      messages := state.messages.delete (messagesKey session_id)
      contexts := state.contexts.delete (contextKey session_id) })
    fun state => .clear (state.history session_id)).recover
    fun _ => pure ()

def update (org_id ticket_id intent : String) (entities : Dict (List String))
    (severity agent_action : String) : NotedCall Unit :=
  Program.recover
    (do
      let known ← (ConversationStateStore.getOrCreate org_id ticket_id).quietly
      command
        (fun state => { state with
          states := state.states.setex state.now memoryTtlSeconds (stateKey org_id ticket_id)
            (known.applyTurn intent entities severity agent_action) })
        fun state => .update known (state.conversation org_id ticket_id)
          { intent, entities, severity, agent_action })
    fun _ => pure ()

section Service

variable (python : Python) (regex : Regex) (outside : WidgetSurroundings)

def escalateWidgetSession (org_id session_id : String) (messages : List (Dict Value))
    (page_context : Dict Value) (intent severity : String) : NotedCall Value := do
  let last ← Program.done (lastUserMessage messages)
  let description ←
    Program.done (buildDescription python messages page_context intent severity)
  let priority := (severityToPriority.lookup (python.lower severity)).getD "MEDIUM"
  let category := (intentToCategory.lookup (python.lower intent)).getD "General"
  let answer ← (onAgent (Program.stretch (send outside.gateway
    (ActionGateway.createTicket org_id (subjectOf last) description priority category)))).quietly
  match answer >>= createdTicketId with
  | .error _ => pure .none
  | .ok ticket_id =>
    if ticket_id.truthy then clear session_id
    pure ticket_id

def updateState (request : WidgetChatRequest) (findings : Findings) (agent_action : String) :
    NotedCall Unit :=
  update request.org_id request.session_id findings.intent.intent.value
    findings.entities findings.escalation.severity.value agent_action

def escalateFirst (request : WidgetChatRequest) (messages : List (Dict Value))
    (findings : Findings) : NotedCall WidgetChatResponse := do
  updateState request findings "escalate"
  let ticket_id ← escalateWidgetSession python outside request.org_id request.session_id
    (messages ++ [userMessage request.message]) (pageContext request.context)
    findings.intent.intent.value findings.escalation.severity.value
  let reply := orElse (findings.escalation.escalation_message.getD "") defaultEscalationReply
  Program.done (widgetResponse python request reply [] 0 true ticket_id)

def settle (request : WidgetChatRequest) (messages : List (Dict Value)) (stored_ctx : Dict Value)
    (findings : Findings) (decision : AgentDecision) : NotedCall WidgetChatResponse := do
  let escalated := decision.action == .escalate
  let ticket_id ←
    if escalated then
      escalateWidgetSession python outside request.org_id request.session_id
        (messages ++ [userMessage request.message, assistantMessage decision.message])
        (pageContext request.context) findings.intent.intent.value
        findings.escalation.severity.value
    else pure .none
  updateState request findings decision.action.value
  if !escalated then
    appendMessage request.session_id "user" request.message
    appendMessage request.session_id "assistant" decision.message
    (WidgetSessionMemory.saveContext request.session_id stored_ctx).quietly
  Program.done (outside.trace decision)
  Program.done (widgetResponse python request decision.message
    (buildActions decision.action.value request.context.page) decision.confidence escalated
    ticket_id)

def handle (request : WidgetChatRequest) : NotedCall WidgetChatResponse := do
  let (messages, stored_ctx) ← (WidgetSessionMemory.getSession request.session_id).quietly
  let stored_ctx := Dict.merge stored_ctx (pageContext request.context)
  let findings ← (detect python regex outside request).quietly
  if findings.escalation.should_escalate then
    escalateFirst python outside request messages findings
  else
    let decision ← (onAgent (agentRun python outside.toSurroundings
      (widgetAgentInput outside request messages findings))).quietly
    settle python outside request messages stored_ctx findings decision

end Service

section Erasing

variable {python : Python} {regex : Regex} {outside : WidgetSurroundings}
  {request : WidgetChatRequest}

theorem command_erases (change : WidgetState → WidgetState) (note : WidgetState → Note) :
    (command change note).Erases (Chatbot.command fun state => ((), change state)) :=
  (Program.Erases.noting _ _).bind fun outcome => Program.Erases.done outcome

theorem appendMessage_erases (session_id role content : String) :
    (appendMessage session_id role content).Erases
      (WidgetSessionMemory.appendMessage session_id role content) :=
  Program.Erases.recover
    ((Program.Erases.quietly _).bind fun _ => command_erases _ _) fun _ => Program.Erases.pure ()

theorem clear_erases (session_id : String) :
    (clear session_id).Erases (WidgetSessionMemory.clear session_id) :=
  Program.Erases.recover (command_erases _ _) fun _ => Program.Erases.pure ()

theorem update_erases (org_id ticket_id intent : String) (entities : Dict (List String))
    (severity agent_action : String) :
    (update org_id ticket_id intent entities severity agent_action).Erases
      (ConversationStateStore.update org_id ticket_id intent entities severity agent_action) :=
  Program.Erases.recover
    ((Program.Erases.quietly _).bind fun _ => command_erases _ _) fun _ => Program.Erases.pure ()

theorem escalate_erases (org_id session_id : String) (messages : List (Dict Value))
    (page_context : Dict Value) (intent severity : String) :
    (escalateWidgetSession python outside org_id session_id messages page_context intent
        severity).Erases
      (Chatbot.escalateWidgetSession python outside org_id session_id messages page_context
        intent severity) := by
  refine (Program.Erases.done _).bind fun last => ?_
  refine (Program.Erases.done _).bind fun description => ?_
  refine (Program.Erases.quietly _).bind fun answer => ?_
  cases answer >>= createdTicketId with
  | error error => exact Program.Erases.pure _
  | ok ticket_id =>
    cases truthy : ticket_id.truthy with
    | false =>
      simp only [truthy, Bool.false_eq_true, if_false]
      exact Program.Erases.pure _
    | true =>
      simp only [truthy, if_true]
      exact (clear_erases session_id).bind fun _ => Program.Erases.pure _

theorem settle_erases (messages : List (Dict Value)) (stored_ctx : Dict Value)
    (findings : Findings) (decision : AgentDecision) :
    (settle python outside request messages stored_ctx findings decision).Erases
      (Chatbot.settle python outside request messages stored_ctx findings decision) := by
  unfold settle Chatbot.settle
  cases decision.action == .escalate with
  | true =>
    simp only [if_true, Bool.not_true, Bool.false_eq_true, if_false]
    refine (escalate_erases _ _ _ _ _ _).bind fun ticket_id => ?_
    refine (update_erases _ _ _ _ _ _).bind fun _ => ?_
    exact (Program.Erases.done _).bind fun _ => Program.Erases.done _
  | false =>
    simp only [Bool.not_false, if_true, Bool.false_eq_true, if_false, Program.pure_bind]
    refine (update_erases _ _ _ _ _ _).bind fun _ => ?_
    refine (appendMessage_erases _ _ _).bind fun _ => ?_
    refine (appendMessage_erases _ _ _).bind fun _ => ?_
    refine (Program.Erases.quietly _).bind fun _ => ?_
    exact (Program.Erases.done _).bind fun _ => Program.Erases.done _

theorem handle_erases :
    (handle python regex outside request).Erases (Chatbot.handle python regex outside request) := by
  refine (Program.Erases.quietly _).bind ?_
  rintro ⟨messages, stored_ctx⟩
  refine (Program.Erases.quietly _).bind fun findings => ?_
  split
  · refine (update_erases _ _ _ _ _ _).bind fun _ => ?_
    exact (escalate_erases _ _ _ _ _ _).bind fun ticket_id => Program.Erases.done _
  · exact (Program.Erases.quietly _).bind fun decision => settle_erases _ _ _ _

end Erasing

def appended (notes : List Note) : List (Dict Value) :=
  notes.filterMap fun note => match note with
    | .append _ _ message => some message
    | _ => none

def updates (notes : List Note) : List ConversationTurn :=
  notes.filterMap fun note => match note with
    | .update _ _ turn => some turn
    | _ => none

def Note.Fits : Note → Prop
  -- The write finds what was read before it; nothing is cleared, and nothing lapses.
  | .append read found _ => found = read
  | .update read found _ => found = read
  | .clear found => found = []
  | .pass before after => after = before

def Undisturbed (notes : List Note) : Prop := ∀ note ∈ notes, note.Fits

structure Held (org_id session_id : String) (noted : Noted WidgetState Note) : Prop where
  reachable : noted.state.fault = false
  messages : Undisturbed noted.notes →
    noted.state.history session_id = keepLast (appended noted.notes)
  conversation : Undisturbed noted.notes →
    noted.state.conversation org_id session_id = .after (updates noted.notes)

theorem undisturbed_append {notes : List Note} {note : Note} :
    Undisturbed (notes ++ [note]) ↔ Undisturbed notes ∧ note.Fits := by
  unfold Undisturbed
  simp [or_imp, forall_and]

theorem keepLast_append (messages : List (Dict Value)) (message : Dict Value) :
    keepLast (keepLast messages ++ [message]) = keepLast (messages ++ [message]) :=
  rtake_rtake_concat messages message maxSessionMessages

section Held

variable {org_id session_id : String} {notes : List Note} {state reached : WidgetState}

structure Steady (state reached : WidgetState) : Prop where
  messages : reached.messages = state.messages
  states : reached.states = state.states
  now : reached.now = state.now
  fault : reached.fault = state.fault

theorem Held.steady (held : Held org_id session_id { state, notes })
    (steady : Steady state reached) : Held org_id session_id { state := reached, notes } := by
  obtain ⟨messages, states, now, fault⟩ := steady
  have history : reached.history session_id = state.history session_id := by
    unfold WidgetState.history
    rw [messages, now, fault]
  have conversation : reached.conversation org_id session_id =
      state.conversation org_id session_id := by
    unfold WidgetState.conversation
    rw [states, now, fault]
  exact ⟨fault.trans held.reachable, fun undisturbed => history.trans (held.messages undisturbed),
    fun undisturbed => conversation.trans (held.conversation undisturbed)⟩

theorem steady_maintains {α : Type} {program : SessionCall α}
    (each : program.Each fun change state => Steady state (change state)) :
    (program.quietly : NotedCall α).Maintains (Held org_id session_id) := by
  refine Program.Maintains.quietly (each.weaken ?_)
  intro change state steady notes held
  exact held.steady steady

theorem command_steady {α : Type} {body : WidgetState → α × WidgetState}
    (steady : ∀ state, Steady state (body state).2) :
    (Chatbot.command body).Each fun change state => Steady state (change state) := by
  refine Program.Each.bind (Program.Each.stretch ?_) fun _ => Program.Each.done _
  intro state
  simp only [StateT.run]
  split_ifs
  · exact ⟨rfl, rfl, rfl, rfl⟩
  · exact steady state

theorem onAgent_steady {α : Type} (call : AgentCall α) :
    (onAgent call).Each fun change state => Steady state (change state) := by
  refine Program.Each.zoom (Program.Each.always (fun _ _ => trivial) call) ?_
  intro change state _
  exact ⟨rfl, rfl, rfl, rfl⟩

theorem appended_append (note : Note) :
    appended (notes ++ [note]) = appended notes ++ appended [note] := List.filterMap_append

theorem updates_append (note : Note) :
    updates (notes ++ [note]) = updates notes ++ updates [note] := List.filterMap_append

section Held

variable (held : Held org_id session_id { state, notes })

include held

theorem Held.append (read : List (Dict Value)) (message : Dict Value) :
    Held org_id session_id
      { state := { state with
          messages := state.messages.setex state.now sessionTtlSeconds (messagesKey session_id)
            (keepLast (read ++ [message])) }
        notes := notes ++ [.append read (state.history session_id) message] } := by
  obtain ⟨reachable, messages, conversation⟩ := held
  refine ⟨reachable, ?_, ?_⟩
  · intro undisturbed
    obtain ⟨before, fits⟩ := undisturbed_append.mp undisturbed
    have found : read = keepLast (appended notes) := by
      rw [← messages before]
      exact fits.symm
    rw [appended_append]
    change _ = keepLast (appended notes ++ [message])
    rw [← keepLast_append (appended notes) message, ← found]
    change state.fault = false at reachable
    simp [WidgetState.history, reachable, Expiring.get, Expiring.setex, sessionTtlSeconds]
  · intro undisturbed
    rw [updates_append]
    change _ = ConversationState.after (updates notes ++ [])
    rw [List.append_nil]
    exact conversation (undisturbed_append.mp undisturbed).1

theorem Held.update (read : ConversationState) (turn : ConversationTurn) :
    Held org_id session_id
      { state := { state with
          states := state.states.setex state.now memoryTtlSeconds (stateKey org_id session_id)
            (read.turn turn) }
        notes := notes ++ [.update read (state.conversation org_id session_id) turn] } := by
  obtain ⟨reachable, messages, conversation⟩ := held
  refine ⟨reachable, ?_, ?_⟩
  · intro undisturbed
    rw [appended_append]
    change _ = keepLast (appended notes ++ [])
    rw [List.append_nil]
    exact messages (undisturbed_append.mp undisturbed).1
  · intro undisturbed
    obtain ⟨before, fits⟩ := undisturbed_append.mp undisturbed
    have found : read = .after (updates notes) := by
      rw [← conversation before]
      exact fits.symm
    rw [updates_append]
    change _ = ConversationState.after (updates notes ++ [turn])
    unfold ConversationState.after at found ⊢
    rw [List.foldl_append, ← found]
    change state.fault = false at reachable
    have written (value : ConversationState) :
        ({ state with
            states := state.states.setex state.now memoryTtlSeconds (stateKey org_id session_id)
              value } : WidgetState).conversation org_id session_id = value := by
      simp [WidgetState.conversation, reachable, Expiring.get, Expiring.setex, memoryTtlSeconds]
    exact written _

theorem Held.clear :
    Held org_id session_id
      { state := { state with
          messages := state.messages.delete (messagesKey session_id)
          contexts := state.contexts.delete (contextKey session_id) }
        notes := notes ++ [.clear (state.history session_id)] } := by
  obtain ⟨reachable, messages, conversation⟩ := held
  refine ⟨reachable, ?_, ?_⟩
  · intro undisturbed
    obtain ⟨before, fits⟩ := undisturbed_append.mp undisturbed
    have found : [] = keepLast (appended notes) := by
      rw [← messages before]
      exact fits.symm
    rw [appended_append]
    change _ = keepLast (appended notes ++ [])
    rw [List.append_nil, ← found]
    change state.fault = false at reachable
    simp [WidgetState.history, reachable, Expiring.get, Expiring.delete]
  · intro undisturbed
    rw [updates_append]
    change _ = ConversationState.after (updates notes ++ [])
    rw [List.append_nil]
    exact conversation (undisturbed_append.mp undisturbed).1

end Held

theorem command_maintains {change : WidgetState → WidgetState} {note : WidgetState → Note}
    (kept : ∀ state notes, Held org_id session_id { state, notes } →
      Held org_id session_id { state := change state, notes := notes ++ [note state] }) :
    (command change note).Maintains (Held org_id session_id) := by
  refine Program.Maintains.bind (Program.Maintains.noting ?_) fun _ => Program.Maintains.done _
  intro state notes held
  have reachable : state.fault = false := held.reachable
  simp only [StateT.run, reachable, Bool.false_eq_true, if_false]
  exact kept state notes held

end Held

section Maintaining

variable {python : Python} {regex : Regex} {outside : WidgetSurroundings}
  {request : WidgetChatRequest} (org_id : String) (session_id : String)

theorem appendMessage_maintains (role content : String) :
    (appendMessage session_id role content).Maintains (Held org_id session_id) := by
  refine Program.Maintains.recover ?_ fun _ => Program.Maintains.pure ()
  refine Program.Maintains.bind ?_ fun read => ?_
  · exact steady_maintains (command_steady fun _ => ⟨rfl, rfl, rfl, rfl⟩)
  · exact command_maintains fun state notes held => held.append read _

theorem clear_maintains : (clear session_id).Maintains (Held org_id session_id) := by
  refine Program.Maintains.recover ?_ fun _ => Program.Maintains.pure ()
  exact command_maintains fun state notes held => held.clear

theorem getOrCreate_steady (ticket_id : String) :
    (ConversationStateStore.getOrCreate org_id ticket_id).Each
      fun change state => Steady state (change state) :=
  Program.Each.recover (command_steady fun _ => ⟨rfl, rfl, rfl, rfl⟩) fun _ => Program.Each.pure _

theorem update_maintains (ticket_id intent : String) (entities : Dict (List String))
    (severity agent_action : String) :
    (update org_id ticket_id intent entities severity agent_action).Maintains
      (Held org_id ticket_id) := by
  refine Program.Maintains.recover ?_ fun _ => Program.Maintains.pure ()
  refine Program.Maintains.bind (steady_maintains (getOrCreate_steady _ _)) fun read => ?_
  exact command_maintains fun state notes held =>
    held.update read { intent, entities, severity, agent_action }

theorem escalate_maintains (messages : List (Dict Value)) (page_context : Dict Value)
    (intent severity : String) :
    (escalateWidgetSession python outside org_id session_id messages page_context intent
        severity).Maintains (Held org_id session_id) := by
  refine (Program.Maintains.done _).bind fun last => ?_
  refine (Program.Maintains.done _).bind fun description => ?_
  refine (steady_maintains (onAgent_steady _)).bind fun answer => ?_
  cases answer >>= createdTicketId with
  | error error => exact Program.Maintains.pure _
  | ok ticket_id =>
    cases truthy : ticket_id.truthy with
    | false =>
      simp only [truthy, Bool.false_eq_true, if_false]
      exact Program.Maintains.pure _
    | true =>
      simp only [truthy, if_true]
      exact (clear_maintains org_id session_id).bind fun _ => Program.Maintains.pure _

theorem settle_maintains (messages : List (Dict Value)) (stored_ctx : Dict Value)
    (findings : Findings) (decision : AgentDecision) :
    (settle python outside request messages stored_ctx findings decision).Maintains
      (Held request.org_id request.session_id) := by
  unfold settle
  cases decision.action == .escalate with
  | true =>
    simp only [if_true, Bool.not_true, Bool.false_eq_true, if_false]
    refine (escalate_maintains _ _ _ _ _ _).bind fun ticket_id => ?_
    refine (update_maintains _ _ _ _ _ _).bind fun _ => ?_
    exact (Program.Maintains.done _).bind fun _ => Program.Maintains.done _
  | false =>
    simp only [Bool.not_false, if_true, Bool.false_eq_true, if_false, Program.pure_bind]
    refine (update_maintains _ _ _ _ _ _).bind fun _ => ?_
    refine (appendMessage_maintains _ _ _ _).bind fun _ => ?_
    refine (appendMessage_maintains _ _ _ _).bind fun _ => ?_
    refine Program.Maintains.bind (steady_maintains ?_) fun _ => ?_
    · exact Program.Each.recover (command_steady fun _ => ⟨rfl, rfl, rfl, rfl⟩)
        fun _ => Program.Each.pure _
    · exact (Program.Maintains.done _).bind fun _ => Program.Maintains.done _

theorem detect_steady : (detect python regex outside request).Each
    fun change state => Steady state (change state) := by
  refine (getOrCreate_steady _ _).bind fun state => ?_
  refine (onAgent_steady _).bind fun intent => ?_
  exact Program.Each.pure _

theorem handle_maintains :
    (handle python regex outside request).Maintains
      (Held request.org_id request.session_id) := by
  refine Program.Maintains.bind (steady_maintains ?_) ?_
  · exact Program.Each.recover (command_steady fun _ => ⟨rfl, rfl, rfl, rfl⟩)
      fun _ => Program.Each.pure _
  rintro ⟨messages, stored_ctx⟩
  refine (steady_maintains detect_steady).bind fun findings => ?_
  split
  · refine (update_maintains _ _ _ _ _ _).bind fun _ => ?_
    refine (escalate_maintains _ _ _ _ _ _).bind fun ticket_id => ?_
    exact Program.Maintains.done _
  · exact (steady_maintains (onAgent_steady _)).bind fun decision => settle_maintains _ _ _ _

end Maintaining

structure Said where
  message : String
  context : WidgetContext := {}
  outside : WidgetSurroundings

/-- Turns of one conversation, which go on as told, with Redis there all the time. -/
structure OneConversation (κ : Type) where
  org_id : String
  session_id : String
  said : κ → Said
  turns : List (κ × Nat)
  ordered : turns.Pairwise fun earlier later => earlier.2 ≤ later.2

namespace OneConversation

variable {κ : Type} [DecidableEq κ]

def request (run : OneConversation κ) (call : κ) : WidgetChatRequest where
  session_id := run.session_id
  org_id := run.org_id
  message := (run.said call).message
  context := (run.said call).context

def toRun (run : OneConversation κ) : WidgetRun κ where
  visits call := ⟨run.request call, (run.said call).outside⟩
  turns := run.turns.map fun turn => ⟨turn.1, turn.2, false⟩
  ordered := List.pairwise_map.mpr run.ordered

def given (run : OneConversation κ) (state : WidgetState) :
    List (Dict Value) × ConversationState :=
  -- What a request would be given.
  (state.history run.session_id, state.conversation run.org_id run.session_id)

def meets (run : OneConversation κ) (turning : Turning κ) (noted : Noted WidgetState Note) :
    Noted WidgetState Note where
  state := turning.meets noted.state
  notes := noted.notes ++ [.pass (run.given noted.state) (run.given (turning.meets noted.state))]

def pool (run : OneConversation κ) (python : Python) (regex : Regex) (agent : AgentState) :
    Pool κ (Noted WidgetState Note) (NotedCall WidgetChatResponse) :=
  -- The run of the session service, with notes.
  Pool.attend Turning.call run.meets
    (fun call => handle python regex (run.said call).outside (run.request call))
    run.toRun.turns (Pool.idle { state := { agent } })

variable (run : OneConversation κ) (python : Python) (regex : Regex) (agent : AgentState)

theorem pool_erases : (run.pool python regex agent).Erases (run.toRun.pool python regex agent) := by
  refine Pool.Erases.attend (fun _ _ => rfl) (fun _ => handle_erases) _ ⟨rfl, ?_⟩
  exact fun _ => trivial

theorem pool_held :
    Held run.org_id run.session_id (run.pool python regex agent).state := by
  have idle : Pool.Maintained (Held run.org_id run.session_id)
      (Pool.idle { state := { agent } } :
        Pool κ (Noted WidgetState Note) (NotedCall WidgetChatResponse)) := by
    refine ⟨⟨rfl, fun _ => rfl, fun _ => rfl⟩, ?_⟩
    intro call program running
    cases running
  have turns (call : κ) : (handle python regex (run.said call).outside
      (run.request call)).Maintains (Held run.org_id run.session_id) :=
    @handle_maintains python regex (run.said call).outside (run.request call)
  refine (Pool.attend_maintained ?_ turns idle).1
  intro turning member noted held
  obtain ⟨turn, -, rfl⟩ := List.mem_map.mp member
  refine ⟨rfl, ?_, ?_⟩
  · intro undisturbed
    obtain ⟨before, fits⟩ := undisturbed_append.mp undisturbed
    have same := congrArg Prod.fst fits
    change _ = keepLast (appended (noted.notes ++ _))
    rw [appended_append]
    change _ = keepLast (appended noted.notes ++ [])
    rw [List.append_nil, ← held.messages before]
    exact same
  · intro undisturbed
    obtain ⟨before, fits⟩ := undisturbed_append.mp undisturbed
    have same := congrArg Prod.snd fits
    change _ = ConversationState.after (updates (noted.notes ++ _))
    rw [updates_append]
    change _ = ConversationState.after (updates noted.notes ++ [])
    rw [List.append_nil, ← held.conversation before]
    exact same

end OneConversation

/-- Nothing that was written is lost: the last messages are there, and every update counts. -/
structure Kept (notes : List Note) (history : List (Dict Value))
    (conversation : ConversationState) : Prop where
  messages : history = keepLast (appended notes)
  turn_count : conversation.turn_count = (updates notes).length
  entities : ∀ turn ∈ updates notes, ∀ type, ∀ value ∈ turn.values type,
    value ∈ (conversation.entity_map.lookup type).getD []

def OneConversation.KeptIn {κ : Type} (run : OneConversation κ) (notes : List Note)
    (state : WidgetState) : Prop :=
  Kept notes (state.history run.session_id) (state.conversation run.org_id run.session_id)

/-- However the turns of a conversation are interleaved: the notes are on what the session
service does, and where every write finds what was read before it, where nothing lapses and no
message is cleared away, no update is lost. -/
theorem undisturbed_kept {κ : Type} [DecidableEq κ] (run : OneConversation κ) (python : Python)
    (regex : Regex) (agent : AgentState) :
    (run.pool python regex agent).Erases (run.toRun.pool python regex agent) ∧
      (Undisturbed (run.pool python regex agent).state.notes →
        run.KeptIn (run.pool python regex agent).state.notes
          (run.toRun.pool python regex agent).state) := by
  have erases := run.pool_erases python regex agent
  refine ⟨erases, fun undisturbed => ?_⟩
  have held := run.pool_held python regex agent
  have conversation := held.conversation undisturbed
  have recounts :=
    ConversationState.recounts_after (updates (run.pool python regex agent).state.notes)
  rw [← conversation] at recounts
  unfold OneConversation.KeptIn
  rw [← erases.state]
  refine ⟨held.messages undisturbed, recounts.turn_count, ?_⟩
  intro turn member type value among
  rw [recounts.values, List.mem_eraseDups]
  exact List.mem_flatMap.mpr ⟨turn, member, among⟩

def greeting : Said where
  message := "Hello."
  outside := noting

/-- Two messages at the same time: their turns go on in step, from the first read to the last
write. -/
def atOnce : OneConversation Bool where
  org_id := "A"
  session_id := "s"
  said _ := greeting
  turns := (List.range 20).flatMap fun _ => [(false, 0), (true, 0)]
  ordered := by decide

/-- Of two turns at the same time, the state of the conversation counts one. -/
theorem one_turn_lost :
    (∀ call, (WidgetRun.answered (atOnce.toRun.pool (.reading notedData) humanRequests {})
        call).isSome = true) ∧
      ¬atOnce.KeptIn (atOnce.pool (.reading notedData) humanRequests {}).state.notes
        (atOnce.toRun.pool (.reading notedData) humanRequests {}).state := by
  constructor
  · decide +kernel
  · intro kept
    exact absurd kept.turn_count (by decide +kernel)

end Updates

end HelpForge.Chatbot
