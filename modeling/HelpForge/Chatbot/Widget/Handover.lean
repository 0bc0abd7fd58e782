import HelpForge.Chatbot.Agent.Statements
import HelpForge.Chatbot.Widget.Isolation
import HelpForge.Chatbot.Widget.Turns

set_option autoImplicit false

namespace HelpForge.Chatbot

open Lib

variable {response : WidgetChatResponse} {outcome : Except PyError WidgetChatResponse × WidgetState}
  {ticket_id : Value} {escalated : Bool} {actions : List WidgetAction} {later : List (Dict Value)}
  {page_context : Dict Value} {confidence : Rat} {reply : String} {id : Value}

namespace Handover

section Handover

variable (python : Python) (regex : Regex) (outside : WidgetSurroundings)
  (request : WidgetChatRequest) (state : WidgetState)

def Transcribes (history : List (Dict Value)) (call : GatewayCall) : Prop :=
  -- The call asks for a ticket with the history, the message and what may come after it.
  ∃ later page_context intent severity,
    ticketCall python request.org_id (history ++ userMessage request.message :: later)
      page_context intent severity = .ok call

def Ticketed (history : List (Dict Value)) (before after : List GatewayCall)
    (ticket_id : Value) : Prop :=
  -- Between the two lists of calls, the gateway has given this id to such a ticket.
  ∃ earlier call later, after = before ++ earlier ++ call :: later ∧
    Transcribes python request history call ∧
      givenId (outside.gateway (before ++ earlier ++ [call])) = ticket_id ∧
        ticket_id.truthy = true

/-- A reply that calls the session escalated names its ticket, and the message is in the
history that the next request is given or in a ticket. -/
structure Truthful (outcome : Except PyError WidgetChatResponse × WidgetState) : Prop where
  promised : ∀ response, outcome.1 = .ok response → response.escalated = true →
    ∃ id, response.ticket_id = some id ∧
      Ticketed python outside request (state.history request.session_id) state.agent.calls
        outcome.2.agent.calls (.str id)
  kept : userMessage request.message ∈ outcome.2.history request.session_id ∨
    ∃ id, Ticketed python outside request (state.history request.session_id) state.agent.calls
      outcome.2.agent.calls id

def Granted (messages : List (Dict Value)) (calls : List GatewayCall) : Prop :=
  -- The text of the ticket can be made, and the gateway gives it an id.
  let findings := findings python regex outside request state
  ∃ call, ticketCall python request.org_id messages (pageContext request.context)
      findings.intent.intent.value findings.escalation.severity.value = .ok call ∧
    (givenId (outside.gateway (calls ++ [call]))).truthy = true

def Decides (decision : AgentDecision) (agent : AgentState) : Prop :=
  -- The agent decides so, and leaves its state so.
  (agentRun python outside.toSurroundings (agentInput python regex outside request state)).run
    (state.classified regex request).agent = (.ok decision, agent)

def Met : Prop :=
  -- The ticket of an escalation is granted, and without an escalation Redis is there.
  if (findings python regex outside request state).escalation.should_escalate then
    Granted python regex outside request state
      (state.history request.session_id ++ [userMessage request.message]) state.agent.calls
  else
    ∀ decision agent, Decides python regex outside request state decision agent →
      if decision.action == .escalate then
        Granted python regex outside request state
          (state.history request.session_id ++
            [userMessage request.message, assistantMessage decision.message]) agent.calls
      else state.fault = false

/-- The message is not in the history yet, nor has the agent made a ticket of it. -/
structure Fresh : Prop where
  history : userMessage request.message ∉ state.history request.session_id
  tickets : (findings python regex outside request state).escalation.should_escalate = false →
    ∀ decision agent, Decides python regex outside request state decision agent →
      ¬∃ id, Ticketed python outside request (state.history request.session_id)
        state.agent.calls agent.calls id

variable {python regex outside request state}

theorem history_same {other : WidgetState} (session_id : String)
    (messages : other.messages = state.messages) (now : other.now = state.now)
    (fault : other.fault = state.fault) : other.history session_id = state.history session_id := by
  unfold WidgetState.history
  rw [messages, now, fault]

theorem classified_frame : (state.classified regex request).messages = state.messages ∧
    (state.classified regex request).now = state.now ∧
      (state.classified regex request).fault = state.fault ∧
        (state.classified regex request).agent.calls = state.agent.calls := by
  unfold WidgetState.classified
  split_ifs
  · exact ⟨rfl, rfl, rfl, rfl⟩
  · exact ⟨rfl, rfl, rfl, rfl⟩

theorem recorded_frame (found : Findings) (agent_action : String) :
    (found.recorded request agent_action state).messages = state.messages ∧
      (found.recorded request agent_action state).now = state.now ∧
        (found.recorded request agent_action state).fault = state.fault ∧
          (found.recorded request agent_action state).agent = state.agent := by
  unfold Findings.recorded WidgetState.setConversation
  split_ifs
  · exact ⟨rfl, rfl, rfl, rfl⟩
  · exact ⟨rfl, rfl, rfl, rfl⟩

theorem called_calls (call : GatewayCall) (session_id : String) :
    (state.called outside call session_id).agent.calls = state.agent.calls ++ [call] := by
  unfold WidgetState.called WidgetState.cleared
  simp only
  split_ifs <;> rfl

theorem history_refused {call : GatewayCall} (session_id : String)
    (refused : ¬(givenId (outside.gateway (state.agent.calls ++ [call]))).truthy = true) :
    (state.called outside call session_id).history session_id = state.history session_id := by
  unfold WidgetState.called
  simp only
  rw [if_neg refused]
  exact history_same session_id rfl rfl rfl

theorem history_setHistory (session_id : String) (messages : List (Dict Value))
    (reachable : state.fault = false) :
    (state.setHistory session_id messages).history session_id = messages ∧
      (state.setHistory session_id messages).fault = false := by
  unfold WidgetState.setHistory WidgetState.history
  simp [reachable, Expiring.get, Expiring.setex, sessionTtlSeconds]

theorem mem_keepLast_pair (messages : List (Dict Value)) (first second : Dict Value) :
    first ∈ keepLast (keepLast (messages ++ [first]) ++ [second]) := by
  have last (items : List (Dict Value)) (tail : List (Dict Value))
      (few : tail.length ≤ maxSessionMessages) :
      ∃ before, keepLast (items ++ tail) = before ++ tail := by
    unfold keepLast
    refine ⟨_, List.drop_append_of_le_length ?_⟩
    rw [List.length_append]
    omega
  obtain ⟨before, one⟩ := last messages [first] (by simp [maxSessionMessages])
  obtain ⟨front, two⟩ := last before [first, second] (by simp [maxSessionMessages])
  rw [one, List.append_assoc]
  change first ∈ keepLast (before ++ [first, second])
  rw [two]
  simp

theorem mem_kept (stored_ctx : Dict Value) (decision : AgentDecision)
    (reachable : state.fault = false) :
    userMessage request.message ∈
      (state.kept request stored_ctx decision).history request.session_id := by
  -- A turn that is not escalated leaves the message in the history, where Redis is there.
  unfold WidgetState.kept WidgetState.appended
  have first := history_setHistory request.session_id
    (keepLast (state.history request.session_id ++ [userMessage request.message])) reachable
  have second := history_setHistory request.session_id
    (keepLast ((state.setHistory request.session_id (keepLast
      (state.history request.session_id ++ [userMessage request.message]))).history
        request.session_id ++ [assistantMessage decision.message])) first.2
  have unchanged (state : WidgetState) : (state.setContext request.session_id stored_ctx).history
      request.session_id = state.history request.session_id := by
    unfold WidgetState.setContext
    split_ifs
    · rfl
    · exact history_same request.session_id rfl rfl rfl
  rw [unchanged, second.1, first.1]
  exact mem_keepLast_pair ..

theorem kept_frame (stored_ctx : Dict Value) (decision : AgentDecision) :
    (state.kept request stored_ctx decision).agent = state.agent ∧
      (state.kept request stored_ctx decision).fault = state.fault := by
  unfold WidgetState.kept WidgetState.appended WidgetState.setContext WidgetState.setHistory
  split_ifs <;> exact ⟨rfl, rfl⟩

variable {history : List (Dict Value)} {before : List GatewayCall} {call : GatewayCall}
  (earlier : List GatewayCall)

theorem ticketed_granted {intent severity : String}
    (made : ticketCall python request.org_id (history ++ userMessage request.message :: later)
      page_context intent severity = .ok call)
    (granted : (givenId (outside.gateway (before ++ earlier ++ [call]))).truthy = true) :
    Ticketed python outside request history before (before ++ earlier ++ [call])
      (givenId (outside.gateway (before ++ earlier ++ [call]))) :=
  ⟨earlier, call, [], rfl, ⟨later, page_context, intent, severity, made⟩, rfl, granted⟩

theorem ticketed_refused {calls : List GatewayCall}
    (refused : ¬(givenId (outside.gateway (calls ++ [call]))).truthy = true)
    (ticketed : Ticketed python outside request history before (calls ++ [call]) id) :
    Ticketed python outside request history before calls id := by
  -- A ticket that is there after a call without an id was there before it.
  obtain ⟨earlier, made, later, same, transcribes, given, truthy⟩ := ticketed
  rcases List.eq_nil_or_concat later with rfl | ⟨rest, last, rfl⟩
  · obtain ⟨rfl, last⟩ := List.append_inj' same rfl
    rw [List.cons.injEq] at last
    rw [last.1, given] at refused
    exact absurd truthy refused
  · rw [List.concat_eq_append, ← List.cons_append, ← List.append_assoc] at same
    obtain ⟨rfl, -⟩ := List.append_inj' same rfl
    exact ⟨earlier, made, rest, rfl, transcribes, given, truthy⟩

theorem not_ticketed_idle (ticketed : Ticketed python outside request history before before id) :
    False := by
  obtain ⟨earlier, made, later, same, -⟩ := ticketed
  have lengths := congrArg List.length same
  simp only [List.length_append, List.length_cons] at lengths
  omega

section Given

variable
  (made : widgetResponse python request reply actions confidence escalated ticket_id = .ok response)

include made

theorem widgetResponse_ok :
    response.escalated = escalated ∧
      (ticket_id = .none ∨ ∃ id, ticket_id = .str id ∧ response.ticket_id = some id) := by
  cases ticket_id with
  | none =>
    cases made
    exact ⟨rfl, .inl rfl⟩
  | str id =>
    cases made
    exact ⟨rfl, .inr ⟨id, rfl, rfl⟩⟩
  | _ => cases made

theorem widgetResponse_named {id : String} (named : response.ticket_id = some id) :
    ticket_id = .str id := by
  cases ticket_id with
  | none =>
    cases made
    cases named
  | str text =>
    cases made
    cases named
    rfl
  | _ => cases made

end Given

theorem settledReply_ok {decision : AgentDecision}
    (made : settledReply python outside request decision escalated ticket_id = .ok response) :
    response.escalated = escalated ∧
      (ticket_id = .none ∨ ∃ id, ticket_id = .str id ∧ response.ticket_id = some id) := by
  obtain ⟨_, -, made⟩ := (bind_eq_ok _ _ _).mp made
  exact widgetResponse_ok made

theorem truthful_granted {intent severity : String}
    (made : ticketCall python request.org_id
      (state.history request.session_id ++ userMessage request.message :: later) page_context
      intent severity = .ok call)
    (granted : (givenId (outside.gateway (state.agent.calls ++ earlier ++ [call]))).truthy = true)
    (calls : outcome.2.agent.calls = state.agent.calls ++ earlier ++ [call])
    (answered : ∀ response, outcome.1 = .ok response →
      givenId (outside.gateway (state.agent.calls ++ earlier ++ [call])) = .none ∨
        ∃ id, givenId (outside.gateway (state.agent.calls ++ earlier ++ [call])) = .str id ∧
          response.ticket_id = some id) : Truthful python outside request state outcome := by
  -- With a ticket that is granted, the outcome is truthful.
  have ticketed := ticketed_granted earlier made granted
  constructor
  · intro response replied _
    rw [calls]
    rcases answered response replied with none | ⟨id, given, named⟩
    · rw [none] at granted
      cases granted
    · rw [given] at ticketed
      exact ⟨id, named, ticketed⟩
  · rw [calls]
    exact .inr ⟨_, ticketed⟩

theorem not_truthful (absent : userMessage request.message ∉ outcome.2.history request.session_id)
    (unticketed : ∀ id, ¬Ticketed python outside request (state.history request.session_id)
      state.agent.calls outcome.2.agent.calls id) :
    ¬Truthful python outside request state outcome := by
  -- Where neither the history nor the tickets have changed for the message, it is lost.
  rintro ⟨-, stored | ⟨id, ticketed⟩⟩
  · exact absent stored
  · exact unticketed id ticketed

theorem first_truthful
    (escalates : (findings python regex outside request state).escalation.should_escalate = true) :
    (Met python regex outside request state →
        Truthful python outside request state ((handle python regex outside request).run state)) ∧
      (Fresh python regex outside request state →
        Truthful python outside request state ((handle python regex outside request).run state) →
          Met python regex outside request state) := by
  have met : Met python regex outside request state ↔
      Granted python regex outside request state
        (state.history request.session_id ++ [userMessage request.message])
        state.agent.calls := by
    unfold Met
    rw [if_pos escalates]
  rw [met, run_handle, if_pos escalates, run_escalateFirst]
  obtain ⟨messages, now, fault, calls⟩ := @classified_frame regex request state
  let found := findings python regex outside request state
  obtain ⟨messages', now', fault', agent'⟩ :=
    @recorded_frame request (state.classified regex request) found "escalate"
  let reached := found.recorded request "escalate" (state.classified regex request)
  have history : reached.history request.session_id = state.history request.session_id :=
    history_same _ (messages'.trans messages) (now'.trans now) (fault'.trans fault)
  have sent : reached.agent.calls = state.agent.calls := by rw [agent', calls]
  unfold Granted
  cases made : ticketCall python request.org_id
    (state.history request.session_id ++ [userMessage request.message])
    (pageContext request.context) found.intent.intent.value found.escalation.severity.value with
  | error error =>
    simp only [found] at made
    simp only [made, reduceCtorEq, false_and, exists_false, false_implies, true_and]
    intro fresh
    apply not_truthful
    · rw [history]
      exact fresh.history
    · intro id ticketed
      rw [sent] at ticketed
      exact not_ticketed_idle ticketed
  | ok call =>
    simp only [found] at made
    simp only [made, Except.ok.injEq, exists_eq_left']
    constructor
    · intro granted
      apply truthful_granted [] made
      · rw [List.append_nil]
        exact granted
      · rw [List.append_nil, called_calls, sent]
      · intro response replied
        have answered := (widgetResponse_ok replied).2
        rw [sent] at answered
        rw [List.append_nil]
        exact answered
    · intro fresh truthful
      by_contra refused
      rw [← sent] at refused
      refine not_truthful ?_ ?_ truthful
      · rw [history_refused _ refused, history]
        exact fresh.history
      · intro id ticketed
        rw [called_calls] at ticketed
        have earlier := ticketed_refused refused ticketed
        rw [sent] at earlier
        exact not_ticketed_idle earlier

theorem settled_truthful
    (goes : (findings python regex outside request state).escalation.should_escalate = false) :
    (Met python regex outside request state →
        Truthful python outside request state ((handle python regex outside request).run state)) ∧
      (Fresh python regex outside request state →
        Truthful python outside request state ((handle python regex outside request).run state) →
          Met python regex outside request state) := by
  obtain ⟨decision, agent, decides⟩ := @agentRun_returns python
    (agentInput python regex outside request state) outside.toSurroundings
    (state.classified regex request).agent
  let middle : WidgetState := { state.classified regex request with agent }
  have met : Met python regex outside request state ↔
      if decision.action == .escalate then
        Granted python regex outside request state
          (state.history request.session_id ++
            [userMessage request.message, assistantMessage decision.message]) agent.calls
      else state.fault = false := by
    unfold Met
    rw [goes, if_neg Bool.false_ne_true]
    constructor
    · intro each
      exact each decision agent decides
    · intro here other final decided
      cases decides.symm.trans decided
      exact here
  have unticketed (fresh : Fresh python regex outside request state) (id : Value) :
      ¬Ticketed python outside request (state.history request.session_id) state.agent.calls
        agent.calls id :=
    fun ticketed => fresh.tickets goes decision agent decides ⟨id, ticketed⟩
  obtain ⟨messages, now, fault, calls⟩ := @classified_frame regex request state
  have history : middle.history request.session_id = state.history request.session_id :=
    history_same _ messages now fault
  have grown : state.agent.calls <+: agent.calls := by
    have sends := agentRun_sends python outside.toSurroundings
      (agentInput python regex outside request state) (state.classified regex request).agent
    unfold Sends at sends
    rwa [decides, calls] at sends
  obtain ⟨earlier, grown⟩ := grown
  rw [met, run_handle, goes, if_neg Bool.false_ne_true, Program.run_bind, run_onAgent]
  rw [decides]
  change (_ → Truthful python outside request state
      ((settle python outside request _ _ _ decision).run middle)) ∧
    (_ → Truthful python outside request state
      ((settle python outside request _ _ _ decision).run middle) → _)
  let found := findings python regex outside request state
  cases escalated : decision.action == .escalate with
  | false =>
    rw [run_settle_kept _ _ _ _ _ _ _ _ escalated, if_neg Bool.false_ne_true]
    obtain ⟨-, -, fault', agent'⟩ := @recorded_frame request middle found decision.action.value
    obtain ⟨agent'', fault''⟩ := @kept_frame request
      (found.recorded request decision.action.value middle) (storedContext request state) decision
    constructor
    · intro reachable
      constructor
      · intro response replied promised
        rw [(settledReply_ok replied).1] at promised
        cases promised
      · exact .inl (mem_kept _ _ (fault'.trans (fault.trans reachable)))
    · intro fresh truthful
      by_contra unreachable
      refine not_truthful ?_ ?_ truthful
      · have down : ((found.recorded request decision.action.value middle).kept request
            (storedContext request state) decision).fault = true := by
          rw [fault'', fault']
          exact fault.trans (Bool.not_eq_false _ ▸ unreachable)
        unfold WidgetState.history
        rw [if_pos down]
        exact List.not_mem_nil
      · intro id ticketed
        rw [agent'', agent'] at ticketed
        exact unticketed fresh id ticketed
  | true =>
    rw [run_settle_escalated _ _ _ _ _ _ _ _ escalated, if_pos rfl]
    unfold Granted
    cases made : ticketCall python request.org_id
      (state.history request.session_id ++
        [userMessage request.message, assistantMessage decision.message])
      (pageContext request.context) found.intent.intent.value found.escalation.severity.value with
    | error error =>
      simp only [found] at made
      simp only [made, reduceCtorEq, false_and, exists_false, false_implies, true_and]
      intro fresh
      apply not_truthful
      · rw [history]
        exact fresh.history
      · exact unticketed fresh
    | ok call =>
      simp only [found] at made
      simp only [made, Except.ok.injEq, exists_eq_left']
      obtain ⟨messages', now', fault', agent'⟩ :=
        @recorded_frame request (middle.called outside call request.session_id) found
          decision.action.value
      have calls' : (found.recorded request decision.action.value
          (middle.called outside call request.session_id)).agent.calls = agent.calls ++ [call] := by
        rw [agent', called_calls]
      constructor
      · intro granted
        rw [← grown] at granted
        apply truthful_granted earlier made granted
        · rw [grown]
          exact calls'
        · intro response replied
          rw [grown]
          exact (settledReply_ok replied).2
      · intro fresh truthful
        by_contra refused
        refine not_truthful ?_ ?_ truthful
        · rw [history_same _ messages' now' fault', history_refused _ refused, history]
          exact fresh.history
        · intro id ticketed
          rw [calls'] at ticketed
          exact unticketed fresh id (ticketed_refused refused ticketed)

/-- Whatever the detectors, the agent and the gateway do: where the ticket of an escalation is
granted, and Redis is there for a turn that goes on, the reply is true and the message is kept;
and where the message was in neither place before, only there. -/
theorem handover_truthful (python : Python) (regex : Regex) (outside : WidgetSurroundings)
    (request : WidgetChatRequest) (state : WidgetState) :
    (Met python regex outside request state →
        Truthful python outside request state ((handle python regex outside request).run state)) ∧
      (Fresh python regex outside request state →
        Truthful python outside request state ((handle python regex outside request).run state) →
          Met python regex outside request state) := by
  cases way : (findings python regex outside request state).escalation.should_escalate with
  | true => exact first_truthful way
  | false => exact settled_truthful way

end Handover

/-- The gateway answers, but creates no ticket. -/
def refusing : WidgetSurroundings where
  generate _ _ := .ok (.dict [("content", .str noted)])
  gateway _ := .ok (.dict [("error", .str "unavailable")])

def toHuman : WidgetChatRequest where
  session_id := "s"
  org_id := "B"
  message := askForHuman

/-- With a gateway that gives every ticket an id, the reply to such a message is true. -/
theorem ticket_granted :
    Truthful (.reading notedData) noting toHuman {}
      ((handle (.reading notedData) humanRequests noting toHuman).run {}) := by
  apply (handover_truthful (.reading notedData) humanRequests noting toHuman {}).1
  have escalates : (findings (.reading notedData) humanRequests noting toHuman
      {}).escalation.should_escalate = true := by decide +kernel
  unfold Met
  rw [if_pos escalates]
  exact ⟨_, rfl, rfl⟩

/-- The visitor is told that a ticket has been created, and there is none. -/
theorem told_of_no_ticket :
    ¬Truthful (.reading notedData) refusing toHuman {}
      ((handle (.reading notedData) humanRequests refusing toHuman).run {}) := by
  intro truthful
  have promised := truthful.promised
  have told : (((handle (.reading notedData) humanRequests refusing toHuman).run {}).1.map
      fun response => (response.escalated, response.ticket_id)) = .ok (true, none) := by
    decide +kernel
  cases answered : ((handle (.reading notedData) humanRequests refusing toHuman).run {}).1 with
  | error error =>
    rw [answered] at told
    cases told
  | ok response =>
    rw [answered] at told
    have told := Except.ok.inj told
    obtain ⟨id, named, -⟩ := promised response answered (congrArg Prod.fst told)
    have unnamed : response.ticket_id = none := congrArg Prod.snd told
    rw [unnamed] at named
    cases named

end Handover

end HelpForge.Chatbot
