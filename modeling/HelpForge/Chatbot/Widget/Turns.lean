import HelpForge.Chatbot.Widget.Session

set_option autoImplicit false

namespace HelpForge.Chatbot

open Lib
open Program (run_bind run_recover run_stretch)

namespace WidgetState

def history (session_id : String) (state : WidgetState) : List (Dict Value) :=
  -- What a request is given of a session; without Redis that is nothing.
  if state.fault then [] else (state.messages.get state.now (messagesKey session_id)).getD []

def context (session_id : String) (state : WidgetState) : Dict Value :=
  if state.fault then [] else (state.contexts.get state.now (contextKey session_id)).getD []

def conversation (org_id ticket_id : String) (state : WidgetState) : ConversationState :=
  if state.fault then {} else (state.states.get state.now (stateKey org_id ticket_id)).getD {}

def setHistory (session_id : String) (messages : List (Dict Value)) (state : WidgetState) :
    WidgetState :=
  if state.fault then state
  else { state with
    messages := state.messages.setex state.now sessionTtlSeconds (messagesKey session_id) messages }

def setContext (session_id : String) (context : Dict Value) (state : WidgetState) : WidgetState :=
  if state.fault then state
  else { state with
    contexts := state.contexts.setex state.now sessionTtlSeconds (contextKey session_id) context }

def setConversation (org_id ticket_id : String) (conversation : ConversationState)
    (state : WidgetState) : WidgetState :=
  if state.fault then state
  else { state with
    states := state.states.setex state.now memoryTtlSeconds (stateKey org_id ticket_id)
      conversation }

def cleared (session_id : String) (state : WidgetState) : WidgetState :=
  if state.fault then state
  else { state with
    messages := state.messages.delete (messagesKey session_id)
    contexts := state.contexts.delete (contextKey session_id) }

end WidgetState

def keepLast (messages : List (Dict Value)) : List (Dict Value) :=
  -- The last forty messages.
  messages.drop (messages.length - maxSessionMessages)

section Stores

variable (session_id org_id : String) (state : WidgetState)

theorem run_command {α : Type} (body : WidgetState → α × WidgetState) :
    (command body).run state =
      if state.fault then (.error ⟨"ConnectionError", "Error connecting to Redis"⟩, state)
      else (.ok (body state).1, (body state).2) := by
  unfold command
  rw [run_bind, run_stretch]
  by_cases fault : state.fault = true <;> simp [fault, StateT.run]

theorem run_getSession :
    (WidgetSessionMemory.getSession session_id).run state =
      (.ok (state.history session_id, state.context session_id), state) := by
  unfold WidgetSessionMemory.getSession WidgetState.history WidgetState.context
  rw [run_recover, run_command]
  by_cases fault : state.fault = true <;> simp [fault]

theorem run_appendMessage (role content : String) :
    (WidgetSessionMemory.appendMessage session_id role content).run state =
      (.ok (), state.setHistory session_id (keepLast (state.history session_id ++
        [[("role", .str role), ("content", .str content)]]))) := by
  unfold WidgetSessionMemory.appendMessage WidgetState.setHistory WidgetState.history keepLast
  rw [run_recover, run_bind, run_command]
  by_cases fault : state.fault = true <;> simp [fault, run_command]

theorem run_saveContext (context : Dict Value) :
    (WidgetSessionMemory.saveContext session_id context).run state =
      (.ok (), state.setContext session_id context) := by
  unfold WidgetSessionMemory.saveContext WidgetState.setContext
  rw [run_recover, run_command]
  by_cases fault : state.fault = true <;> simp [fault]

theorem run_clear :
    (WidgetSessionMemory.clear session_id).run state = (.ok (), state.cleared session_id) := by
  unfold WidgetSessionMemory.clear WidgetState.cleared
  rw [run_recover, run_command]
  by_cases fault : state.fault = true <;> simp [fault]

theorem run_getOrCreate :
    (ConversationStateStore.getOrCreate org_id session_id).run state =
      (.ok (state.conversation org_id session_id), state) := by
  unfold ConversationStateStore.getOrCreate WidgetState.conversation
  rw [run_recover, run_command]
  by_cases fault : state.fault = true <;> simp [fault]

theorem run_update (intent : String) (entities : Dict (List String))
    (severity agent_action : String) :
    (ConversationStateStore.update org_id session_id intent entities severity agent_action).run
        state =
      (.ok (), state.setConversation org_id session_id
        ((state.conversation org_id session_id).applyTurn intent entities severity
          agent_action)) := by
  unfold ConversationStateStore.update
  rw [run_recover, run_bind, run_getOrCreate]
  unfold WidgetState.setConversation
  by_cases fault : state.fault = true <;> simp [fault, run_command]

end Stores

def AgentState.calling (call : GatewayCall) (agent : AgentState) : AgentState :=
  { agent with calls := agent.calls ++ [call] }

def ticketCall (python : Python) (org_id : String) (messages : List (Dict Value))
    (page_context : Dict Value) (intent severity : String) : Except PyError GatewayCall := do
  let last ← lastUserMessage messages
  let description ← buildDescription python messages page_context intent severity
  let priority := (severityToPriority.lookup (python.lower severity)).getD "MEDIUM"
  let category := (intentToCategory.lookup (python.lower intent)).getD "General"
  return ActionGateway.createTicket org_id (subjectOf last) description priority category

def givenId (answer : Except PyError Value) : Value :=
  -- The id that an answer of the gateway gives to the ticket.
  match answer >>= createdTicketId with
  | .ok ticket_id => ticket_id
  | .error _ => .none

section Handling

variable (python : Python) (regex : Regex) (outside : WidgetSurroundings)
  (request : WidgetChatRequest) (state : WidgetState)

def WidgetState.called (call : GatewayCall) (session_id : String) : WidgetState :=
  let reached := { state with agent := state.agent.calling call }
  if (givenId (outside.gateway (state.agent.calls ++ [call]))).truthy then
    reached.cleared session_id
  else reached

theorem run_escalate (org_id session_id : String) (messages : List (Dict Value))
    (page_context : Dict Value) (intent severity : String) :
    (escalateWidgetSession python outside org_id session_id messages page_context intent
        severity).run state =
      match ticketCall python org_id messages page_context intent severity with
      | .error error => (.error error, state)
      | .ok call =>
        (.ok (givenId (outside.gateway (state.agent.calls ++ [call]))),
          state.called outside call session_id) := by
  unfold escalateWidgetSession ticketCall
  cases lastUserMessage messages with
  | error error => rfl
  | ok last =>
    cases buildDescription python messages page_context intent severity with
    | error error => rfl
    | ok description =>
      let call := ActionGateway.createTicket org_id (subjectOf last) description
        ((severityToPriority.lookup (python.lower severity)).getD "MEDIUM")
        ((intentToCategory.lookup (python.lower intent)).getD "General")
      change Program.run (onAgent (Program.stretch (send outside.gateway call)) >>= _) state = _
      rw [run_bind, run_onAgent, run_stretch]
      change _ = (_, WidgetState.called outside state call session_id)
      simp only [send, StateT.run]
      unfold WidgetState.called givenId
      cases outside.gateway (state.agent.calls ++ [call]) >>= createdTicketId with
      | error error => rfl
      | ok ticket_id =>
        simp only
        by_cases truthy : ticket_id.truthy = true
        · simp only [truthy, if_true, run_bind, run_clear]
          rfl
        · simp only [truthy, if_false, Bool.false_eq_true, Program.run_pure]
          rfl

def intentPrompt : Prompt where
  org_id := request.org_id
  content := request.message
  system_prompt := intentSystem

def intentOf : IntentResult :=
  (ruleBased regex request.message).getD
    (readIntent python (outside.generate 0 (intentPrompt request)))

def findingsOf (conversation : ConversationState) : Findings where
  state := conversation
  intent := intentOf python regex outside request
  entities := entityMap (extractEntities python regex request.message)
  escalation := detectEscalation regex request.message conversation
    (intentOf python regex outside request)

def WidgetState.classified : WidgetState :=
  -- The model is asked for the intent where no rule tells it.
  if (ruleBased regex request.message).isSome then state
  else { state with
    agent := { state.agent with asked := state.agent.asked ++ [intentPrompt request] } }

theorem run_detect :
    (detect python regex outside request).run state =
      (.ok (findingsOf python regex outside request
          (state.conversation request.org_id request.session_id)),
        state.classified regex request) := by
  unfold detect
  rw [run_bind, run_getOrCreate]
  simp only
  rw [run_bind, run_onAgent]
  unfold detectIntent findingsOf intentOf WidgetState.classified
  cases ruleBased regex request.message <;> rfl

def Findings.recorded (findings : Findings) (agent_action : String) (state : WidgetState) :
    WidgetState :=
  -- The state of the conversation after a turn.
  state.setConversation request.org_id request.session_id
    ((state.conversation request.org_id request.session_id).applyTurn
      findings.intent.intent.value findings.entities findings.escalation.severity.value
      agent_action)

theorem run_updateState (findings : Findings) (agent_action : String) :
    (updateState request findings agent_action).run state =
      (.ok (), findings.recorded request agent_action state) := by
  unfold updateState
  rw [run_update]
  rfl

def firstReply (findings : Findings) : String :=
  orElse (findings.escalation.escalation_message.getD "") defaultEscalationReply

theorem run_escalateFirst (messages : List (Dict Value)) (findings : Findings) :
    let reached := findings.recorded request "escalate" state
    (escalateFirst python outside request messages findings).run state =
      match ticketCall python request.org_id (messages ++ [userMessage request.message])
        (pageContext request.context) findings.intent.intent.value
        findings.escalation.severity.value with
      | .error error => (.error error, reached)
      | .ok call =>
        (widgetResponse python request (firstReply findings) [] 0 true
            (givenId (outside.gateway (reached.agent.calls ++ [call]))),
          reached.called outside call request.session_id) := by
  intro reached
  unfold escalateFirst
  rw [run_bind, run_updateState]
  simp only
  rw [run_bind, run_escalate]
  cases ticketCall python request.org_id (messages ++ [userMessage request.message])
    (pageContext request.context) findings.intent.intent.value
    findings.escalation.severity.value <;> rfl

def WidgetState.appended (session_id : String) (message : Dict Value) (state : WidgetState) :
    WidgetState :=
  state.setHistory session_id (keepLast (state.history session_id ++ [message]))

def WidgetState.kept (stored_ctx : Dict Value) (decision : AgentDecision) : WidgetState :=
  -- What is stored of a turn that is not escalated.
  ((state.appended request.session_id (userMessage request.message)).appended request.session_id
    (assistantMessage decision.message)).setContext request.session_id stored_ctx

def settledReply (decision : AgentDecision) (escalated : Bool) (ticket_id : Value) :
    Except PyError WidgetChatResponse := do
  outside.trace decision
  widgetResponse python request decision.message
    (buildActions decision.action.value request.context.page) decision.confidence escalated
    ticket_id

variable (messages : List (Dict Value)) (stored_ctx : Dict Value)

theorem run_settle_kept (findings : Findings) (decision : AgentDecision)
    (answered : (decision.action == .escalate) = false) :
    (settle python outside request messages stored_ctx findings decision).run state =
      (settledReply python outside request decision false .none,
        (findings.recorded request decision.action.value state).kept request stored_ctx
          decision) := by
  unfold settle
  simp only [answered, Bool.false_eq_true, if_false, Bool.not_false, if_true, Program.pure_bind]
  rw [run_bind, run_updateState]
  simp only
  rw [run_bind, run_appendMessage]
  simp only
  rw [run_bind, run_appendMessage]
  simp only
  rw [run_bind, run_saveContext]
  simp only
  rw [run_bind, Program.run_done]
  unfold settledReply
  cases outside.trace decision <;> rfl

theorem run_settle_escalated (findings : Findings) (decision : AgentDecision)
    (escalated : (decision.action == .escalate) = true) :
    (settle python outside request messages stored_ctx findings decision).run state =
      match ticketCall python request.org_id
        (messages ++ [userMessage request.message, assistantMessage decision.message])
        (pageContext request.context) findings.intent.intent.value
        findings.escalation.severity.value with
      | .error error => (.error error, state)
      | .ok call =>
        (settledReply python outside request decision true
            (givenId (outside.gateway (state.agent.calls ++ [call]))),
          findings.recorded request decision.action.value
            (state.called outside call request.session_id)) := by
  unfold settle
  simp only [escalated, if_true, Bool.not_true, Bool.false_eq_true, if_false]
  rw [run_bind, run_escalate]
  cases ticketCall python request.org_id
    (messages ++ [userMessage request.message, assistantMessage decision.message])
    (pageContext request.context) findings.intent.intent.value
    findings.escalation.severity.value with
  | error error => rfl
  | ok call =>
    simp only
    rw [run_bind, run_updateState]
    simp only
    rw [run_bind, Program.run_done]
    unfold settledReply
    cases outside.trace decision <;> rfl

def findings : Findings :=
  -- What the session service finds before it decides.
  findingsOf python regex outside request (state.conversation request.org_id request.session_id)

def agentInput : AgentInput :=
  widgetAgentInput outside request (state.history request.session_id)
    (findings python regex outside request state)

def storedContext : Dict Value :=
  Dict.merge (state.context request.session_id) (pageContext request.context)

theorem run_handle :
    (handle python regex outside request).run state =
      if (findings python regex outside request state).escalation.should_escalate then
        (escalateFirst python outside request (state.history request.session_id)
          (findings python regex outside request state)).run (state.classified regex request)
      else
        (onAgent (agentRun python outside.toSurroundings
            (agentInput python regex outside request state)) >>= fun decision =>
          settle python outside request (state.history request.session_id)
            (storedContext request state) (findings python regex outside request state)
            decision).run (state.classified regex request) := by
  unfold handle
  rw [run_bind, run_getSession]
  simp only
  rw [run_bind, run_detect]
  simp only
  unfold findings agentInput storedContext
  split <;> rfl

end Handling

end HelpForge.Chatbot
