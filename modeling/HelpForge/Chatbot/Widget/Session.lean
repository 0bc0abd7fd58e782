import HelpForge.Chatbot.Conversation.Detectors
import HelpForge.Lib.Expiring

set_option autoImplicit false

/-!
# Sessions of the website widget

Besides the stores, the state is that of the agent.
-/

namespace HelpForge.Chatbot

open Lib

inductive Page where
  | product
  | pricing
  | docs
  | general
  deriving DecidableEq, Repr

def Page.value : Page → String
  | .product => "product"
  | .pricing => "pricing"
  | .docs => "docs"
  | .general => "general"

structure WidgetContext where
  page : Page := .general
  product_id : Option String := none
  metadata : Dict Value := []

structure WidgetChatRequest where
  session_id : String
  org_id : String
  message : String
  context : WidgetContext := {}

structure WidgetAction where
  type : String
  label : String
  url : String
  deriving DecidableEq, Repr

structure WidgetChatResponse where
  reply : String
  actions : List WidgetAction
  confidence : Rat
  escalated : Bool
  ticket_id : Option String
  session_id : String
  deriving DecidableEq, Repr

structure WidgetState where
  messages : Expiring String (List (Dict Value)) := {}
  contexts : Expiring String (Dict Value) := {}
  states : Expiring String ConversationState := {}
  agent : AgentState := {}
  now : Nat := 0
  -- Redis cannot be reached.
  fault : Bool := false

abbrev SessionCall (α : Type) := Program WidgetState PyError α

/-- What a request meets besides: whether the trace of its decision can be built, and what
the retrieval finds for the widget. -/
structure WidgetSurroundings extends Surroundings where
  retrieveDocs : String → String → Option (Dict Value) → Except PyError (List Value) :=
    fun _ _ _ => .ok []
  trace : AgentDecision → Except PyError Unit := fun _ => .ok ()

def sessionTtlSeconds : Nat := 1800
def memoryTtlSeconds : Nat := 86400
def maxSessionMessages : Nat := 40

def messagesKey (session_id : String) : String := "session:messages:" ++ session_id
def contextKey (session_id : String) : String := "session:context:" ++ session_id
def stateKey (org_id ticket_id : String) : String := "conv:state:" ++ org_id ++ ":" ++ ticket_id

def command {α : Type} (body : WidgetState → α × WidgetState) : SessionCall α := do
  let outcome ← Program.stretch fun state =>
    if state.fault then (.error ⟨"ConnectionError", "Error connecting to Redis"⟩, state)
    else
      let (value, reached) := body state
      (.ok value, reached)
  Program.done outcome

namespace WidgetSessionMemory

def getSession (session_id : String) : SessionCall (List (Dict Value) × Dict Value) :=
  (command fun state =>
    (((state.messages.get state.now (messagesKey session_id)).getD [],
      (state.contexts.get state.now (contextKey session_id)).getD []), state)).recover
    fun _ => pure ([], [])

def appendMessage (session_id role content : String) : SessionCall Unit :=
  Program.recover
    (do
      let messages ← command fun state =>
        ((state.messages.get state.now (messagesKey session_id)).getD [], state)
      let messages := messages ++ [[("role", .str role), ("content", .str content)]]
      let messages := messages.drop (messages.length - maxSessionMessages)
      command fun state =>
        ((), { state with
          messages := state.messages.setex state.now sessionTtlSeconds
            (messagesKey session_id) messages }))
    fun _ => pure ()

def saveContext (session_id : String) (context : Dict Value) : SessionCall Unit :=
  (command fun state =>
    ((), { state with
      contexts := state.contexts.setex state.now sessionTtlSeconds
        (contextKey session_id) context })).recover
    fun _ => pure ()

def clear (session_id : String) : SessionCall Unit :=
  (command fun state =>
    ((), { state with
      messages := state.messages.delete (messagesKey session_id)
      contexts := state.contexts.delete (contextKey session_id) })).recover
    fun _ => pure ()

end WidgetSessionMemory

namespace ConversationStateStore

def getOrCreate (org_id ticket_id : String) : SessionCall ConversationState :=
  (command fun state =>
    ((state.states.get state.now (stateKey org_id ticket_id)).getD {}, state)).recover
    fun _ => pure {}

def update (org_id ticket_id intent : String) (entities : Dict (List String))
    (severity agent_action : String) : SessionCall Unit :=
  -- A read that fails counts as a conversation that has not begun.
  Program.recover
    (do
      let known ← getOrCreate org_id ticket_id
      command fun state =>
        ((), { state with
          states := state.states.setex state.now memoryTtlSeconds (stateKey org_id ticket_id)
            (known.applyTurn intent entities severity agent_action) }))
    fun _ => pure ()

end ConversationStateStore

def onAgent {α : Type} (call : AgentCall α) : SessionCall α :=
  call.zoom WidgetState.agent fun agent state => { state with agent }

theorem run_onAgent {α : Type} (call : AgentCall α) (state : WidgetState) :
    (onAgent call).run state =
      ((call.run state.agent).1, { state with agent := (call.run state.agent).2 }) := by
  unfold onAgent
  rw [Program.run_zoom]
  · intro part state
    rfl
  · intro state
    rfl
  · intro part part' state
    rfl

def severityToPriority : Dict String :=
  [("calm", "LOW"), ("frustrated", "MEDIUM"), ("angry", "HIGH"), ("critical", "URGENT")]

def intentToCategory : Dict String :=
  [("refund_request", "Billing"), ("billing", "Billing"), ("cancellation", "Billing"),
    ("technical_support", "Technical"), ("complaint", "Complaint"), ("status_check", "General"),
    ("info_request", "General"), ("compliment", "General"), ("general", "General")]

def isUser (message : Dict Value) : Bool :=
  ((message.lookup "role").bind Value.asStr) = some "user"

def lastUserMessage (messages : List (Dict Value)) : Except PyError String :=
  match messages.reverse.find? isUser with
  | some message => do return stripped (← messageText message "content" "" "strip")
  | none => .ok ""

def subjectOf (last : String) : String :=
  if last = "" then "Support request from website chat"
  else if 100 < last.length then String.ofList (last.toList.take 97) ++ "..."
  else last

def transcriptLines (python : Python) (message : Dict Value) : Except PyError (List String) := do
  let role ← messageText message "role" "unknown" "capitalize"
  let content ← messageText message "content" "" "strip"
  return ["**" ++ python.capitalize role ++ ":** " ++ stripped content, ""]

def buildDescription (python : Python) (messages : List (Dict Value)) (page_context : Dict Value)
    (intent severity : String) : Except PyError String := do
  let page := (page_context.lookup "page").getD (.str "general")
  let product_id := (page_context.lookup "product_id").getD .none
  let transcript ← messages.mapM (transcriptLines python)
  return "\n".intercalate
    (["## Support Request via Website Chat", "", "**Page:** " ++ python.str page] ++
      (if product_id.truthy then ["**Product:** " ++ python.str product_id] else []) ++
      ["**Detected Intent:** " ++ intent, "**Severity:** " ++ severity, "",
        "## Conversation Transcript", ""] ++ transcript.flatten)

def createdTicketId (result : Value) : Except PyError Value := do
  let id ← result.get "id" .none
  if id.truthy then return id else result.get "ticket_id" .none

section Service

variable (python : Python) (regex : Regex) (outside : WidgetSurroundings)

def escalateWidgetSession (org_id session_id : String) (messages : List (Dict Value))
    (page_context : Dict Value) (intent severity : String) : SessionCall Value := do
  let last ← Program.done (lastUserMessage messages)
  let description ←
    Program.done (buildDescription python messages page_context intent severity)
  let priority := (severityToPriority.lookup (python.lower severity)).getD "MEDIUM"
  let category := (intentToCategory.lookup (python.lower intent)).getD "General"
  let answer ← onAgent (Program.stretch (send outside.gateway
    (ActionGateway.createTicket org_id (subjectOf last) description priority category)))
  match answer >>= createdTicketId with
  | .error _ => pure .none
  | .ok ticket_id =>
    if ticket_id.truthy then WidgetSessionMemory.clear session_id
    pure ticket_id

def pagePrefixes : Page → String
  | .product => "product features specifications pricing plans"
  | .pricing => "pricing plans tiers billing subscription cost"
  | .docs => "documentation guide how to setup integration"
  | .general => ""

def buildRagContext (request : WidgetChatRequest) : String :=
  -- The call of the re-ranker leaves an argument out, so that no text is made of what the retrieval
  -- finds.
  let page := pagePrefixes request.context.page
  let augmented_query :=
    if page = "" then request.message else stripped (page ++ " " ++ request.message)
  let filter_conditions := match request.context.product_id with
    | some "" | none => none
    | some product_id => some [("product_id", Value.str product_id)]
  let text : Except PyError String := do
    let _ ← outside.retrieveDocs request.org_id augmented_query filter_conditions
    .error ⟨"TypeError", "Reranker.rerank() missing 1 required positional argument: 'docs'"⟩
  match text with
  | .ok text => text
  | .error _ => ""

def optionalStr : Option String → Value
  | some text => .str text
  | none => .none

def pageContext (context : WidgetContext) : Dict Value :=
  Dict.merge [("page", .str context.page.value), ("product_id", optionalStr context.product_id)]
    context.metadata

structure Findings where
  state : ConversationState
  intent : IntentResult
  entities : Dict (List String)
  escalation : EscalationSignal

def widgetTicketContext (request : WidgetChatRequest) (findings : Findings) : Dict Value :=
  [("ticket_id", .str request.session_id), ("org_id", .str request.org_id),
    ("priority", .str "MEDIUM"), ("category", .str "General"), ("context_window", .int 20),
    ("conv_intent", .str findings.intent.intent.value),
    ("conv_intent_confidence", .float (roundTo 3 findings.intent.confidence)),
    ("conv_stage", .str findings.state.stage.value),
    ("conv_severity", .str findings.escalation.severity.value),
    ("conv_turn", .int (findings.state.turn_count + 1)),
    ("conv_entities", .dict (findings.entities.map fun entry =>
      (entry.1, .list (entry.2.map .str)))),
    ("conv_unresolved_turns", .int findings.state.unresolved_turns),
    ("page", .str request.context.page.value),
    ("product_id", optionalStr request.context.product_id)]

def widgetAgentInput (request : WidgetChatRequest) (messages : List (Dict Value))
    (findings : Findings) : AgentInput where
  mode := .chat
  org_id := request.org_id
  ticket_id := request.session_id
  query := request.message
  ticket_context := widgetTicketContext request findings
  rag_context :=
    if buildRagContext outside request = "" then none else some (buildRagContext outside request)
  history := some messages

def buildActions (agent_action : String) (page : Page) : List WidgetAction :=
  if agent_action = "suggest" ∧ page = .pricing then
    [⟨"view_pricing", "View pricing plans", "/pricing"⟩]
  else if agent_action = "suggest" ∧ page = .docs then
    [⟨"open_docs", "Open documentation", "/docs"⟩]
  else if agent_action = "escalate" then [⟨"contact_form", "Contact support", "/support"⟩]
  else []

/-- `WidgetChatResponse(…)`, where the id of a ticket is anything that the gateway gave. -/
def widgetResponse (request : WidgetChatRequest) (reply : String) (actions : List WidgetAction)
    (confidence : Rat) (escalated : Bool) (ticket_id : Value) : Except PyError WidgetChatResponse :=
  let made (ticket_id : Option String) : WidgetChatResponse :=
    { reply, actions, confidence, escalated, ticket_id, session_id := request.session_id }
  match ticket_id with
  | .none => .ok (made none)
  | .str text => .ok (made (some text))
  | other => .error ⟨"ValidationError",
      python.validationText "WidgetChatResponse" [("ticket_id", other)]⟩

def userMessage (content : String) : Dict Value :=
  [("role", .str "user"), ("content", .str content)]

def assistantMessage (content : String) : Dict Value :=
  [("role", .str "assistant"), ("content", .str content)]

def detect (request : WidgetChatRequest) : SessionCall Findings := do
  let state ← ConversationStateStore.getOrCreate request.org_id request.session_id
  let intent ←
    onAgent (detectIntent python regex outside.toSurroundings request.org_id request.message)
  let entities := entityMap (extractEntities python regex request.message)
  let escalation := detectEscalation regex request.message state intent
  return { state, intent, entities, escalation }

def defaultEscalationReply : String :=
  "I'll connect you with a human support agent who can assist you further. A support ticket " ++
    "has been created and someone will be with you shortly."

def updateState (request : WidgetChatRequest) (findings : Findings) (agent_action : String) :
    SessionCall Unit :=
  ConversationStateStore.update request.org_id request.session_id findings.intent.intent.value
    findings.entities findings.escalation.severity.value agent_action

def escalateFirst (request : WidgetChatRequest) (messages : List (Dict Value))
    (findings : Findings) : SessionCall WidgetChatResponse := do
  updateState request findings "escalate"
  let ticket_id ← escalateWidgetSession python outside request.org_id request.session_id
    (messages ++ [userMessage request.message]) (pageContext request.context)
    findings.intent.intent.value findings.escalation.severity.value
  let reply := orElse (findings.escalation.escalation_message.getD "") defaultEscalationReply
  Program.done (widgetResponse python request reply [] 0 true ticket_id)

def settle (request : WidgetChatRequest) (messages : List (Dict Value)) (stored_ctx : Dict Value)
    (findings : Findings) (decision : AgentDecision) : SessionCall WidgetChatResponse := do
  let escalated := decision.action == .escalate
  let ticket_id ←
    if escalated then
      escalateWidgetSession python outside request.org_id request.session_id
        (messages ++ [userMessage request.message, assistantMessage decision.message])
        (pageContext request.context) findings.intent.intent.value
        findings.escalation.severity.value
    else pure .none
  updateState request findings decision.action.value
  if !escalated then
    WidgetSessionMemory.appendMessage request.session_id "user" request.message
    WidgetSessionMemory.appendMessage request.session_id "assistant" decision.message
    WidgetSessionMemory.saveContext request.session_id stored_ctx
  Program.done (outside.trace decision)
  Program.done (widgetResponse python request decision.message
    (buildActions decision.action.value request.context.page) decision.confidence escalated
    ticket_id)

/-- `WidgetSessionService.handle`. -/
def handle (request : WidgetChatRequest) : SessionCall WidgetChatResponse := do
  let (messages, stored_ctx) ← WidgetSessionMemory.getSession request.session_id
  let stored_ctx := Dict.merge stored_ctx (pageContext request.context)
  let findings ← detect python regex outside request
  if findings.escalation.should_escalate then
    escalateFirst python outside request messages findings
  else
    let decision ← onAgent (agentRun python outside.toSurroundings
      (widgetAgentInput outside request messages findings))
    settle python outside request messages stored_ctx findings decision

end Service

end HelpForge.Chatbot
