import HelpForge.Automation.Decision

set_option autoImplicit false

namespace HelpForge.Automation

open Lib Tickets

/-- The texts that are sent to the provider, the lower case of a text, and how often a request to
the provider is repeated. -/
structure Setup where
  responseText : CommentedTicket → TicketComment → String
  summaryText : List TicketComment → String
  toLowerCase : String → String
  retries : Nat := 3

def jsLength (text : String) : Nat := (Json.units text).length

def estimateTokens (value : String) : Nat :=
  if value.isEmpty then 0 else max 1 ((jsLength value + 3) / 4)

def buildAIUsage (promptInput completionOutput : String) : AIUsage where
  promptTokens := estimateTokens promptInput
  completionTokens := estimateTokens completionOutput
  tokensUsed := estimateTokens promptInput + estimateTokens completionOutput

structure AIResult where
  content : String
  aiUsage : AIUsage
  deriving DecidableEq, Repr

def callOpenAI (context : String) : AIResult :=
  let content := "This is a placeholder AI response. Configure OpenAI API key to enable."
  { content, aiUsage := buildAIUsage context content }

def callOpenAISummary (context : String) : AIResult :=
  let content := "Ticket summary placeholder"
  { content, aiUsage := buildAIUsage context content }

def withRetry {α : Type} (fn : AutomationCall α) : Nat → AutomationCall α
  | 0 => fn
  | retries + 1 => fn.recover fun _ => withRetry fn retries

def executeWithProviderGuards (setup : Setup) (organizationId : Nat) (purpose : Purpose)
    (result : AIResult) (timeoutMessage : String) : AutomationCall AIResult :=
  withRetry
    (Program.attempt fun state =>
      if state.down .provider then .error (.javascript "Error" timeoutMessage)
      else
        let served := { organizationId, purpose, tokensUsed := result.aiUsage.tokensUsed }
        .ok (result, { state with served := served :: state.served }))
    setup.retries

section Service

variable (setup : Setup)

def generateAIResponse (organizationId : Nat) (purpose : Purpose) (context : String) :
    AutomationCall AIResult :=
  executeWithProviderGuards setup organizationId purpose (callOpenAI context)
    "AI provider timeout while generating response"

def generateAISummary (organizationId : Nat) (purpose : Purpose) (comments : List TicketComment) :
    AutomationCall AIResult :=
  executeWithProviderGuards setup organizationId purpose
    (callOpenAISummary (setup.summaryText comments))
    "AI provider timeout while generating summary"

def checkProblematicKeywords (text : String) : Bool :=
  uncertaintyKeywords.any fun keyword =>
    decide (keyword.toList <:+: (setup.toLowerCase text).toList)

def formatAIResponse (response : String) (action : ActionType) : String :=
  match action with
  | .autoResolve => "✅ **AI Resolution**: " ++ response
  | .suggest => "💡 **AI Suggestion**: " ++ response
  | .smartAssign =>
    "👤 **AI Recommendation**: " ++ response ++ "\n\nAssigning to available agent..."
  | .storeAndWait => response

def storeAIComment (ticketId : Nat) (response : String) (action : ActionType) :
    AutomationCall TicketComment :=
  createComment { ticketId, message := formatAIResponse response action, authorType := .ai }

def handleSmartAssign (ticket : Ticket) : AutomationCall Unit :=
  -- A failure is logged.
  Program.recover
    (do
      let availableAgents ← getAvailableAgents ticket.organizationId
      match selectBestAgent availableAgents with
      | none => pure ()
      | some selectedAgent =>
        let _ ← updateTicket ticket.id
          { assignedToId := some selectedAgent.userId, status := some .inProgress }
        pure ())
    fun _ => pure ()

def confidenceContext (ticket : CommentedTicket) (aiResponse : String) (now : Nat) :
    ConfidenceContext where
  responseLength := jsLength aiResponse
  hasProblematicKeywords := checkProblematicKeywords setup aiResponse
  isFollowUp := 3 < ticket.comments.length
  ticketPriority := ticket.priority
  ticketAge := (now : Int) - ticket.createdAt
  commentCount := ticket.comments.length
  hasAttachments := false
  descriptionLength := (ticket.description.map jsLength).getD 0

def generateAndStoreAIResponse (ticket : CommentedTicket) (latestComment : TicketComment)
    (orgConfig : Option AIConfig) : AutomationCall Unit := do
  let aiResult ← generateAIResponse setup ticket.organizationId .automationResponse
    (setup.responseText ticket latestComment)
  let now ← Program.reads fun state : AutomationWorld => state.now
  let confidenceData := calculateConfidence (confidenceContext setup ticket aiResult.content now)
  let action := decideAction confidenceData.confidence (decisionOptions ticket.toTicket orgConfig)
  let _ ← storeAIComment ticket.id aiResult.content action.type
  logAIActivity ticket.organizationId ticket.id aiResult.aiUsage
  let ticketUpdate :=
    buildTicketUpdate ticket.toTicket action.type (countAIResponses ticket.comments)
  if action.type = .smartAssign then handleSmartAssign ticket.toTicket
  let _ ← updateTicket ticket.id ticketUpdate
  pure ()

def processComment (ticketId commentId : Nat) : AutomationCall Bool := do
  let ticket ← getTicketWithComments ticketId
  match ticket with
  | none => return false
  | some ticket =>
    let orgConfig ← getAIConfigByOrg ticket.organizationId
    if orgConfig.all (·.aiEnabled) then
      match ticket.comments.find? fun comment => comment.id == commentId with
      | none => return false
      | some newComment =>
        if newComment.authorType = .user then
          let now ← Program.reads fun state : AutomationWorld => state.now
          if (shouldProcessAI ticket orgConfig now).canProcess then
            generateAndStoreAIResponse setup ticket newComment orgConfig
            return true
          else return false
        else return false
    else return false

structure CommentPayload where
  ticketId : Nat
  commentId : Option Nat
  deriving DecidableEq, Repr

def handleCommentAdded (payload : CommentPayload) : AutomationCall Unit :=
  match payload.commentId with
  | none => pure ()
  | some commentId => do
    let processed ← hasCommentBeenProcessed commentId
    if processed then pure ()
    else do
      let lockResult ← acquireCommentProcessingLock commentId
      match lockResult with
      | some false => pure ()
      | some true =>
        Program.ensuring
          (do
            let responded ← processComment setup payload.ticketId commentId
            if responded then markCommentAsProcessed commentId)
          (releaseCommentProcessingLock commentId)
      | none => do
        let _ ← processComment setup payload.ticketId commentId
        pure ()

def generateTicketSummary (ticketId : Nat) : AutomationCall (Option String) := do
  let ticket ← getTicketWithComments ticketId
  match ticket with
  | none => return none
  | some ticket =>
    let summaryResult ←
      generateAISummary setup ticket.organizationId .automationSummary ticket.comments
    logAIActivity ticket.organizationId ticketId summaryResult.aiUsage
    return some summaryResult.content

end Service

inductive OverrideAction where
  | resolve
  | assign
  deriving DecidableEq, Repr

structure OverrideBody where
  action : Option OverrideAction := none
  assignToId : Option Nat := none
  status : Option TicketStatus := none
  deriving DecidableEq, Repr

def overridePatch (body : OverrideBody) : TicketPatch :=
  match body.action, body.assignToId with
  | some .resolve, _ => { status := some .resolved, aiActive := some false }
  | some .assign, some assignToId =>
    { assignedToId := some assignToId, status := some .inProgress, aiActive := some false }
  | _, _ => { status := body.status, aiActive := some false }

def overrideDecision (ticketId : Nat) (body : OverrideBody) : AutomationCall Ticket := do
  let ticket ← getTicket ticketId
  let _ ← Program.orFail ticket
    (.api 404 ("Ticket " ++ toString ticketId ++ " not found") "TICKET_NOT_FOUND")
  updateTicket ticketId (overridePatch body)

def toggleAI (ticketId : Nat) (aiActive : Bool) : AutomationCall Ticket :=
  updateTicket ticketId { aiActive := some aiActive }

/-! ### The internal endpoints

What the chat service asks the provider for through the gateway. `text` is the body of the request
as JSON, which the provider is given.
-/

structure GenerateAnswer where
  status : Nat
  result : Option AIResult := none
  deriving DecidableEq, Repr

/-- `errorHandler`. -/
def errorAnswer : ServiceError → GenerateAnswer
  | .api statusCode _ _ => { status := statusCode }
  | .rejected statusCode _ => { status := statusCode }
  | .prisma _ | .javascript _ _ | .unavailable _ => { status := 500 }

section Internal

variable (setup : Setup) (orgId : Nat) (purpose : Purpose) (text : String)

def generateController : AutomationCall GenerateAnswer :=
  Program.recover
    (do
      let orgConfig ← getAIConfigByOrg orgId
      if orgConfig.all (·.aiEnabled) then
        let result ← generateAIResponse setup orgId purpose text
        return { status := 200, result := some result }
      else return { status := 403 })
    fun error => pure (errorAnswer error)

def generateStreamController : AutomationCall GenerateAnswer :=
  -- The configuration of the organisation is not looked at.
  Program.recover
    (do
      let result ← generateAIResponse setup orgId .streaming text
      return { status := 200, result := some result })
    fun error => pure (errorAnswer error)

end Internal

end HelpForge.Automation
