import HelpForge.Automation.Service
import HelpForge.Tickets.Handlers
import Mathlib.Algebra.GroupWithZero.Nat

set_option autoImplicit false

/-!
# Help for agents

A text that has been cut is the list of its code units.
-/

namespace HelpForge.Automation

open Lib Tickets

inductive Returned where
  | text (content : String)
  | object (result : AIResult)
  deriving DecidableEq, Repr

abbrev CutText := List UInt16

def substring (text : String) (length : Nat) : CutText := (Json.units text).take length

/-- `length`, where there is one. -/
def Returned.length : Returned → Option Nat
  | .text content => some (jsLength content)
  | .object _ => none

def includes (text part : String) : Bool := decide (part.toList <:+: text.toList)

def buildCopySuggestion (suggestion : Returned) (previewLength : Nat) : CutText :=
  let preview :=
    match suggestion with
    | .text content => substring content previewLength
    | .object _ => []
  Json.units "Copy & Customize: " ++ preview ++ Json.units "..."

inductive SuggestionQuality where
  | excellent
  | good
  | fair
  deriving DecidableEq, Repr

structure SuggestionMetrics where
  quality : SuggestionQuality
  confidence : Rat
  reasoning : String
  deriving DecidableEq, Repr

section Texts

variable (setup : Setup)

def toLowerText : Returned → String
  | .text content => setup.toLowerCase content
  | .object _ => ""

def containsAnyKeyword (text : String) (keywords : List String) : Bool :=
  keywords.any fun keyword => includes (toLowerText setup (.text text)) (setup.toLowerCase keyword)

def calculateSuggestionQuality (suggestion : Returned) : SuggestionMetrics :=
  let normalizedSuggestion := toLowerText setup suggestion
  let appropriate := suggestion.length.any fun length => 150 < length && length < 400
  let clear := !containsAnyKeyword setup normalizedSuggestion ["unclear", "unsure"]
  let actionable := containsAnyKeyword setup normalizedSuggestion ["please", "try", "can you"]
  let generic := containsAnyKeyword setup normalizedSuggestion ["sorry for the inconvenience"] &&
    suggestion.length.any fun length => length < 100
  let confidence : Rat := 1 / 2 + (if appropriate then 15 / 100 else 0) +
    (if clear then 1 / 10 else 0) + (if actionable then 1 / 5 else 0)
  let factors := (if appropriate then ["appropriate length"] else []) ++
    (if clear then ["clear response"] else []) ++ if actionable then ["actionable"] else []
  { quality :=
      if generic then .fair
      else if actionable then .excellent
      else if appropriate then .good
      else .fair
    confidence := min 1 (if generic then max 0 (confidence - 1 / 10) else confidence)
    reasoning := "Suggestion quality based on: " ++
      if factors = [] then "standard analysis" else ", ".intercalate factors }

def generateIssueSummary (ticket : Ticket) (aiSummary : Returned) :
    Except ServiceError CutText :=
  -- The text is cut, or else the description; a missing description is spelled out.
  match aiSummary with
  | .object _ => .error (.javascript "TypeError" "aiSummary?.substring is not a function")
  | .text content =>
    let cut := substring content 100
    .ok (Json.units (ticket.title ++ ". ") ++
      if cut = [] then (ticket.description.map (substring · 100)).getD (Json.units "undefined")
      else cut)

end Texts

def priorityName : Priority → String
  | .low => "LOW"
  | .medium => "MEDIUM"
  | .high => "HIGH"
  | .urgent => "URGENT"

structure KeyInformation where
  keyPoints : List CutText
  attemptedSolutions : List String
  nextSteps : List String
  deriving DecidableEq, Repr

structure TimelineEvent where
  time : Nat
  action : String
  actor : String
  deriving DecidableEq, Repr

inductive Sentiment where
  | positive
  | negative
  | neutral
  deriving DecidableEq, Repr

inductive SuggestedActionType where
  | escalate
  | requestAttachment
  | scheduleFollowup
  | kbSearch
  deriving DecidableEq, Repr

structure SuggestedAction where
  rank : Nat
  actionType : SuggestedActionType
  title : String
  description : String
  priority : Priority
  deriving DecidableEq, Repr

def considerEscalation : SuggestedAction where
  rank := 1
  actionType := .escalate
  title := "Consider escalation"
  description := "Ticket is 24+ hours old with multiple comments. May need supervisor review."
  priority := .high

def requestMoreInformation : SuggestedAction where
  rank := 2
  actionType := .requestAttachment
  title := "Request more information"
  description := "High priority ticket without attachments. Ask for logs/screenshots."
  priority := .medium

def scheduleFollowUp : SuggestedAction where
  rank := 3
  actionType := .scheduleFollowup
  title := "Schedule follow-up"
  description := "Complex issue with multiple back-and-forths. Schedule dedicated call."
  priority := .medium

def checkKnowledgeBase : SuggestedAction where
  rank := 4
  actionType := .kbSearch
  title := "Check knowledge base"
  description := "Suggested searches: common errors related to this issue."
  priority := .low

section Tickets

variable (setup : Setup)

def nextStepsOf : TicketStatus → List String
  | .open =>
    ["Acknowledge customer, confirm understanding", "Gather additional information if needed",
      "Provide initial troubleshooting steps or timeline"]
  | .inProgress =>
    ["Follow up on previous troubleshooting steps",
      "Escalate to higher tier support if customer reports no resolution"]
  | .resolved | .closed => []

def extractKeyInformation (ticket : CommentedTicket) : KeyInformation where
  keyPoints :=
    [Json.units ("Priority: " ++ priorityName ticket.priority),
      Json.units ("Status: " ++ statusName ticket.status)] ++
      (ticket.comments.filter fun comment =>
        includes (setup.toLowerCase comment.message) "error").map fun comment =>
          Json.units "Error mentioned: " ++ substring comment.message 50
  attemptedSolutions :=
    (ticket.comments.filter fun comment =>
      includes (setup.toLowerCase comment.message) "tried").map (·.message)
  nextSteps := nextStepsOf ticket.status

def nameOr (fallback : String) (user : Option User) : String :=
  -- An empty name is as good as none.
  ((user.bind (·.name)).filter fun name => !name.isEmpty).getD fallback

def generateTimeline (ticket : CommentedTicket) : List TimelineEvent :=
  { time := ticket.createdAt, action := "Ticket created"
    actor := nameOr "customer" ticket.createdBy } ::
  if ticket.assignedToId.isSome then
    [{ time := ticket.updatedAt, action := "Assigned to"
       actor := nameOr "agent" ticket.assignedTo }]
  else []

def positiveKeywords : List String :=
  ["thanks", "great", "good", "perfect", "solved", "working", "fixed"]

def negativeKeywords : List String :=
  ["frustrated", "angry", "still broken", "not working", "terrible", "waste"]

def analyzeCustomerSentiment (comments : List TicketComment) : Sentiment :=
  let texts := (comments.filter fun comment => comment.authorType == .user).map fun comment =>
    toLowerText setup (.text comment.message)
  let mentions (keywords : List String) : Nat :=
    (texts.map fun text => keywords.countP fun word => includes text word).sum
  if mentions positiveKeywords < mentions negativeKeywords then .negative
  else if mentions negativeKeywords < mentions positiveKeywords then .positive
  else .neutral

def calculateTicketAge (createdAt now : Nat) : String :=
  let age : Int := now - createdAt
  let hours := age.fdiv 3600000
  let minutes := (age.tmod 3600000).fdiv 60000
  if 24 < hours then toString (hours.fdiv 24) ++ " day(s)"
  else if 0 < hours then toString hours ++ "h " ++ toString minutes ++ "m"
  else toString minutes ++ " min"

def generateSuggestedActionsFromTicket (ticket : CommentedTicket) (now : Nat) :
    List SuggestedAction :=
  -- Comments are read without their attachments.
  let commentCount := ticket.comments.length
  let ticketAge : Int := now - ticket.createdAt
  let lastByUser := ticket.comments.getLast?.any fun comment => comment.authorType == .user
  (if 86400000 < ticketAge ∧ 3 < commentCount ∧ ticket.status = .open then [considerEscalation]
    else []) ++
  (if ticket.priority = .high then [requestMoreInformation] else []) ++
  (if 5 < commentCount then [scheduleFollowUp] else []) ++
  if lastByUser ∧ 2 < commentCount then [checkKnowledgeBase] else []

end Tickets

structure Provider where
  generateAIResponse : Nat → Purpose → String → AutomationCall AIResult
  generateAISummary : Nat → Purpose → List TicketComment → AutomationCall AIResult

def Setup.provider (setup : Setup) : Provider where
  generateAIResponse := generateAIResponse setup
  generateAISummary := generateAISummary setup

structure AgentSuggestion where
  ticketId : Nat
  suggestion : AIResult
  metrics : SuggestionMetrics
  copySuggestion : CutText
  deriving DecidableEq, Repr

structure TicketSummary where
  ticketId : Nat
  title : String
  issue : CutText
  timeline : List TimelineEvent
  keyInfo : KeyInformation
  customerSentiment : Sentiment
  priority : Priority
  age : String
  deriving DecidableEq, Repr

structure QuickAssist where
  ticketId : Nat
  suggestion : Option AgentSuggestion
  summary : TicketSummary
  actions : List SuggestedAction
  timestamp : Nat
  deriving DecidableEq, Repr

section Services

variable (setup : Setup) (provider : Provider)
  (suggestionText : CommentedTicket → TicketComment → Nat → String)

def currentTime : AutomationCall Nat := Program.reads fun state : AutomationWorld => state.now

def generateAgentSuggestionFromTicket (ticket : CommentedTicket) :
    AutomationCall (Option AgentSuggestion) :=
  match ticket.comments.reverse.find? fun comment => comment.authorType == .user with
  | none => return none
  | some lastUserComment => do
    let now ← currentTime
    let suggestion ← provider.generateAIResponse ticket.organizationId .agentSuggestion
      (suggestionText ticket lastUserComment now)
    return some {
      ticketId := ticket.id
      suggestion
      metrics := calculateSuggestionQuality setup (.object suggestion)
      copySuggestion := buildCopySuggestion (.object suggestion) 50 }

def generateTicketSummaryFromTicket (ticket : CommentedTicket) : AutomationCall TicketSummary := do
  let summary ← provider.generateAISummary ticket.organizationId .agentSummary ticket.comments
  let issue ← Program.done (generateIssueSummary ticket.toTicket (.object summary))
  let now ← currentTime
  return {
    ticketId := ticket.id
    title := ticket.title
    issue
    timeline := generateTimeline ticket
    keyInfo := extractKeyInformation setup ticket
    customerSentiment := analyzeCustomerSentiment setup ticket.comments
    priority := ticket.priority
    age := calculateTicketAge ticket.createdAt now }

def assisted {α : Type} (assist : CommentedTicket → AutomationCall (Option α)) (ticketId : Nat) :
    AutomationCall (Option α) :=
  -- What is made of a ticket whose organisation has not disabled its AI; a failure is logged.
  Program.recover
    (do
      let ticket ← getTicketWithComments ticketId
      match ticket with
      | none => return none
      | some ticket =>
        let orgConfig ← getAIConfigByOrg ticket.organizationId
        if orgConfig.all (·.aiEnabled) then assist ticket else return none)
    fun _ => pure none

def generateAgentSuggestion (ticketId : Nat) : AutomationCall (Option AgentSuggestion) :=
  assisted (generateAgentSuggestionFromTicket setup provider suggestionText) ticketId

namespace Augmentation

def generateTicketSummary (ticketId : Nat) : AutomationCall (Option TicketSummary) :=
  assisted (fun ticket => some <$> generateTicketSummaryFromTicket setup provider ticket) ticketId

end Augmentation

def checkAbort (abortReason : Option String) : AutomationCall Unit :=
  -- The request has been aborted if there is a reason.
  match abortReason with
  | none => pure ()
  | some reason => Program.fail (.javascript "Error" ("Request aborted: " ++ reason))

def assistAtOnce (ticketId : Nat) (ticket : CommentedTicket) :
    AutomationCall (Option QuickAssist) := do
  let suggestion ←
    (generateAgentSuggestionFromTicket setup provider suggestionText ticket).outcome
  let summary ← (generateTicketSummaryFromTicket setup provider ticket).outcome
  let suggestion ← Program.done suggestion
  let summary ← Program.done summary
  let now ← currentTime
  return some {
    ticketId, suggestion, summary, timestamp := now
    actions := generateSuggestedActionsFromTicket ticket now }

def generateQuickAssist (abortReason : Option String) (ticketId : Nat) :
    AutomationCall (Option QuickAssist) := do
  let ticket ← getTicketWithComments ticketId
  match ticket with
  | none => return none
  | some ticket =>
    checkAbort abortReason
    assistAtOnce setup provider suggestionText ticketId ticket

end Services

end HelpForge.Automation
