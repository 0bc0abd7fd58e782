import HelpForge.Automation.Repo
import Mathlib.Algebra.Order.Ring.Unbundled.Rat

set_option autoImplicit false

/-!
# What the automation decides

Scores and thresholds are exact numbers, where the code computes with floating point.
-/

namespace HelpForge.Automation

open Lib Tickets

def aiMaxMessagesPerTicket : Nat := 5

def aiCommentCooldownMs : Nat := 30 * 1000

def confidenceThresholdAutoClose : Rat := 85 / 100

def confidenceThresholdSuggest : Rat := 1 / 2

def smartAssignThreshold : Rat := 65 / 100

def uncertaintyKeywords : List String :=
  ["maybe", "probably", "not sure", "unclear", "sorry", "i think", "might be", "could be",
    "uncertain", "not certain"]

inductive GuardReason where
  | aiDisabled
  | maxMessagesReached
  | cooldownActive
  | alreadyInProgress
  | readyToProcess
  deriving DecidableEq, Repr

structure GuardResult where
  canProcess : Bool
  reason : GuardReason
  deriving DecidableEq, Repr

def lastAIComment (comments : List TicketComment) : Option TicketComment :=
  comments.reverse.find? fun comment => comment.authorType == .ai

def cooledDown (now : Nat) (comment : TicketComment) : Bool :=
  -- Whether the cooldown since the comment is over.
  comment.createdAt + aiCommentCooldownMs ≤ now

def shouldProcessAI (ticket : CommentedTicket) (orgConfig : Option AIConfig) (now : Nat) :
    GuardResult :=
  let maxMessages := (orgConfig.map (·.maxAIResponses)).getD aiMaxMessagesPerTicket
  if !ticket.aiActive then ⟨false, .aiDisabled⟩
  else if maxMessages ≤ ticket.aiMessageCount then ⟨false, .maxMessagesReached⟩
  else if !(lastAIComment ticket.comments).all (cooledDown now) then ⟨false, .cooldownActive⟩
  else if ticket.assignedToId.isSome && ticket.status == .inProgress then
    ⟨false, .alreadyInProgress⟩
  else ⟨true, .readyToProcess⟩

structure ConfidenceContext where
  responseLength : Nat
  hasProblematicKeywords : Bool
  isFollowUp : Bool
  ticketPriority : Priority
  ticketAge : Int
  commentCount : Nat
  hasAttachments : Bool
  descriptionLength : Nat
  deriving DecidableEq, Repr

inductive Recommendation where
  | highConfidenceResolve
  | moderateConfidenceAssign
  | mediumConfidenceSuggest
  | lowConfidenceStore
  deriving DecidableEq, Repr

def getRecommendation (score : Rat) : Recommendation :=
  if confidenceThresholdAutoClose ≤ score then .highConfidenceResolve
  else if smartAssignThreshold ≤ score then .moderateConfidenceAssign
  else if confidenceThresholdSuggest ≤ score then .mediumConfidenceSuggest
  else .lowConfidenceStore

def confidenceScore (context : ConfidenceContext) : Rat :=
  let length : Rat :=
    if 100 < context.responseLength && context.responseLength < 500 then 15 / 100
    else if 500 < context.responseLength then 5 / 100
    else 0
  let keywords : Rat := if context.hasProblematicKeywords then -20 / 100 else 0
  let followUp : Rat := if context.isFollowUp then -10 / 100 else 5 / 100
  let priority : Rat :=
    match context.ticketPriority with
    | .low => 10 / 100
    | .urgent => -20 / 100
    | .high => -10 / 100
    | .medium => 0
  let age : Rat :=
    if context.ticketAge ≠ 0 && context.ticketAge < 3600000 then 10 / 100
    else if 86400000 < context.ticketAge then -10 / 100
    else 0
  let comments : Rat :=
    if 5 < context.commentCount then 5 / 100
    else if context.commentCount = 1 then 8 / 100
    else 0
  let attachments : Rat := if context.hasAttachments then -5 / 100 else 3 / 100
  let description : Rat := if 200 < context.descriptionLength then 8 / 100 else 0
  max 0 (min 1
    (50 / 100 + length + keywords + followUp + priority + age + comments + attachments +
      description))

structure Confidence where
  confidence : Rat
  recommendation : Recommendation
  deriving DecidableEq, Repr

def calculateConfidence (context : ConfidenceContext) : Confidence where
  confidence := confidenceScore context
  recommendation := getRecommendation (confidenceScore context)

inductive ActionType where
  | autoResolve
  | smartAssign
  | suggest
  | storeAndWait
  deriving DecidableEq, Repr

structure Action where
  type : ActionType
  confidence : Rat
  reasoning : String
  deriving DecidableEq, Repr

structure DecisionOptions where
  canAssign : Bool
  enableAutoResolve : Bool := true
  enableSmartAssign : Bool := true
  autoResolveThreshold : Rat := confidenceThresholdAutoClose
  suggestThreshold : Rat := confidenceThresholdSuggest
  smartAssignThreshold : Rat := Automation.smartAssignThreshold
  deriving DecidableEq, Repr

def decisionOptions (ticket : Ticket) (orgConfig : Option AIConfig) : DecisionOptions :=
  match orgConfig with
  | none => { canAssign := ticket.assignedToId.isNone }
  | some config =>
    { canAssign := ticket.assignedToId.isNone
      enableAutoResolve := config.enableAutoResolve
      enableSmartAssign := config.enableSmartAssign
      autoResolveThreshold := config.autoResolveThreshold
      suggestThreshold := config.suggestThreshold
      smartAssignThreshold := config.smartAssignThreshold }

def decideAction (confidence : Rat) (options : DecisionOptions) : Action :=
  if options.enableAutoResolve && options.autoResolveThreshold ≤ confidence then
    { type := .autoResolve
      confidence
      reasoning := "High confidence - can auto-resolve ticket" }
  else if options.enableSmartAssign && options.smartAssignThreshold ≤ confidence &&
      options.canAssign then
    { type := .smartAssign
      confidence
      reasoning := "Moderate confidence - suggest assignment to available agent" }
  else if options.suggestThreshold ≤ confidence then
    { type := .suggest
      confidence
      reasoning := "Medium confidence - suggest to user, wait for feedback" }
  else
    { type := .storeAndWait
      confidence
      reasoning := "Low confidence - store response, wait for user feedback" }

def selectBestAgent (availableAgents : List AgentWorkload) : Option AgentWorkload :=
  -- The first of those with the fewest assignments today.
  (availableAgents.insertionSort fun first second =>
    first.assignedToday ≤ second.assignedToday).head?

def countAIResponses (comments : List TicketComment) : Nat :=
  comments.countP fun comment => comment.authorType == .ai

def buildTicketUpdate (ticket : Ticket) (action : ActionType) (currentAiResponseCount : Nat) :
    TicketPatch :=
  { status := if action = .autoResolve then some .resolved else none
    aiActive :=
      if action = .autoResolve || aiMaxMessagesPerTicket ≤ currentAiResponseCount + 1 then some false
      else none
    aiMessageCount := some (ticket.aiMessageCount + 1) }

theorem mem_of_selectBestAgent (availableAgents : List AgentWorkload) (agent : AgentWorkload)
    (selected : selectBestAgent availableAgents = some agent) : agent ∈ availableAgents := by
  have first := List.mem_of_mem_head? (Option.mem_def.mpr selected)
  rwa [List.mem_insertionSort] at first

end HelpForge.Automation
