import HelpForge.Lib.Json
import HelpForge.Tickets.Repo

set_option autoImplicit false

/-!
# What the automation keeps and asks for

With the calls that the provider has served. Costs and lifetimes of entries are left out.
-/

namespace HelpForge.Automation

open Lib Tickets

structure AIConfig where
  organizationId : Nat
  enableAutoResolve : Bool := true
  enableSmartAssign : Bool := true
  autoResolveThreshold : Rat := 85 / 100
  suggestThreshold : Rat := 1 / 2
  smartAssignThreshold : Rat := 65 / 100
  maxAIResponses : Nat := 5
  aiEnabled : Bool := true
  deriving DecidableEq, Repr

structure AIUsage where
  promptTokens : Nat
  completionTokens : Nat
  tokensUsed : Nat
  deriving DecidableEq, Repr

structure UsageTotals where
  tokensUsed : Nat := 0
  requests : Nat := 0
  deriving DecidableEq, Repr

inductive Dependency where
  | database
  | provider
  | cache
  deriving DecidableEq, Repr

inductive Purpose where
  | automationResponse
  | automationSummary
  | agentSuggestion
  | agentSummary
  | agentDecision (traced : Bool)
  | intentDetection
  | queryRouting
  | reranking
  | streaming
  | summarization
  deriving DecidableEq, Repr

structure ProviderCall where
  organizationId : Nat
  purpose : Purpose
  tokensUsed : Nat
  deriving DecidableEq, Repr

structure AutomationWorld extends World where
  configs : List AIConfig := []
  -- Whether `ai:comment:{id}:processed` is set.
  processed : Nat → Bool := fun _ => false
  -- Whether `ai:comment:{id}:processing` is set.
  processing : Nat → Bool := fun _ => false
  ticketUsage : Nat → UsageTotals := fun _ => {}
  organizationUsage : Nat → UsageTotals := fun _ => {}
  -- The latest first.
  served : List ProviderCall := []
  -- Whether the AI cache is enabled and has a client.
  cacheClient : Bool := true
  down : Dependency → Bool := fun _ => false

abbrev AutomationCall (α : Type) := Program AutomationWorld ServiceError α

def inWorld {α : Type} (call : Call α) : AutomationCall α :=
  -- A call of the other modules.
  call.zoom AutomationWorld.toWorld fun world state => { state with toWorld := world }

section Database

def statement {α : Type} (body : AutomationWorld → Except ServiceError (α × Database)) :
    AutomationCall α :=
  -- A statement fails with the database.
  Program.attempt fun state =>
    if state.down .database then .error (.unavailable "database")
    else (body state).map fun result =>
      (result.1, { state with toWorld := state.withDb fun _ => result.2 })

theorem statement_written {α : Type}
    {body : AutomationWorld → Except ServiceError (α × Database)} {state reached : AutomationWorld}
    {value : α}
    (outcome : (if state.down .database then .error (.unavailable "database")
      else (body state).map fun result =>
        (result.1, { state with toWorld := state.withDb fun _ => result.2 }) :
          Except ServiceError (α × AutomationWorld)) = .ok (value, reached)) :
    ∃ db, body state = .ok (value, db) ∧
      reached = { state with toWorld := state.withDb fun _ => db } := by
  split_ifs at outcome
  cases wrote : body state with
  | error failure => simp [wrote, Except.map] at outcome
  | ok result =>
    simp only [wrote, Except.map] at outcome
    cases outcome
    exact ⟨result.2, rfl, rfl⟩

def query {α : Type} (view : AutomationWorld → α) : AutomationCall α :=
  statement fun state => .ok (view state, state.db)

structure CommentedTicket extends Ticket where
  comments : List TicketComment
  createdBy : Option User
  assignedTo : Option User
  organization : Option Organization
  deriving DecidableEq, Repr

def commented (db : Database) (ticket : Ticket) : CommentedTicket :=
  { ticket with
    comments := byCreatedAt (·.createdAt) (commentsOf db ticket.id)
    createdBy := db.findUser ticket.createdById
    assignedTo := ticket.assignedToId.bind db.findUser
    organization := db.findOrganization ticket.organizationId }

def getTicketWithComments (ticketId : Nat) : AutomationCall (Option CommentedTicket) :=
  query fun state => (state.db.findTicket ticketId).map (commented state.db)

def getTicket (ticketId : Nat) : AutomationCall (Option Ticket) :=
  query fun state => state.db.findTicket ticketId

def getAIConfigByOrg (organizationId : Nat) : AutomationCall (Option AIConfig) :=
  query fun state => state.configs.find? fun config => config.organizationId == organizationId

structure CommentInput where
  ticketId : Nat
  message : String
  authorType : CommentAuthorType := .user
  authorId : Option Nat := none
  isInternal : Bool := false
  deriving DecidableEq, Repr

def createComment (data : CommentInput) : AutomationCall TicketComment :=
  statement fun state =>
    if (state.db.findTicket data.ticketId).isSome &&
        data.authorId.all fun authorId => (state.db.findUser authorId).isSome then
      let comment : TicketComment :=
        { id := state.db.nextId
          ticketId := data.ticketId
          authorId := data.authorId
          authorType := data.authorType
          message := data.message
          isInternal := data.isInternal
          createdAt := state.now }
      .ok (comment, insertComment comment state.db)
    else .error .foreignKeyConstraint

structure TicketPatch where
  status : Option TicketStatus := none
  aiActive : Option Bool := none
  assignedToId : Option Nat := none
  aiMessageCount : Option Nat := none
  deriving DecidableEq, Repr

def TicketPatch.apply (patch : TicketPatch) (ticket : Ticket) : Ticket :=
  { ticket with
    status := patch.status.getD ticket.status
    aiActive := patch.aiActive.getD ticket.aiActive
    assignedToId := patch.assignedToId.or ticket.assignedToId
    aiMessageCount := patch.aiMessageCount.getD ticket.aiMessageCount }

def updateTicket (ticketId : Nat) (patch : TicketPatch) : AutomationCall Ticket :=
  statement fun state =>
    match state.db.findTicket ticketId with
    | none => .error .recordNotFound
    | some ticket =>
      let written := { patch.apply ticket with updatedAt := state.now }
      if keysResolve state.db written then .ok (written, storeTicket ticketId written state.db)
      else .error .foreignKeyConstraint

def isAvailableAgent (db : Database) (userId : Nat) : Bool :=
  -- The user has a membership, in any organisation, that is available and whose role lets it change
  -- its availability.
  db.memberships.any fun membership =>
    membership.userId == userId && membership.isAvailable &&
      (db.findOrgRole membership.roleId).any fun role =>
        role.permissions.contains .agentUpdateAvailability

def getAvailableAgents (organizationId : Nat) : AutomationCall (List AgentWorkload) :=
  query fun state => state.db.agentWorkloads.filter fun workload =>
    workload.organizationId == organizationId && isAvailableAgent state.db workload.userId

end Database

section Cache

def hasCommentBeenProcessed (commentId : Nat) : AutomationCall Bool :=
  -- A read is empty without a client, and when the cache fails.
  Program.reads fun state =>
    state.cacheClient && !state.down .cache && state.processed commentId

/-- A write: without a client it answers nothing, and when the cache fails it answers `false`. -/
def cacheWrite (answer : AutomationWorld → Bool) (change : AutomationWorld → AutomationWorld) :
    AutomationCall (Option Bool) :=
  Program.attempt fun state =>
    if !state.cacheClient then .ok (none, state)
    else if state.down .cache then .ok (some false, state)
    else .ok (some (answer state), change state)

def acquireCommentProcessingLock (commentId : Nat) : AutomationCall (Option Bool) :=
  cacheWrite (fun state => !state.processing commentId) fun state =>
    { state with processing := Function.update state.processing commentId true }

def markCommentAsProcessed (commentId : Nat) : AutomationCall Unit := do
  let _ ← cacheWrite (fun _ => true) fun state =>
    { state with processed := Function.update state.processed commentId true }
  pure ()

def releaseCommentProcessingLock (commentId : Nat) : AutomationCall Unit := do
  let _ ← cacheWrite (fun _ => true) fun state =>
    { state with processing := Function.update state.processing commentId false }
  pure ()

def incrementHashValues (tokensUsed requests : AutomationWorld → AutomationWorld) :
    AutomationCall Unit := do
  let answered ← cacheWrite (fun _ => true) tokensUsed
  if answered = some true then
    let _ ← cacheWrite (fun _ => true) requests
    pure ()

def UsageTotals.addTokens (totals : UsageTotals) (tokensUsed : Nat) : UsageTotals :=
  { totals with tokensUsed := totals.tokensUsed + tokensUsed }

def UsageTotals.addRequest (totals : UsageTotals) : UsageTotals :=
  { totals with requests := totals.requests + 1 }

/-- What `usage` makes of the totals under the key, and the others as they are. -/
def changeUsage (key : Nat) (usage : UsageTotals → UsageTotals) (totals : Nat → UsageTotals) :
    Nat → UsageTotals :=
  Function.update totals key (usage (totals key))

def incrementTicketUsage (ticketId tokensUsed : Nat) : AutomationCall Unit :=
  incrementHashValues
    (fun state =>
      { state with ticketUsage := changeUsage ticketId (·.addTokens tokensUsed) state.ticketUsage })
    (fun state =>
      { state with ticketUsage := changeUsage ticketId UsageTotals.addRequest state.ticketUsage })

def incrementOrganizationUsage (organizationId tokensUsed : Nat) : AutomationCall Unit :=
  incrementHashValues
    (fun state =>
      { state with
        organizationUsage :=
          changeUsage organizationId (·.addTokens tokensUsed) state.organizationUsage })
    (fun state =>
      { state with
        organizationUsage := changeUsage organizationId UsageTotals.addRequest state.organizationUsage })

/-- With `trackAIUsageTotals`; the breakdown by days is left out. -/
def logAIActivity (organizationId ticketId : Nat) (aiUsage : AIUsage) : AutomationCall Unit := do
  incrementTicketUsage ticketId aiUsage.tokensUsed
  incrementOrganizationUsage organizationId aiUsage.tokensUsed

end Cache

end HelpForge.Automation
