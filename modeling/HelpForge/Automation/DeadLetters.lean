import HelpForge.Lib.Json

set_option autoImplicit false

namespace HelpForge.Automation

open Lib

structure FailedPayload where
  ticketId : Option Nat := none
  commentId : Option Nat := none
  rest : String := ""
  deriving DecidableEq, Repr

structure FailedJob where
  name : String
  id : Option String
  data : FailedPayload
  attemptsMade : Nat
  attempts : Option Nat
  failedReason : Option String := none
  deriving DecidableEq, Repr

structure JobError where
  message : String
  stack : Option String := none
  deriving DecidableEq, Repr

structure FailureData where
  queueName : String
  jobName : String
  jobId : Option String
  ticketId : Option Nat := none
  commentId : Option Nat := none
  attemptsMade : Nat
  retryLimit : Nat
  retryable : Bool
  -- In code units, as is the trace: the other queues cut both.
  failureReason : List UInt16
  stacktrace : Option (List UInt16)
  payload : FailedPayload
  deriving DecidableEq, Repr

structure AIProcessingFailure extends FailureData where
  id : String
  failedAt : Nat
  createdAt : Nat
  deriving DecidableEq, Repr

structure FailureTable where
  rows : List AIProcessingFailure := []
  -- How many ids `uuid` has given.
  minted : Nat := 0
  now : Nat := 0
  deriving DecidableEq, Repr

def delegateName (model : String) : String :=
  -- A client has a delegate for each model, under the model's name with a small first letter.
  match model.toList with
  | [] => ""
  | first :: rest => String.ofList (first.toLower :: rest)

def models : List String :=
  ["OrgRole", "Permission", "RolePermission", "User", "RefreshToken", "TokenBlacklist",
    "Organization", "Membership", "Ticket", "TicketComment", "TicketAttachment", "Tag", "TicketTag",
    "TicketActivityLog", "AgentWorkload", "Notification", "NotificationPreference", "AIDecisionLog",
    "AIUsage", "AIFeedback", "AIConfig", "TicketSummary", "AIProcessingLock", "AIProcessingFailure",
    "EventStore", "TicketSubmissionConfig", "ScrapedPage"]

abbrev Delegates := List String

def prismaDelegates : Delegates :=
  (models.filter (· == "AIProcessingFailure")).map delegateName

example : prismaDelegates = ["aIProcessingFailure"] := by decide

def undefinedRead (field : String) : JobError :=
  { message := "Cannot read properties of undefined (reading '" ++ field ++ "')" }

section Failures

variable (uuid : Nat → String) (delegates : Delegates)

/-- `db.write[delegate].create`. -/
def create (delegate : String) (data : FailureData) (table : FailureTable) :
    Except JobError AIProcessingFailure × FailureTable :=
  if delegate ∈ delegates then
    let failure : AIProcessingFailure :=
      { data with id := uuid table.minted, failedAt := table.now, createdAt := table.now }
    (.ok failure, { table with rows := table.rows ++ [failure], minted := table.minted + 1 })
  else (.error (undefinedRead "create"), table)

/-- `orderBy: [{ failedAt: "desc" }, { createdAt: "desc" }]`. -/
def newestFirst (rows : List AIProcessingFailure) : List AIProcessingFailure :=
  rows.mergeSort fun one other =>
    decide (other.failedAt < one.failedAt ∨
      (other.failedAt = one.failedAt ∧ other.createdAt ≤ one.createdAt))

def trim (maxEntries : Nat) (table : FailureTable) : FailureTable :=
  -- All rows of the table, whichever queue they are of, but for so many.
  let staleFailures := ((newestFirst table.rows).drop maxEntries).map AIProcessingFailure.id
  { table with rows := table.rows.filter fun failure => failure.id ∉ staleFailures }

def createAIProcessingFailure (data : FailureData) (maxEntries : Int) (table : FailureTable) :
    Except JobError AIProcessingFailure × FailureTable :=
  match create uuid delegates "aiProcessingFailure" data table with
  | (.error error, table) => (.error error, table)
  | (.ok failure, table) =>
    (.ok failure, if 0 < maxEntries then trim maxEntries.toNat table else table)

structure DeadLetterConfig where
  queueName : String := "ai-automation"
  retryLimit : Nat := 3
  dlqMaxEntries : Int := 1000

variable (config : DeadLetterConfig)

def failureReasonOf (job : FailedJob) (error : Option JobError) : String :=
  match error.map JobError.message, job.failedReason with
  | some "", some "" | some "", none | none, some "" | none, none => "Unknown failure"
  | some "", some reason | none, some reason => reason
  | some message, _ => message

def storeFailedAIJob (job : FailedJob) (error : Option JobError) (table : FailureTable) :
    Except JobError Bool × FailureTable :=
  let dlqEntry : FailureData :=
    { queueName := config.queueName
      jobName := job.name
      jobId := job.id.filter (· ≠ "")
      ticketId := job.data.ticketId
      commentId := job.data.commentId
      attemptsMade := job.attemptsMade
      retryLimit := job.attempts.getD config.retryLimit
      retryable := true
      failureReason := Json.units (failureReasonOf job error)
      stacktrace := ((error.bind JobError.stack).filter (· ≠ "")).map Json.units
      payload := job.data }
  match createAIProcessingFailure uuid delegates dlqEntry config.dlqMaxEntries table with
  | (.error error, table) => (.error error, table)
  | (.ok _, table) => (.ok true, table)

/-- `persistFailure` of the workers of the other queues, which swallow its failures. -/
def persistFailure (queueName : String) (job : FailedJob) (error : Option JobError)
    (table : FailureTable) : FailureTable :=
  (create uuid delegates "aIProcessingFailure"
    { queueName
      jobName := job.name
      jobId := job.id
      attemptsMade := job.attemptsMade
      retryLimit := job.attempts.getD 3
      retryable := false
      failureReason :=
        (error.map fun error => (Json.units error.message).take 1000).getD (Json.units "unknown")
      stacktrace := (error.bind JobError.stack).map fun stack => (Json.units stack).take 3000
      payload := job.data } table).2

def notificationQueue : String := "notification-delivery"

def scraperQueue : String := "scraper-jobs"

/-- A job of one of the workers fails, at this time. -/
inductive Failure where
  | ai (job : FailedJob) (error : Option JobError) (now : Nat)
  | notification (job : FailedJob) (error : Option JobError) (now : Nat)
  | scraper (job : FailedJob) (error : Option JobError) (now : Nat)

def Failure.onFailed (table : FailureTable) : Failure → FailureTable
  | .ai job error now =>
    if job.attempts.getD 0 ≤ job.attemptsMade then
      (storeFailedAIJob uuid delegates config job error { table with now }).2
    else table
  | .notification job error now =>
    if job.attempts.getD 3 ≤ job.attemptsMade then
      persistFailure uuid delegates notificationQueue job error { table with now }
    else table
  | .scraper job error now =>
    if job.attempts.getD 3 ≤ job.attemptsMade then
      persistFailure uuid delegates scraperQueue job error { table with now }
    else table

def runFailures (failures : List Failure) (table : FailureTable) : FailureTable :=
  failures.foldl (Failure.onFailed uuid delegates config) table

end Failures

/-- What is to be kept when a job of the automation has failed for good. -/
structure Kept (config : DeadLetterConfig) (job : FailedJob) (before after : FailureTable) :
    Prop where
  stored : ∃ row ∈ after.rows, row ∉ before.rows ∧ row.queueName = config.queueName ∧
    row.jobName = job.name ∧ row.jobId = job.id
  bounded : 0 < config.dlqMaxEntries →
    (after.rows.countP fun row => row.queueName = config.queueName) ≤ config.dlqMaxEntries.toNat
  newest : ∀ gone ∈ before.rows, gone.queueName = config.queueName → gone ∉ after.rows →
    ∀ row ∈ after.rows, row.queueName = config.queueName → gone.failedAt ≤ row.failedAt
  others : ∀ row ∈ before.rows, row.queueName ≠ config.queueName → row ∈ after.rows

section Kept

variable (uuid : Nat → String) (config : DeadLetterConfig)

theorem create_unknown {delegates : Delegates} {delegate : String} (unknown : delegate ∉ delegates)
    (data : FailureData) (table : FailureTable) :
    create uuid delegates delegate data table = (.error (undefinedRead "create"), table) :=
  if_neg unknown

theorem storeFailedAIJob_fails (job : FailedJob) (error : Option JobError) (table : FailureTable) :
    storeFailedAIJob uuid prismaDelegates config job error table =
      (.error (undefinedRead "create"), table) := by
  -- The automation asks the client for a delegate that it does not have.
  have unknown : "aiProcessingFailure" ∉ prismaDelegates := by decide
  simp only [storeFailedAIJob, createAIProcessingFailure, create_unknown uuid unknown]

/-- Whatever has failed before, and however many rows are to be kept, no job of the automation that
has failed for good is kept. -/
theorem exhausted_job_not_kept (failures : List Failure) (table : FailureTable) (job : FailedJob)
    (error : Option JobError) (now : Nat) :
    ¬Kept config job (runFailures uuid prismaDelegates config failures table)
      (Failure.onFailed uuid prismaDelegates config
        (runFailures uuid prismaDelegates config failures table) (.ai job error now)) := by
  intro kept
  obtain ⟨row, member, unknown, -⟩ := kept.stored
  unfold Failure.onFailed at member
  simp only [storeFailedAIJob_fails] at member
  split_ifs at member
  · exact unknown member
  · exact unknown member

def exhaustedJob : FailedJob where
  name := "process-ticket-comment"
  id := some "7:12"
  data := { ticketId := some 7, commentId := some 12 }
  attemptsMade := 3
  attempts := some 3

theorem first_failure_lost :
    ¬∀ (uuid : Nat → String) (failures : List Failure) (job : FailedJob) (error : JobError),
      job.attempts.getD 0 ≤ job.attemptsMade →
        Kept {} job (runFailures uuid prismaDelegates {} failures {})
          (storeFailedAIJob uuid prismaDelegates {} job (some error)
            (runFailures uuid prismaDelegates {} failures {})).2 := by
  intro keeps
  obtain ⟨row, member, -⟩ :=
    (keeps toString [] exhaustedJob ⟨"Request timed out.", none⟩ (by decide)).stored
  cases member

end Kept

end HelpForge.Automation
