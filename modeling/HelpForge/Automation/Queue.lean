import HelpForge.Automation.Assignees
import HelpForge.Tickets.Calls

set_option autoImplicit false

namespace HelpForge.Automation

open Lib.Program (bind_ok pure_ok run_bind run_reads)

open Lib Tickets

inductive PayloadValue where
  | id (value : Nat)
  | text (value : String)
  | metadata (value : EventMetadata)
  deriving DecidableEq, Repr

structure Payload where
  ticketId : Nat
  fields : List (String × PayloadValue)
  deriving DecidableEq, Repr

def Payload.commentId (payload : Payload) : Option Nat :=
  -- Nothing if there is no such field, or it is no id.
  match payload.fields.lookup "commentId" with
  | some (.id commentId) => some commentId
  | _ => none

def payloadOf (event : TicketEvent) : Payload where
  ticketId := event.ticketId
  fields :=
    [("organizationId", .id event.organizationId), ("actorId", .id event.actorId),
      ("metadata", .metadata event.metadata)]

def withRequestId (requestId : Option String) (payload : Payload) : Payload :=
  match requestId with
  | some requestId =>
    { payload with fields := payload.fields ++ [("requestId", .text requestId)] }
  | none => payload

def interpolated : Option Nat → String
  -- An id in a template string.
  | some value => toString value
  | none => "undefined"

structure AutomationJob where
  name : String := "process-ticket-comment"
  data : Payload
  id : String
  deriving DecidableEq, Repr

structure QueueWorld extends AutomationWorld where
  -- Whether there is a connection to Redis for the queue.
  queueConnection : Bool := true
  -- Whether the queue fails to add a job.
  refuses : AutomationJob → Bool := fun _ => false
  -- The jobs that the queue has been offered, the latest last.
  offered : List AutomationJob := []

abbrev QueueCall (α : Type) := Program QueueWorld ServiceError α

section Service

variable (setup : Setup) (requestId : Option String)

def enqueueAICommentProcessing (payload : Payload) : QueueCall (Option String) := do
  let connected ← Program.reads fun state : QueueWorld => state.queueConnection
  if !connected then return none
  let job : AutomationJob :=
    { data := withRequestId requestId payload
      id := toString payload.ticketId ++ ":" ++ interpolated payload.commentId }
  Program.modify fun state => { state with offered := state.offered ++ [job] }
  let refused ← Program.reads fun state => state.refuses job
  Program.require (!refused) (.unavailable "queue")
  return some job.id

def commentPayload (payload : Payload) : CommentPayload :=
  { ticketId := payload.ticketId, commentId := payload.commentId }

def handleTicketCommentAdded (payload : Payload) : QueueCall Unit :=
  -- A failure is logged.
  Program.recover
    (do
      let jobId ← enqueueAICommentProcessing requestId payload
      match jobId with
      | some _ => pure ()
      | none =>
        (handleCommentAdded setup (commentPayload payload)).zoom QueueWorld.toAutomationWorld
          fun world state => { state with toAutomationWorld := world })
    fun _ => pure ()

def processAICommentJob (job : AutomationJob) : AutomationCall Unit :=
  handleCommentAdded setup (commentPayload job.data)

def automateEvents : List TicketEvent → QueueCall Unit
  -- The events reach the handler, which listens to comments.
  | [] => pure ()
  | event :: rest => do
    if event.name = .commentAdded then
      handleTicketCommentAdded setup requestId (payloadOf event)
    automateEvents rest

def offers (state : QueueWorld) (ticketId : Nat) (commentData : CommentData) (userId : Nat) :
    List AutomationJob :=
  -- The jobs that the queue is offered for the events of a new comment.
  let world := ((createTicketCommentService ticketId commentData userId).run state.toWorld).2
  let automated := (automateEvents setup requestId (world.events.drop state.events.length)).run
    { state with toWorld := world }
  automated.2.offered.drop state.offered.length

end Service

def Reaches (jobs : List AutomationJob) (commentId : Nat) : Prop :=
  -- One job is offered, and it carries the comment's id.
  ∃ job, jobs = [job] ∧ job.data.commentId = some commentId

theorem commentId_withRequestId (requestId : Option String) (payload : Payload) :
    (withRequestId requestId payload).commentId = payload.commentId := by
  unfold withRequestId
  cases requestId with
  | none => rfl
  | some requestId =>
    have other : [("requestId", PayloadValue.text requestId)].lookup "commentId" = none := by
      simp [List.lookup_cons]
    simp [Payload.commentId, List.lookup_append, other]

theorem createTicketCommentService_event {ticketId userId : Nat} {commentData : CommentData}
    {before after : World} {comment : OnTicket AuthoredComment}
    (created : (createTicketCommentService ticketId commentData userId).run before =
      (.ok comment, after)) :
    ∃ event, after.events = before.events ++ [event] ∧ event.name = .commentAdded ∧
      event.ticketId = ticketId := by
  -- The event of a comment names its ticket.
  unfold createTicketCommentService at created
  obtain ⟨⟨found, membership⟩, looked, admits, rest⟩ := (bind_ok ..).mp created
  obtain ⟨ticket, admitted, rfl, rfl⟩ := admitted_ok _ _ _ _ _ _ admits
  obtain ⟨-, rest⟩ := (Program.require_bind_ok ..).mp rest
  obtain ⟨stored, written, storing, rest⟩ := (bind_ok ..).mp rest
  have wrote := (Program.attempt_ok ..).mp storing
  dsimp only at wrote
  split_ifs at wrote with known
  have events : written.events = before.events := by
    cases wrote
    simp [World.withDb]
  have rest := (Program.modify_bind_ok ..).mp rest
  have own := findTicket_id _ _ _ admitted.found
  rw [← events]
  split_ifs at rest
  · obtain ⟨-, rfl⟩ := (pure_ok ..).mp rest
    exact ⟨_, rfl, rfl, own⟩
  · obtain ⟨-, rfl⟩ := (pure_ok ..).mp rest
    exact ⟨_, rfl, rfl, own⟩

theorem commentId_payloadOf (event : TicketEvent) : (payloadOf event).commentId = none := by
  simp [Payload.commentId, payloadOf, List.lookup_cons]

theorem handleTicketCommentAdded_offers (setup : Setup) (requestId : Option String)
    (payload : Payload) (state : QueueWorld) (connected : state.queueConnection = true) :
    ((handleTicketCommentAdded setup requestId payload).run state).2.offered =
      state.offered ++
        [{ data := withRequestId requestId payload
           id := toString payload.ticketId ++ ":" ++ interpolated payload.commentId }] := by
  unfold handleTicketCommentAdded enqueueAICommentProcessing
  rw [Program.run_recover, run_bind, run_bind, run_reads]
  simp only [connected, Bool.not_true, Bool.false_eq_true, if_false]
  rw [run_bind, Program.run_modify]
  dsimp only
  rw [run_bind, run_reads]
  dsimp only
  rw [run_bind, Program.run_require]
  split_ifs <;> rfl

/-- No comment gets through: for each one job is offered that does not carry its id, under the same
id for all comments of a ticket, and the automation makes nothing of it. -/
theorem comments_never_reach (setup : Setup) (requestId : Option String) (state : QueueWorld)
    (connected : state.queueConnection = true) (ticketId : Nat) (commentData : CommentData)
    (userId : Nat) (comment : OnTicket AuthoredComment)
    (created : ((createTicketCommentService ticketId commentData userId).run state.toWorld).1 =
      .ok comment) :
    ¬Reaches (offers setup requestId state ticketId commentData userId) comment.row.id ∧
      (offers setup requestId state ticketId commentData userId).map (·.id) =
        [toString ticketId ++ ":undefined"] ∧
      ∀ job ∈ offers setup requestId state ticketId commentData userId,
        ∀ later, (processAICommentJob setup job).run later = (.ok (), later) := by
  obtain ⟨event, events, name, own⟩ := createTicketCommentService_event
    (Prod.ext created rfl :
      (createTicketCommentService ticketId commentData userId).run state.toWorld = (.ok comment, _))
  have offered : offers setup requestId state ticketId commentData userId =
      [{ data := withRequestId requestId (payloadOf event)
         id := toString ticketId ++ ":undefined" }] := by
    unfold offers
    dsimp only
    rw [events, List.drop_left]
    unfold automateEvents automateEvents
    rw [if_pos name, Program.bind_pure, handleTicketCommentAdded_offers, List.drop_left,
      commentId_payloadOf]
    · have text : ":" ++ interpolated none = ":undefined" := rfl
      rw [← own, String.append_assoc, text]
      rfl
    · exact connected
  have unnamed : (withRequestId requestId (payloadOf event)).commentId = none := by
    rw [commentId_withRequestId, commentId_payloadOf]
  rw [offered]
  refine ⟨?_, rfl, ?_⟩
  · rintro ⟨job, only, named⟩
    rw [← (List.singleton_inj.mp only), unnamed] at named
    cases named
  · intro job member later
    rw [List.mem_singleton.mp member]
    simp [processAICommentJob, commentPayload, unnamed, handleCommentAdded]

/-- The desk of a member who has a ticket there. -/
def openDesk : QueueWorld := { toAutomationWorld := helpDesk }

def jammed : CommentData := { message := "It is jammed" }

theorem jammed_never_reaches :
    ∃ comment, ((createTicketCommentService 10 jammed 1).run openDesk.toWorld).1 = .ok comment ∧
      ¬Reaches (offers anySetup none openDesk 10 jammed 1) comment.row.id :=
  ⟨_, rfl, (comments_never_reach anySetup none openDesk rfl 10 jammed 1 _ rfl).1⟩

/-- The comment's id is 11, and no job carries it. -/
theorem jammed_unheard :
    ((createTicketCommentService 10 jammed 1).run openDesk.toWorld).1.toOption.map (·.row.id) =
        some 11 ∧
      ¬Reaches (offers anySetup none openDesk 10 jammed 1) 11 := by
  refine ⟨by decide +kernel, ?_⟩
  rintro ⟨job, only, named⟩
  have silent : ∀ job ∈ offers anySetup none openDesk 10 jammed 1, job.data.commentId = none := by
    decide +kernel
  rw [silent job (only ▸ List.mem_singleton_self job)] at named
  cases named

end HelpForge.Automation
