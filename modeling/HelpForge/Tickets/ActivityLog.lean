import HelpForge.Lib.Keyed
import HelpForge.Tickets.Calls
import HelpForge.Tickets.Handlers

set_option autoImplicit false

namespace HelpForge.Tickets

open Lib
open Program (ends_bind run_bind run_recover)
open Lib.Program (Keeps)

inductive TicketCall where
  | createTicket (ticketData : TicketData)
  | autoAssignTicket (ticketId : Nat)
  | assignTicket (ticketId assignedToId : Nat)
  | getTickets (query : TicketQuery)
  | getMyAgentTickets (query : TicketQuery)
  | getTicketById (ticketId : Nat)
  | updateTicket (ticketId : Nat) (ticketData : TicketUpdates)
  | updateTicketStatus (ticketId : Nat) (status : TicketStatus)
  | createTicketComment (ticketId : Nat) (commentData : CommentData)
  | getTicketComments (ticketId : Nat)
  | getTicketActivities (ticketId : Nat)
  | deleteTicketComment (ticketId commentId : Nat)
  | createTicketAttachment (ticketId : Nat) (attachmentData : AttachmentData)
  | getTicketAttachments (ticketId : Nat)
  | deleteTicketAttachment (ticketId attachmentId : Nat)
  | createTag (organizationId : Nat) (name : String)
  | getTags (organizationId : Nat)
  | addTicketTag (ticketId tagId : Nat)
  | deleteTicketTag (ticketId tagId : Nat)
  deriving DecidableEq

def TicketCall.service (locale : Locale) (userId : Nat) : TicketCall → Call Unit
  -- The service of the call, without its answer.
  | createTicket ticketData => createTicketService locale ticketData userId >>= fun _ => pure ()
  | autoAssignTicket ticketId => autoAssignTicketService locale ticketId userId >>= fun _ => pure ()
  | assignTicket ticketId assignedToId =>
    assignTicketService ticketId assignedToId userId >>= fun _ => pure ()
  | getTickets query => getTicketsService query userId >>= fun _ => pure ()
  | getMyAgentTickets query => getMyAgentTicketsService query userId >>= fun _ => pure ()
  | getTicketById ticketId => getTicketByIdService ticketId userId >>= fun _ => pure ()
  | updateTicket ticketId ticketData =>
    updateTicketService ticketId ticketData userId >>= fun _ => pure ()
  | updateTicketStatus ticketId status =>
    updateTicketStatusService ticketId status userId >>= fun _ => pure ()
  | createTicketComment ticketId commentData =>
    createTicketCommentService ticketId commentData userId >>= fun _ => pure ()
  | getTicketComments ticketId => getTicketCommentsService ticketId userId >>= fun _ => pure ()
  | getTicketActivities ticketId => getTicketActivitiesService ticketId userId >>= fun _ => pure ()
  | deleteTicketComment ticketId commentId =>
    deleteTicketCommentService ticketId commentId userId >>= fun _ => pure ()
  | createTicketAttachment ticketId attachmentData =>
    createTicketAttachmentService ticketId attachmentData userId >>= fun _ => pure ()
  | getTicketAttachments ticketId => getTicketAttachmentsService ticketId userId >>= fun _ => pure ()
  | deleteTicketAttachment ticketId attachmentId =>
    deleteTicketAttachmentService ticketId attachmentId userId >>= fun _ => pure ()
  | createTag organizationId name => createTagService organizationId name userId >>= fun _ => pure ()
  | getTags organizationId => getTagsService organizationId userId >>= fun _ => pure ()
  | addTicketTag ticketId tagId => addTicketTagService ticketId tagId userId >>= fun _ => pure ()
  | deleteTicketTag ticketId tagId =>
    deleteTicketTagService ticketId tagId userId >>= fun _ => pure ()

abbrev Entry := (Nat × TicketActivityAction) × Option String

def logged (activity : TicketActivityLog) : Entry :=
  ((activity.ticketId, activity.action), activity.newValue)

def tracked (key : Nat × TicketActivityAction) : Bool :=
  key.2 == .ticketStatusUpdated || key.2 == .ticketAssigned

section Journal

variable (showId : Nat → String)

def emitted (event : TicketEvent) : Entry :=
  let data := activityData showId event
  ((event.ticketId, data.action), data.newValue)

/-- The entries say of the ticket, which was created for `given`, what its status and its
assignee are. -/
structure Told (given : Option Nat) (ticket : Ticket) (entries : List Entry) : Prop where
  status : (latest (ticket.id, .ticketStatusUpdated) entries).getD (some (statusName .open)) =
    some (statusName ticket.status)
  assignee : (latest (ticket.id, .ticketAssigned) entries).getD (given.map showId) =
    ticket.assignedToId.map showId

def Replays (given : Nat → Option Nat) (db : Database) : Prop :=
  ∀ ticket ∈ db.tickets, Told showId (given ticket.id) ticket (db.ticketActivityLogs.map logged)

def journal (world : World) (pending : List TicketEvent) : List Entry :=
  -- What the log says of statuses and assignees, and what it will say once the events are handled.
  (world.db.ticketActivityLogs.map logged ++ pending.map (emitted showId)).filter fun entry =>
    tracked entry.1

/-- As `Replays`, with the events that are still to be handled; their handlers will succeed. -/
structure Ledger (given : Nat → Option Nat) (world : World) (pending : List TicketEvent) : Prop where
  told : ∀ ticket ∈ world.db.tickets,
    Told showId (given ticket.id) ticket (journal showId world pending)
  tickets : ∀ ticket ∈ world.db.tickets, ticket.id < world.db.nextId
  entries : ∀ entry ∈ journal showId world pending, entry.1.1 < world.db.nextId
  users : ∀ membership ∈ world.db.memberships, (world.db.findUser membership.userId).isSome
  copies : ∀ organizationId userId copy,
    world.membershipCache organizationId userId = some copy → (world.db.findUser userId).isSome
  pending : ∀ event ∈ pending, tracked (emitted showId event).1 = true →
    (world.db.findTicket event.ticketId).isSome ∧ (world.db.findUser event.actorId).isSome

end Journal

section Told

variable {showId : Nat → String} {given : Option Nat} {ticket : Ticket} {entries added : List Entry}

section Told

variable (told : Told showId given ticket entries)

include told

theorem Told.append (others : ∀ entry ∈ added, entry.1.1 ≠ ticket.id) :
    Told showId given ticket (entries ++ added) := by
  have apart (action : TicketActivityAction) :
      latest (ticket.id, action) (entries ++ added) = latest (ticket.id, action) entries :=
    latest_append_of_ne _ _ _ fun entry member same => others entry member (by rw [same])
  exact ⟨by rw [apart]; exact told.status, by rw [apart]; exact told.assignee⟩

theorem Told.assigned (new : Ticket) (userId : Nat) (same : new.id = ticket.id)
    (status : new.status = ticket.status) (assignee : new.assignedToId = some userId) :
    Told showId given new
      (entries ++ [((ticket.id, .ticketAssigned), some (showId userId))]) := by
  refine ⟨?_, ?_⟩
  · rw [same, status, latest_append_of_ne _ _ _ (by simp)]
    exact told.status
  · rw [same, assignee, latest_append_self]
    rfl

theorem Told.statusChanged (new : Ticket) (same : new.id = ticket.id)
    (assignee : new.assignedToId = ticket.assignedToId) :
    Told showId given new
      (entries ++ [((ticket.id, .ticketStatusUpdated), some (statusName new.status))]) := by
  refine ⟨?_, ?_⟩
  · rw [same, latest_append_self]
    rfl
  · rw [same, assignee, latest_append_of_ne _ _ _ (by simp)]
    exact told.assignee

end Told

theorem told_filter :
    Told showId given ticket (entries.filter fun entry => tracked entry.1) ↔
      Told showId given ticket entries := by
  constructor
  · rintro ⟨status, assignee⟩
    rw [latest_filter _ tracked rfl] at status assignee
    exact ⟨status, assignee⟩
  · rintro ⟨status, assignee⟩
    exact ⟨by rw [latest_filter _ tracked rfl]; exact status,
      by rw [latest_filter _ tracked rfl]; exact assignee⟩

end Told

/-- What the tickets and the log are not part of. -/
structure Carried (world reached : World) : Prop where
  users : reached.db.users = world.db.users
  memberships : reached.db.memberships = world.db.memberships
  nextId : world.db.nextId ≤ reached.db.nextId
  copies : ∀ organizationId userId copy,
    reached.membershipCache organizationId userId = some copy →
      world.membershipCache organizationId userId = some copy ∨
        ∃ membership ∈ world.db.memberships, membership.userId = userId

theorem Carried.refl (world : World) : Carried world world :=
  ⟨rfl, rfl, Nat.le_refl _, fun _ _ _ there => .inl there⟩

theorem Carried.trans {first second third : World} (one : Carried first second)
    (other : Carried second third) : Carried first third := by
  refine ⟨other.users.trans one.users, other.memberships.trans one.memberships,
    one.nextId.trans other.nextId, ?_⟩
  intro organizationId userId copy there
  rcases other.copies organizationId userId copy there with before | new
  · exact one.copies organizationId userId copy before
  · exact .inr (one.memberships ▸ new)

section Ledger

variable {showId : Nat → String} {given given' : Nat → Option Nat} {world reached : World}
  {pending pending' : List TicketEvent} {added : List Entry}

theorem Carried.findUser (carried : Carried world reached) (userId : Nat) :
    reached.db.findUser userId = world.db.findUser userId := by
  simp [Database.findUser, carried.users]

theorem Ledger.step (ledger : Ledger showId given world pending) (carried : Carried world reached)
    (grown : journal showId reached pending' = journal showId world pending ++ added)
    (ids : ∀ entry ∈ added, entry.1.1 < reached.db.nextId)
    (tickets : ∀ ticket ∈ reached.db.tickets, ticket.id < reached.db.nextId ∧
      Told showId (given' ticket.id) ticket (journal showId world pending ++ added))
    (later : ∀ event ∈ pending', tracked (emitted showId event).1 = true →
      (reached.db.findTicket event.ticketId).isSome ∧ (world.db.findUser event.actorId).isSome) :
    Ledger showId given' reached pending' := by
  refine ⟨?_, fun ticket member => (tickets ticket member).1, ?_, ?_, ?_, ?_⟩
  · intro ticket member
    rw [grown]
    exact (tickets ticket member).2
  · intro entry member
    rw [grown] at member
    rcases List.mem_append.mp member with before | after
    · exact (ledger.entries entry before).trans_le carried.nextId
    · exact ids entry after
  · intro membership member
    rw [carried.findUser]
    exact ledger.users membership (carried.memberships ▸ member)
  · intro organizationId userId copy there
    rw [carried.findUser]
    rcases carried.copies organizationId userId copy there with before | ⟨membership, member, rfl⟩
    · exact ledger.copies organizationId userId copy before
    · exact ledger.users membership member
  · intro event member hit
    rw [carried.findUser]
    exact later event member hit

theorem Ledger.silent (ledger : Ledger showId given world pending) (carried : Carried world reached)
    (same : journal showId reached pending' = journal showId world pending)
    (tickets : reached.db.tickets = world.db.tickets)
    (later : ∀ event ∈ pending', tracked (emitted showId event).1 = true → event ∈ pending) :
    Ledger showId given reached pending' := by
  have grown : journal showId reached pending' = journal showId world pending ++ [] := by
    rw [same, List.append_nil]
  refine ledger.step carried grown (by simp) ?_ ?_
  · intro ticket member
    rw [tickets] at member
    rw [List.append_nil]
    exact ⟨(ledger.tickets ticket member).trans_le carried.nextId, ledger.told ticket member⟩
  · intro event member hit
    rw [Database.findTicket, tickets]
    exact ledger.pending event (later event member hit) hit

end Ledger

structure Plain (world reached : World) : Prop extends Carried world reached where
  tickets : reached.db.tickets = world.db.tickets
  logs : reached.db.ticketActivityLogs = world.db.ticketActivityLogs
  events : ∃ later, reached.events = world.events ++ later ∧
    ∀ event ∈ later, event.name ≠ .assigned ∧ event.name ≠ .statusChanged

theorem Plain.refl (world : World) : Plain world world :=
  ⟨Carried.refl world, rfl, rfl, [], by simp, by simp⟩

theorem Plain.trans {first second third : World} (one : Plain first second)
    (other : Plain second third) : Plain first third := by
  obtain ⟨later, events, plain⟩ := one.events
  obtain ⟨later', events', plain'⟩ := other.events
  refine ⟨one.toCarried.trans other.toCarried, other.tickets.trans one.tickets,
    other.logs.trans one.logs, later ++ later', by rw [events', events, List.append_assoc], ?_⟩
  intro event member
  rcases List.mem_append.mp member with before | after
  · exact plain event before
  · exact plain' event after

theorem tracked_of_plain (showId : Nat → String) (event : TicketEvent)
    (plain : event.name ≠ .assigned ∧ event.name ≠ .statusChanged) :
    tracked (emitted showId event).1 = false := by
  unfold tracked emitted activityData
  cases name : event.name <;> simp_all

theorem journal_plain (showId : Nat → String) (world : World) (pending later : List TicketEvent)
    (plain : ∀ event ∈ later, event.name ≠ .assigned ∧ event.name ≠ .statusChanged) :
    journal showId world (pending ++ later) = journal showId world pending := by
  have none : (later.map (emitted showId)).filter (fun entry => tracked entry.1) = [] := by
    rw [List.filter_eq_nil_iff]
    intro entry member
    obtain ⟨event, among, rfl⟩ := List.mem_map.mp member
    simp [tracked_of_plain showId event (plain event among)]
  simp [journal, none]

theorem Ledger.plain {showId : Nat → String} {given : Nat → Option Nat} {world reached : World}
    (ledger : Ledger showId given world world.events) (plain : Plain world reached) :
    Ledger showId given reached reached.events := by
  obtain ⟨later, events, others⟩ := plain.events
  have same : journal showId reached reached.events = journal showId world world.events := by
    rw [events, ← journal_plain showId world world.events later others, journal, plain.logs]
    rfl
  refine ledger.silent plain.toCarried same plain.tickets fun event member hit => ?_
  rw [events] at member
  rcases List.mem_append.mp member with before | after
  · exact before
  · rw [tracked_of_plain showId event (others event after)] at hit
    cases hit

variable {α : Type} {body : World → Except ServiceError (α × World)} {program : Call α}

section Services

variable {start : World}

theorem keeps_plain (leaves : ∀ world, Plain world (program.run world).2) :
    Keeps (Plain start) program :=
  fun world before => before.trans (leaves world)

theorem getTicketOrganizationMembership_plain (organizationId userId : Nat) :
    Keeps (Plain start) (Org.getTicketOrganizationMembership organizationId userId) := by
  refine keeps_plain fun world => ?_
  rw [run_getTicketOrganizationMembership]
  refine ⟨⟨by simp, by simp, by simp, ?_⟩, by simp, by simp, [], by simp, by simp⟩
  intro organization user copy there
  unfold afterLooking at there
  split at there
  · exact .inl there
  · split at there
    · rename_i membership found
      obtain ⟨row, stored, view⟩ := Option.bind_eq_some_iff.mp found
      obtain ⟨member, owner, -⟩ := Database.findMembership_mem _ _ _ _ stored
      obtain ⟨-, same⟩ := Database.shows_of_withRole _ _ _ member view
      unfold World.putMembership at there
      dsimp only at there
      split_ifs at there with key
      · refine .inr ⟨row, member, ?_⟩
        rw [key.2, ← same]
      · exact .inl there
    · exact .inl there

theorem memberOf_plain (organizationId userId : Nat) (message : String) :
    Keeps (Plain start) (memberOf organizationId userId message) :=
  (getTicketOrganizationMembership_plain organizationId userId).bind fun _ => Keeps.orFail _ _

variable (ticketId : Nat)

theorem existingTicket_plain : Keeps (Plain start) (existingTicket ticketId) :=
  (Keeps.reads _).bind fun _ => Keeps.orFail _ _

theorem admitted_plain (userId : Nat) (message : String) (allowed : OrgRole → Ticket → Bool) :
    Keeps (Plain start) (admitted ticketId userId message allowed) := by
  refine (existingTicket_plain ticketId).bind fun ticket => ?_
  refine (memberOf_plain _ _ _).bind fun membership => ?_
  exact (Keeps.require _ _).bind fun _ => Keeps.pure _

variable (organizationId : Nat)

theorem validateTicketAssignee_plain (assignedToId : Option Nat) :
    Keeps (Plain start) (validateTicketAssignee organizationId assignedToId) := by
  cases assignedToId with
  | none => exact Keeps.pure _
  | some assignedToId =>
    exact (getTicketOrganizationMembership_plain _ _).bind fun _ => Keeps.require _ _

theorem emitTicketEvent_plain (event : TicketEvent)
    (other : event.name ≠ .assigned ∧ event.name ≠ .statusChanged) :
    Keeps (Plain start) (emitTicketEvent event) := by
  refine keeps_plain fun world => ⟨⟨rfl, rfl, Nat.le_refl _, fun _ _ _ there => .inl there⟩,
    rfl, rfl, [event], rfl, ?_⟩
  intro later member
  rw [List.mem_singleton.mp member]
  exact other

theorem attempt_plain
    (aside : ∀ world value reached, body world = .ok (value, reached) →
      ∃ change : Database → Database, reached = world.withDb change ∧
        (change world.db).tickets = world.db.tickets ∧
        (change world.db).ticketActivityLogs = world.db.ticketActivityLogs ∧
        (change world.db).users = world.db.users ∧
        (change world.db).memberships = world.db.memberships ∧
        world.db.nextId ≤ (change world.db).nextId) :
    Keeps (Plain start) (Program.attempt body) := by
  -- A statement on other tables.
  refine Keeps.attempt fun world value reached before outcome => ?_
  obtain ⟨change, rfl, tickets, logs, users, memberships, nextId⟩ := aside world value reached outcome
  exact before.trans ⟨⟨users, memberships, nextId, fun _ _ _ there => .inl there⟩, tickets, logs,
    [], by simp, by simp⟩

theorem createTicketComment_plain (authorId : Nat) (data : CommentData) :
    Keeps (Plain start) (createTicketComment ticketId authorId data) := by
  refine attempt_plain fun world value reached outcome => ?_
  dsimp only at outcome
  split_ifs at outcome
  cases outcome
  exact ⟨_, rfl, rfl, rfl, rfl, rfl, Nat.le_succ _⟩

theorem deleteTicketComment_plain (commentId : Nat) :
    Keeps (Plain start) (deleteTicketComment commentId) := by
  refine attempt_plain fun world value reached outcome => ?_
  split at outcome <;> cases outcome
  exact ⟨_, rfl, rfl, rfl, rfl, rfl, Nat.le_refl _⟩

theorem createTicketAttachment_plain (uploadedBy : Nat) (data : AttachmentData) :
    Keeps (Plain start) (createTicketAttachment ticketId uploadedBy data) := by
  refine attempt_plain fun world value reached outcome => ?_
  dsimp only at outcome
  split_ifs at outcome
  cases outcome
  exact ⟨_, rfl, rfl, rfl, rfl, rfl, Nat.le_succ _⟩

theorem deleteTicketAttachment_plain (attachmentId : Nat) :
    Keeps (Plain start) (deleteTicketAttachment attachmentId) := by
  refine attempt_plain fun world value reached outcome => ?_
  split at outcome <;> cases outcome
  exact ⟨_, rfl, rfl, rfl, rfl, rfl, Nat.le_refl _⟩

theorem createTag_plain (name : String) : Keeps (Plain start) (createTag organizationId name) := by
  refine attempt_plain fun world value reached outcome => ?_
  dsimp only at outcome
  split_ifs at outcome
  cases outcome
  exact ⟨_, rfl, rfl, rfl, rfl, rfl, Nat.le_succ _⟩

theorem addTagToTicket_plain (tagId : Nat) :
    Keeps (Plain start) (addTagToTicket ticketId tagId) := by
  refine attempt_plain fun world value reached outcome => ?_
  split_ifs at outcome
  cases outcome
  exact ⟨_, rfl, rfl, rfl, rfl, rfl, Nat.le_refl _⟩

theorem deleteTicketTag_plain (tagId : Nat) :
    Keeps (Plain start) (deleteTicketTag ticketId tagId) := by
  refine attempt_plain fun world value reached outcome => ?_
  split_ifs at outcome
  cases outcome
  exact ⟨_, rfl, rfl, rfl, rfl, rfl, Nat.le_refl _⟩

/-! The services, by the statements that they consist of. -/

theorem parseDateFilter_plain (value : Option (Read Nat)) (fieldName : String) :
    Keeps (Plain start) (parseDateFilter value fieldName) := by
  rcases value with _ | _ | time
  · exact Keeps.pure _
  · exact Keeps.fail _
  · exact Keeps.pure _

variable (query : TicketQuery)

theorem validateListFilters_plain (requireOrganizationId : Bool) :
    Keeps (Plain start) (validateListFilters query requireOrganizationId) := by
  refine (Keeps.require _ _).bind fun _ => ?_
  refine (Keeps.require _ _).bind fun _ => ?_
  refine (Keeps.require _ _).bind fun _ => ?_
  refine (Keeps.require _ _).bind fun _ => ?_
  refine (parseDateFilter_plain _ _).bind fun _ => ?_
  exact (parseDateFilter_plain _ _).bind fun _ => Keeps.require _ _

variable (userId : Nat)

theorem buildCommonTicketFilters_plain :
    Keeps (Plain start) (buildCommonTicketFilters query userId) := by
  refine (parseDateFilter_plain _ _).bind fun _ => ?_
  exact (parseDateFilter_plain _ _).bind fun _ => Keeps.pure _

theorem getTicketsService_plain : Keeps (Plain start) (getTicketsService query userId) := by
  refine (validateListFilters_plain _ _).bind fun _ => ?_
  refine (Keeps.orFail _ _).bind fun organizationId => ?_
  refine (memberOf_plain _ _ _).bind fun membership => ?_
  exact (buildCommonTicketFilters_plain _ _).bind fun _ => Keeps.reads _

theorem getMyAgentTicketsService_plain :
    Keeps (Plain start) (getMyAgentTicketsService query userId) := by
  refine (validateListFilters_plain _ _).bind fun _ => ?_
  refine (Keeps.reads _).bind fun memberships => ?_
  refine (Keeps.require _ _).bind fun _ => ?_
  refine (Keeps.require _ _).bind fun _ => ?_
  exact (buildCommonTicketFilters_plain _ _).bind fun _ => Keeps.reads _

theorem getTicketByIdService_plain : Keeps (Plain start) (getTicketByIdService ticketId userId) :=
  (admitted_plain _ _ _ _).bind fun _ => Keeps.pure _

theorem createTicketCommentService_plain (commentData : CommentData) (userId : Nat) :
    Keeps (Plain start) (createTicketCommentService ticketId commentData userId) := by
  refine (admitted_plain _ _ _ _).bind fun ⟨ticket, membership⟩ => ?_
  refine (Keeps.require _ _).bind fun _ => ?_
  refine (createTicketComment_plain _ _ _).bind fun comment => ?_
  refine (emitTicketEvent_plain _ ⟨by simp, by simp⟩).bind fun _ => ?_
  split <;> exact Keeps.pure _

theorem getTicketCommentsService_plain :
    Keeps (Plain start) (getTicketCommentsService ticketId userId) :=
  (admitted_plain _ _ _ _).bind fun _ => (Keeps.reads _).bind fun _ => Keeps.pure _

theorem getTicketActivitiesService_plain :
    Keeps (Plain start) (getTicketActivitiesService ticketId userId) :=
  (admitted_plain _ _ _ _).bind fun _ => Keeps.reads _

theorem deleteTicketCommentService_plain (commentId userId : Nat) :
    Keeps (Plain start) (deleteTicketCommentService ticketId commentId userId) := by
  refine (existingTicket_plain _).bind fun ticket => ?_
  refine (Keeps.reads _).bind fun comment => ?_
  refine (Keeps.orFail _ _).bind fun comment => ?_
  refine (memberOf_plain _ _ _).bind fun membership => ?_
  refine (Keeps.require _ _).bind fun _ => ?_
  refine (deleteTicketComment_plain _).bind fun deleted => ?_
  exact (emitTicketEvent_plain _ ⟨by simp, by simp⟩).bind fun _ => Keeps.pure _

theorem createTicketAttachmentService_plain (attachmentData : AttachmentData) (userId : Nat) :
    Keeps (Plain start) (createTicketAttachmentService ticketId attachmentData userId) := by
  refine (admitted_plain _ _ _ _).bind fun ⟨ticket, membership⟩ => ?_
  refine (createTicketAttachment_plain _ _ _).bind fun attachment => ?_
  exact (emitTicketEvent_plain _ ⟨by simp, by simp⟩).bind fun _ => Keeps.pure _

theorem getTicketAttachmentsService_plain :
    Keeps (Plain start) (getTicketAttachmentsService ticketId userId) :=
  (admitted_plain _ _ _ _).bind fun _ => Keeps.reads _

theorem deleteTicketAttachmentService_plain (attachmentId userId : Nat) :
    Keeps (Plain start) (deleteTicketAttachmentService ticketId attachmentId userId) := by
  refine (existingTicket_plain _).bind fun ticket => ?_
  refine (Keeps.reads _).bind fun attachment => ?_
  refine (Keeps.orFail _ _).bind fun attachment => ?_
  refine (memberOf_plain _ _ _).bind fun membership => ?_
  refine (Keeps.require _ _).bind fun _ => ?_
  refine (deleteTicketAttachment_plain _).bind fun deleted => ?_
  exact (emitTicketEvent_plain _ ⟨by simp, by simp⟩).bind fun _ => Keeps.pure _

theorem createTagService_plain (organizationId : Nat) (name : String) (userId : Nat) :
    Keeps (Plain start) (createTagService organizationId name userId) := by
  refine (memberOf_plain _ _ _).bind fun membership => ?_
  refine (Keeps.require _ _).bind fun _ => ?_
  refine (Keeps.reads _).bind fun existingTag => ?_
  exact (Keeps.require _ _).bind fun _ => createTag_plain _ _

theorem getTagsService_plain (organizationId userId : Nat) :
    Keeps (Plain start) (getTagsService organizationId userId) :=
  (memberOf_plain _ _ _).bind fun _ => Keeps.reads _

theorem addTicketTagService_plain (tagId userId : Nat) :
    Keeps (Plain start) (addTicketTagService ticketId tagId userId) := by
  refine (admitted_plain _ _ _ _).bind fun ⟨ticket, membership⟩ => ?_
  refine (Keeps.reads _).bind fun tag => ?_
  refine (Keeps.orFail _ _).bind fun _ => ?_
  refine (Keeps.reads _).bind fun existingTicketTag => ?_
  refine (Keeps.require _ _).bind fun _ => ?_
  refine (addTagToTicket_plain _ _).bind fun ticketTag => ?_
  exact (emitTicketEvent_plain _ ⟨by simp, by simp⟩).bind fun _ => Keeps.pure _

theorem deleteTicketTagService_plain (tagId userId : Nat) :
    Keeps (Plain start) (deleteTicketTagService ticketId tagId userId) := by
  refine (admitted_plain _ _ _ _).bind fun ⟨ticket, membership⟩ => ?_
  refine (Keeps.reads _).bind fun ticketTag => ?_
  refine (Keeps.orFail _ _).bind fun _ => ?_
  refine (deleteTicketTag_plain _ _).bind fun deleted => ?_
  exact (emitTicketEvent_plain _ ⟨by simp, by simp⟩).bind fun _ => Keeps.pure _

end Services

def bestAgent (locale : Locale) (world : World) (organizationId : Nat) : Option Nat :=
  -- The agent whom an automatic assignment finds.
  let agents := (byCreatedAt (·.createdAt) (world.db.memberships.filter fun membership =>
    membership.organizationId == organizationId && membership.isAvailable &&
      (world.db.findOrgRole membership.roleId).any (·.name == "AGENT"))).filterMap world.db.withRole
  let workloads := world.db.agentWorkloads.filter fun workload =>
    workload.organizationId == organizationId
  (eligibleAgents locale agents workloads world.now).head?.map fun agent => agent.userId

theorem run_findBestAutoAssignAgent (locale : Locale) (organizationId : Nat) (world : World) :
    (findBestAutoAssignAgent locale organizationId).run world =
      (.ok (bestAgent locale world organizationId), world) := rfl

/-- The call is let through, and changes a status or an assignee by a write that the log does not
tell of: an automatic assignment its status, a generic update either. -/
def Unlogged (locale : Locale) (world : World) (userId : Nat) : TicketCall → Prop
  | .createTicket ticketData =>
    (seenMembership world ticketData.organizationId userId).isSome = true ∧
      ticketData.assignedToId = none ∧
      (bestAgent locale world ticketData.organizationId).isSome = true
  | .autoAssignTicket ticketId =>
    ∃ ticket membership,
      Admits world ticketId userId (fun role _ => canAssignOrganizationTickets role) ticket
        membership ∧
      (bestAgent locale world ticket.organizationId).isSome = true ∧ ticket.status ≠ .inProgress
  | .updateTicket ticketId ticketData =>
    ∃ ticket membership,
      Admits world ticketId userId (fun role _ => canEditAllOrganizationTickets role) ticket
        membership ∧
      (∀ assignedToId ∈ ticketData.assignedToId,
        (seenMembership world ticket.organizationId assignedToId).isSome = true) ∧
      ((ticketData.apply ticket).status ≠ ticket.status ∨
        (ticketData.apply ticket).assignedToId ≠ ticket.assignedToId)
  | _ => False

variable {β : Type} {rest : α → Call β}

section Writes

variable {showId : Nat → String} {given : Nat → Option Nat} {locale : Locale}
  {world reached : World} {userId : Nat}

theorem plain_of_run {result : Except ServiceError α} (keeps : Keeps (Plain world) program)
    (ran : program.run world = (result, reached)) : Plain world reached := by
  have after := keeps world (Plain.refl world)
  rw [Program.wp, ran] at after
  exact after

theorem Ledger.bind {first : Call α} (ledger : Ledger showId given world world.events)
    (keeps : Keeps (Plain world) first)
    (continued : ∀ value reached, first.run world = (.ok value, reached) →
      Ledger showId given reached reached.events →
      let after := ((rest value).run reached).2
      Ledger showId given after after.events) :
    let after := ((first >>= rest).run world).2
    Ledger showId given after after.events :=
  ends_bind (P := fun after => Ledger showId given after after.events) _ _ _
    (fun _ _ ran => ledger.plain (plain_of_run keeps ran)) fun value reached ran =>
      continued value reached ran (ledger.plain (plain_of_run keeps ran))

theorem Ledger.attempt_bind (ledger : Ledger showId given world world.events)
    (continued : ∀ value reached, (Program.attempt body).run world = (.ok value, reached) →
      let after := ((rest value).run reached).2
      Ledger showId given after after.events) :
    let after := ((Program.attempt body >>= rest).run world).2
    Ledger showId given after after.events := by
  refine ends_bind (P := fun after => Ledger showId given after after.events) _ _ _ ?_
    continued
  intro failure reached ran
  rw [Program.attempt_failed _ _ _ _ ran]
  exact ledger

theorem Carried.withDb (change : Database → Database)
    (users : (change world.db).users = world.db.users)
    (memberships : (change world.db).memberships = world.db.memberships)
    (nextId : world.db.nextId ≤ (change world.db).nextId) : Carried world (world.withDb change) :=
  ⟨users, memberships, nextId, fun _ _ _ there => .inl there⟩

variable {pending : List TicketEvent}

theorem Ledger.written {pending' : List TicketEvent} {added : List Entry}
    (ledger : Ledger showId given world pending) (carried : Carried world reached) (ticketId : Nat)
    (old new : Ticket) (found : world.db.findTicket ticketId = some old) (same : new.id = old.id)
    (tickets : reached.db.tickets = changeWhere (·.id == ticketId) (fun _ => new) world.db.tickets)
    (grown : journal showId reached pending' = journal showId world pending ++ added)
    (own : ∀ entry ∈ added, entry.1.1 = ticketId)
    (told : Told showId (given ticketId) new (journal showId world pending ++ added))
    (later : ∀ event ∈ pending', event ∈ pending ∨
      (event.ticketId = ticketId ∧ (world.db.findUser event.actorId).isSome = true)) :
    Ledger showId given reached pending' := by
  -- One ticket is written, and what is added to the journal is about it.
  have oldId := findTicket_id _ _ _ found
  have bound := ledger.tickets old (List.mem_of_find?_eq_some found)
  have stored (other : Nat) (there : (world.db.findTicket other).isSome = true) :
      (reached.db.findTicket other).isSome = true := by
    have kept := findTicket_storeTicket world.db ticketId other new (same.trans oldId)
    have here : reached.db.findTicket other = (storeTicket ticketId new world.db).findTicket other := by
      simp only [Database.findTicket, storeTicket, tickets]
    rw [here, kept, Option.isSome_map]
    exact there
  refine ledger.step carried grown ?_ ?_ ?_
  · intro entry member
    rw [own entry member, ← oldId]
    exact bound.trans_le carried.nextId
  · intro ticket member
    rw [tickets] at member
    rcases mem_changeWhere.mp member with ⟨before, miss⟩ | ⟨_, before, hit, rfl⟩
    · refine ⟨(ledger.tickets ticket before).trans_le carried.nextId, ?_⟩
      refine (ledger.told ticket before).append fun entry there other => ?_
      rw [own entry there] at other
      simp [other] at miss
    · rw [same, oldId]
      refine ⟨?_, told⟩
      rw [← oldId]
      exact bound.trans_le carried.nextId
  · intro event member hit
    rcases later event member with before | ⟨about, actor⟩
    · obtain ⟨there, actor⟩ := ledger.pending event before hit
      exact ⟨stored event.ticketId there, actor⟩
    · refine ⟨stored event.ticketId ?_, actor⟩
      rw [about, found]
      rfl

theorem seenMembership_afterLooking (organizationId userId otherOrganization otherUser : Nat) :
    seenMembership (afterLooking world organizationId userId) otherOrganization otherUser =
      seenMembership world otherOrganization otherUser := by
  unfold afterLooking
  split
  · rfl
  · rename_i missed
    split
    · rename_i membership found
      obtain ⟨row, stored, view⟩ := Option.bind_eq_some_iff.mp found
      obtain ⟨member, owner, place⟩ := Database.findMembership_mem _ _ _ _ stored
      obtain ⟨-, same⟩ := Database.shows_of_withRole _ _ _ member view
      have key : membership.organizationId = organizationId ∧ membership.userId = userId := by
        rw [same]
        exact ⟨place, owner⟩
      unfold seenMembership World.putMembership
      dsimp only
      split_ifs with hit
      · rw [hit.1, hit.2, key.1, key.2, missed, found]
        rfl
      · rfl
    · rfl

theorem actor_found (ledger : Ledger showId given world world.events) (organizationId : Nat)
    (membership : OrganizationMembership)
    (seen : seenMembership world organizationId userId = some membership) :
    (world.db.findUser userId).isSome = true := by
  unfold seenMembership at seen
  rcases Option.or_eq_some_iff.mp seen with cached | ⟨-, found⟩
  · exact ledger.copies organizationId userId membership cached
  · obtain ⟨row, stored, -⟩ := Option.bind_eq_some_iff.mp found
    obtain ⟨member, rfl, -⟩ := Database.findMembership_mem _ _ _ _ stored
    exact ledger.users row member

theorem assertCanUpdateTicket_plain {start : World} (role : OrgRole) (ticket : Ticket)
    (userId : Nat) (updates : TicketUpdates) :
    Keeps (Plain start) (assertCanUpdateTicket role ticket userId updates) := by
  unfold assertCanUpdateTicket
  split
  · exact Keeps.pure _
  · exact (Keeps.require _ _).bind fun _ => Keeps.require _ _

theorem apply_unchanged (ticketId : Nat) (ticketData : TicketUpdates) (ticket : Ticket)
    (membership : OrganizationMembership)
    (admits : Admits world ticketId userId (fun _ _ => true) ticket membership)
    (mayUpdate : canEditAllOrganizationTickets membership.role = true ∨
      ticketData.status = none ∧ ticketData.assignedToId = none)
    (valid : ∀ assignedToId ∈ ticketData.assignedToId,
      (seenMembership world ticket.organizationId assignedToId).isSome = true)
    (aside : ¬ Unlogged locale world userId (.updateTicket ticketId ticketData)) :
    (ticketData.apply ticket).status = ticket.status ∧
      (ticketData.apply ticket).assignedToId = ticket.assignedToId := by
  rcases mayUpdate with edits | ⟨noStatus, noAssignee⟩
  · by_contra changed
    rw [not_and_or] at changed
    exact aside ⟨ticket, membership, ⟨admits.found, admits.seen, edits⟩, valid, changed⟩
  · simp [TicketUpdates.apply, noStatus, noAssignee]

section Nat

variable (ledger : Ledger showId given world world.events) (ticketId : Nat)

include ledger

theorem admitted_ledger (message : String) (allowed : OrgRole → Ticket → Bool)
    (rest : HydratedTicket × OrganizationMembership → Call β)
    (continued : ∀ ticket membership, Admits world ticketId userId allowed ticket membership →
      let looked := afterLooking world ticket.organizationId userId
      Ledger showId given looked looked.events →
      let after := ((rest (hydrated world.db ticket, membership)).run looked).2
      Ledger showId given after after.events) :
    let after := ((admitted ticketId userId message allowed >>= rest).run world).2
    Ledger showId given after after.events := by
  refine ledger.bind (admitted_plain _ _ _ _) ?_
  rintro ⟨found, membership⟩ _ ran looked
  obtain ⟨ticket, admits, rfl, rfl⟩ := admitted_ok _ _ _ _ _ _ ran
  exact continued ticket membership admits looked

theorem updateTicketService_ledger (ticketData : TicketUpdates)
    (aside : ¬ Unlogged locale world userId (.updateTicket ticketId ticketData)) :
    let after := ((updateTicketService ticketId ticketData userId).run world).2
    Ledger showId given after after.events := by
  refine admitted_ledger ledger ticketId _ _ _ fun ticket membership admits looked => ?_
  refine looked.bind (assertCanUpdateTicket_plain _ _ _ _) ?_
  rintro ⟨⟩ _ asserted -
  obtain ⟨mayUpdate, rfl⟩ := assertCanUpdateTicket_ok _ _ _ _ asserted
  refine looked.bind (validateTicketAssignee_plain _ _) ?_
  rintro ⟨⟩ checked validated ready
  obtain ⟨valid, sameDb, -⟩ := validateTicketAssignee_ok _ _ validated
  rw [afterLooking_db] at sameDb
  refine ready.attempt_bind fun written reached update => ?_
  obtain ⟨old, isOld, -, reaches, -⟩ := writeTicket_ok _ _ _ _ update
  have same : old = ticket := by
    rw [sameDb, admits.found] at isOld
    exact (Option.some.inj isOld).symm
  subst same
  obtain ⟨status, assignee⟩ := apply_unchanged ticketId ticketData old membership admits mayUpdate
    (fun assignedToId named => by
      have seen := valid assignedToId named
      rwa [seenMembership_afterLooking] at seen) aside
  have told := ready.told old (List.mem_of_find?_eq_some isOld)
  have own := findTicket_id _ _ _ isOld
  have ends : Ledger showId given reached reached.events := by
    have grown : journal showId reached reached.events =
        journal showId checked checked.events ++ [] := by
      simp [reaches, journal, logOwn, logActivity, logged, tracked, storeTicket]
    rw [own] at told
    refine ready.written ?_ ticketId old { ticketData.apply old with updatedAt := checked.now } isOld
      rfl ?_ grown (by simp) ?_ ?_
    · rw [reaches]
      exact Carried.withDb _ rfl rfl (Nat.le_succ _)
    · rw [reaches]
      rfl
    · rw [List.append_nil]
      exact ⟨by rw [status]; exact told.status, by rw [assignee]; exact told.assignee⟩
    · intro event member
      rw [reaches] at member
      exact .inl member
  exact ends

end Nat

theorem Ledger.emits (ready : Ledger showId given world world.events) (ticketId : Nat)
    (old new : Ticket) (found : world.db.findTicket ticketId = some old) (same : new.id = old.id)
    (event : TicketEvent) (about : event.ticketId = ticketId)
    (actor : (world.db.findUser event.actorId).isSome = true)
    (hit : tracked (emitted showId event).1 = true)
    (told : Told showId (given old.id) new
      (journal showId world world.events ++ [emitted showId event]))
    (reaches : reached =
      { world.withDb (storeTicket ticketId new) with events := world.events ++ [event] }) :
    Ledger showId given reached reached.events := by
  have grown : journal showId reached reached.events =
      journal showId world world.events ++ [emitted showId event] := by
    simp [reaches, journal, storeTicket, hit]
  have carried : Carried world reached := by
    rw [reaches]
    exact ⟨rfl, rfl, Nat.le_refl _, fun _ _ _ there => .inl there⟩
  rw [findTicket_id _ _ _ found] at told
  refine ready.written carried ticketId old new found same (by rw [reaches]; rfl) grown ?_ told ?_
  · intro entry member
    rw [List.mem_singleton.mp member]
    exact about
  · intro later member
    rw [reaches] at member
    rcases List.mem_append.mp member with before | now
    · exact .inl before
    · rw [List.mem_singleton.mp now]
      exact .inr ⟨about, actor⟩

theorem assignTicketService_ledger (ledger : Ledger showId given world world.events)
    (ticketId assignedToId : Nat) :
    let after := ((assignTicketService ticketId assignedToId userId).run world).2
    Ledger showId given after after.events := by
  refine admitted_ledger ledger ticketId _ _ _ fun ticket membership admits looked => ?_
  refine looked.bind (validateTicketAssignee_plain _ _) ?_
  rintro ⟨⟩ checked validated ready
  obtain ⟨valid, sameDb, -⟩ := validateTicketAssignee_ok _ _ validated
  rw [afterLooking_db] at sameDb
  refine ready.attempt_bind fun written reached write => ?_
  obtain ⟨old, isOld, -, reaches, answered⟩ := writeTicket_ok _ _ _ _ write
  have own := findTicket_id _ _ _ isOld
  let new := { old with assignedToId := some assignedToId, updatedAt := checked.now }
  have told := (ready.told old (List.mem_of_find?_eq_some isOld)).assigned new assignedToId
    rfl rfl rfl
  refine ready.emits ticketId old new isOld rfl
    { name := .assigned
      ticketId := written.id
      organizationId := written.organizationId
      actorId := userId
      metadata :=
        { previousAssignedToId := ticket.assignedToId, assignedToId := written.assignedToId } }
    ?_ ?_ rfl ?_ ?_
  · rw [answered]
    exact own
  · rw [sameDb]
    exact actor_found ledger _ _ admits.seen
  · rw [answered]
    exact told
  · rw [reaches]
    rfl

theorem updateTicketStatusService_ledger (ledger : Ledger showId given world world.events)
    (ticketId : Nat) (status : TicketStatus) :
    let after := ((updateTicketStatusService ticketId status userId).run world).2
    Ledger showId given after after.events := by
  refine admitted_ledger ledger ticketId _ _ _ fun ticket membership admits looked => ?_
  refine looked.attempt_bind fun written reached write => ?_
  obtain ⟨old, isOld, -, reaches, answered⟩ := writeTicket_ok _ _ _ _ write
  rw [afterLooking_now] at answered reaches
  have own := findTicket_id _ _ _ isOld
  let new := { old with status, updatedAt := world.now }
  have told := (looked.told old (List.mem_of_find?_eq_some isOld)).statusChanged new rfl rfl
  refine looked.emits ticketId old new isOld rfl
    { name := .statusChanged
      ticketId := written.id
      organizationId := written.organizationId
      actorId := userId
      metadata := { previousStatus := some ticket.status, status := some written.status } }
    ?_ ?_ rfl ?_ ?_
  · rw [answered]
    exact own
  · rw [afterLooking_db]
    exact actor_found ledger _ _ admits.seen
  · rw [answered]
    exact told
  · rw [reaches]
    rfl

def Settled (showId : Nat → String) (events : List TicketEvent) : Prop :=
  -- No event about a status or an assignee is left to be handled.
  ∀ event ∈ events, tracked (emitted showId event).1 = false

theorem Settled.plain (settled : Settled showId world.events) (plain : Plain world reached) :
    Settled showId reached.events := by
  obtain ⟨later, events, others⟩ := plain.events
  intro event member
  rw [events] at member
  rcases List.mem_append.mp member with before | after
  · exact settled event before
  · exact tracked_of_plain showId event (others event after)

theorem journal_settled (settled : Settled showId pending) (world : World) :
    journal showId world pending =
      (world.db.ticketActivityLogs.map logged).filter fun entry => tracked entry.1 := by
  have none : (pending.map (emitted showId)).filter (fun entry => tracked entry.1) = [] := by
    rw [List.filter_eq_nil_iff]
    intro entry member
    obtain ⟨event, among, rfl⟩ := List.mem_map.mp member
    simp [settled event among]
  rw [journal, List.filter_append, none, List.append_nil]

theorem autoAssignTicketForOrganization_ledger
    (ready : Ledger locale.showId given world world.events)
    (settled : Settled locale.showId world.events) (ticket : Ticket)
    (aside : bestAgent locale world ticket.organizationId = none ∨
      ∀ stored, world.db.findTicket ticket.id = some stored → stored.status = .inProgress) :
    let after := ((autoAssignTicketForOrganization locale ticket).run world).2
    Ledger locale.showId given after after.events := by
  let goal (after : World) := Ledger locale.showId given after after.events
  unfold autoAssignTicketForOrganization
  rw [run_bind, run_findBestAutoAssignAgent]
  dsimp only
  cases best : bestAgent locale world ticket.organizationId with
  | none => exact ready
  | some agentUserId =>
    have inProgress := aside.resolve_left (by simp [best])
    rcases ran : (autoAssignTicket locale.showId ticket.id ticket.organizationId agentUserId).run
      world with ⟨failure | assigned, reached⟩
    · have ends : goal reached := by
        rw [Program.transaction_failed _ _ _ _ ran]
        exact ready
      simpa [Program.orFail, ran] using ends
    · obtain ⟨old, isOld, reaches⟩ := autoAssignTicket_ok _ _ _ _ _ ran
      have own := findTicket_id _ _ _ isOld
      obtain ⟨nextId, tickets, users, -, memberships, -, logs⟩ :=
        counted_rows world.now ticket.organizationId agentUserId world.db
      let new := { old with
        assignedToId := some agentUserId, status := .inProgress, updatedAt := world.now }
      have told := (ready.told old (List.mem_of_find?_eq_some isOld)).assigned new agentUserId
        rfl (inProgress old isOld).symm rfl
      have grown : journal locale.showId reached reached.events =
          journal locale.showId world world.events ++
            [((old.id, .ticketAssigned), some (locale.showId agentUserId))] := by
        rw [journal_settled settled, reaches, World.withDb_events, journal_settled settled]
        simp [autoAssigned, storeTicket, logActivity, assignedActivity, logs, logged, tracked, own]
      have ends : goal reached := by
        rw [own] at told
        refine ready.written ?_ ticket.id old new isOld rfl ?_ grown ?_ ?_ ?_
        · rw [reaches]
          refine Carried.withDb _ users memberships ?_
          change world.db.nextId ≤ (counted _ _ _ world.db).nextId + 1
          omega
        · rw [reaches]
          change changeWhere _ _ (counted _ _ _ world.db).tickets = _
          rw [tickets]
        · simp [own]
        · rw [own]
          exact told
        · intro event member
          rw [reaches] at member
          exact .inl member
      simpa [Program.orFail, ran] using ends

theorem bestAgent_congr (organizationId : Nat) (now : reached.now = world.now)
    (memberships : reached.db.memberships = world.db.memberships)
    (orgRoles : reached.db.orgRoles = world.db.orgRoles)
    (workloads : reached.db.agentWorkloads = world.db.agentWorkloads) :
    bestAgent locale reached organizationId = bestAgent locale world organizationId := by
  have withRole : reached.db.withRole = world.db.withRole := by
    funext membership
    simp [Database.withRole, Database.findOrgRole, orgRoles]
  simp [bestAgent, now, memberships, workloads, withRole, Database.findOrgRole, orgRoles]

theorem autoAssignTicketService_ledger (ledger : Ledger locale.showId given world world.events)
    (settled : Settled locale.showId world.events) (ticketId : Nat)
    (aside : ¬ Unlogged locale world userId (.autoAssignTicket ticketId)) :
    let after := ((autoAssignTicketService locale ticketId userId).run world).2
    Ledger locale.showId given after after.events := by
  refine admitted_ledger ledger ticketId _ _ _ fun ticket membership admits looked => ?_
  refine autoAssignTicketForOrganization_ledger looked (by simpa using settled) _ ?_
  have own := findTicket_id _ _ _ admits.found
  have same : bestAgent locale (afterLooking world ticket.organizationId userId)
      ticket.organizationId = bestAgent locale world ticket.organizationId :=
    bestAgent_congr _ (by simp) (by simp) (by simp) (by simp)
  rcases best : bestAgent locale world ticket.organizationId with _ | agentUserId
  · exact .inl (same.trans best)
  · refine .inr fun stored there => ?_
    rw [afterLooking_db] at there
    have which : some stored = some ticket := by
      rw [← there, ← admits.found, ← own]
      rfl
    cases which
    by_contra progress
    exact aside ⟨ticket, membership, admits, by simp [best], progress⟩

def TicketCall.givenAfter (given : Nat → Option Nat) (world : World) : TicketCall → Nat → Option Nat
  -- The assignees that tickets were created with, after the call.
  | .createTicket ticketData => Function.update given world.db.nextId ticketData.assignedToId
  | _ => given

theorem Ledger.given_update {pending : List TicketEvent}
    (ledger : Ledger showId given world pending) (assignedToId : Option Nat) :
    Ledger showId (Function.update given world.db.nextId assignedToId) world pending := by
  refine { ledger with told := fun ticket member => ?_ }
  have bound := ledger.tickets ticket member
  rw [Function.update_of_ne (by omega)]
  exact ledger.told ticket member

theorem Ledger.created (ledger : Ledger showId given world pending) (ticket : Ticket)
    (new : ticket.id = world.db.nextId) (opened : ticket.status = .open) :
    Ledger showId (Function.update given world.db.nextId ticket.assignedToId)
      (world.withDb (insertTicket ticket)) pending := by
  have carried : Carried world (world.withDb (insertTicket ticket)) :=
    Carried.withDb _ rfl rfl (Nat.le_succ _)
  have absent (action : TicketActivityAction) :
      latest (ticket.id, action) (journal showId world pending) = none := by
    refine latest_of_absent _ _ fun entry member same => ?_
    have bound := ledger.entries entry member
    rw [same, new] at bound
    exact absurd bound (Nat.lt_irrefl _)
  have grown : journal showId (world.withDb (insertTicket ticket)) pending =
      journal showId world pending ++ [] := by
    rw [List.append_nil]
    rfl
  refine ledger.step carried grown (by simp) ?_ ?_
  · intro other member
    rw [List.append_nil]
    rcases List.mem_append.mp member with before | now
    · have bound := ledger.tickets other before
      rw [Function.update_of_ne (by omega)]
      exact ⟨bound.trans_le carried.nextId, ledger.told other before⟩
    · rw [List.mem_singleton.mp now, new, Function.update_self, ← new]
      refine ⟨?_, ?_, ?_⟩
      · rw [new]
        exact Nat.lt_succ_self _
      · rw [absent, opened]
        rfl
      · rw [absent]
        rfl
  · intro event member hit
    obtain ⟨there, actor⟩ := ledger.pending event member hit
    refine ⟨?_, actor⟩
    obtain ⟨stored, found⟩ := Option.isSome_iff_exists.mp there
    have kept : (world.db.tickets ++ [ticket]).find? (fun row => row.id == event.ticketId) =
        some stored := by
      rw [List.find?_append]
      exact Option.or_eq_some_iff.mpr (.inl found)
    exact Option.isSome_iff_exists.mpr ⟨stored, kept⟩

theorem recovered_ledger (created : ListedTicket)
    (assigned : let after := ((autoAssignTicketForOrganization locale created.toTicket).run world).2
      Ledger showId given after after.events) :
    let after := ((Program.recover
      (do
        let assigned ← autoAssignTicketForOrganization locale created.toTicket
        return CreatedTicket.assigned assigned)
      fun error =>
        if error.code = some "NO_AGENT_AVAILABLE" then pure (.listed created)
        else Program.fail error).run world).2
    Ledger showId given after after.events := by
  rw [run_recover, run_bind]
  rcases outcome : (autoAssignTicketForOrganization locale created.toTicket).run world with
    ⟨failure | result, reached⟩
  · rw [outcome] at assigned
    dsimp only
    split <;> exact assigned
  · rw [outcome] at assigned
    exact assigned

theorem createTicketService_ledger (ledger : Ledger locale.showId given world world.events)
    (settled : Settled locale.showId world.events) (ticketData : TicketData)
    (aside : ¬ Unlogged locale world userId (.createTicket ticketData)) :
    let after := ((createTicketService locale ticketData userId).run world).2
    Ledger locale.showId (TicketCall.givenAfter given world (.createTicket ticketData)) after
      after.events := by
  let given' := TicketCall.givenAfter given world (.createTicket ticketData)
  have start : Ledger locale.showId given' world world.events :=
    ledger.given_update ticketData.assignedToId
  refine start.bind (memberOf_plain _ _ _) fun membership _ ran looked => ?_
  obtain ⟨seen, rfl⟩ := (memberOf_ok ..).mp ran
  refine looked.bind (validateTicketAssignee_plain _ _) ?_
  rintro ⟨⟩ checked validated ready
  obtain ⟨-, sameDb, sameNow⟩ := validateTicketAssignee_ok _ _ validated
  rw [afterLooking_db] at sameDb
  rw [afterLooking_now] at sameNow
  refine ready.attempt_bind fun ticket _ create => ?_
  obtain ⟨-, rfl, rfl⟩ := createTicket_ok _ _ _ create
  let new := newTicket checked ticketData userId
  have inserted : Ledger locale.showId given' (checked.withDb (insertTicket new)) checked.events := by
    have made := ready.created new rfl rfl
    have same : Function.update given' checked.db.nextId new.assignedToId = given' := by
      rw [sameDb]
      exact Function.update_idem ..
    rw [same] at made
    exact made
  refine inserted.bind (emitTicketEvent_plain _ ⟨by simp, by simp⟩) ?_
  rintro ⟨⟩ told emit emitted
  have plain := plain_of_run (emitTicketEvent_plain _ ⟨by simp, by simp⟩) emit
  have quiet := (settled.plain (plain_of_run (memberOf_plain _ _ _) ran)).plain
    (plain_of_run (validateTicketAssignee_plain _ _) validated)
  rw [← World.withDb_events checked (insertTicket new)] at quiet
  have calm := quiet.plain plain
  split
  · exact emitted
  · rename_i unassigned
    have noAssignee : ticketData.assignedToId = none := by
      simpa [listed, newTicket] using unassigned
    have noAgent : bestAgent locale world ticketData.organizationId = none := by
      by_contra found
      exact aside ⟨by simp [seen], noAssignee, Option.isSome_iff_ne_none.mpr found⟩
    have assigned := autoAssignTicketForOrganization_ledger emitted calm new (.inl (by
      cases emit
      rw [← noAgent]
      exact bestAgent_congr _ sameNow (by simp [insertTicket, sameDb]) (by simp [insertTicket, sameDb])
        (by simp [insertTicket, sameDb])))
    exact recovered_ledger _ assigned

theorem handled_event (world : World) (event : TicketEvent) (rest : List TicketEvent)
    (ledger : Ledger showId given world (event :: rest)) :
    ∃ after, ((createActivityLogForEvent showId event).recover fun _ => pure ()).run world =
      (.ok (), after) ∧ Ledger showId given after rest ∧ after.events = world.events := by
  have others : ∀ later ∈ rest, tracked (emitted showId later).1 = true → later ∈ event :: rest :=
    fun later member _ => List.mem_cons_of_mem _ member
  rw [createActivityLogForEvent, run_recover, run_bind]
  rcases ran : (createTicketActivityLog event.ticketId event.actorId
      (activityData showId event).action (activityData showId event).oldValue
      (activityData showId event).newValue).run world with ⟨failure | activity, reached⟩
  · have same := Program.attempt_failed _ _ _ _ ran
    subst same
    refine ⟨reached, rfl, ledger.silent (Carried.refl _) ?_ rfl others, rfl⟩
    -- The handler of an event that is tracked finds the ticket and the actor.
    have untracked : tracked (emitted showId event).1 = false := by
      by_contra hit
      have there := ledger.pending event (List.mem_cons_self ..) (by simpa using hit)
      unfold createTicketActivityLog at ran
      rw [Program.run_attempt] at ran
      simp [there] at ran
    simp [journal, untracked]
  · obtain ⟨rfl, rfl⟩ := createTicketActivityLog_ok _ _ _ _ _ _ ran
    refine ⟨_, rfl, ledger.silent (Carried.withDb _ rfl rfl (Nat.le_succ _)) ?_ rfl others, rfl⟩
    simp [journal, logActivity, logged, emitted]

theorem handleEach_ledger (pending : List TicketEvent) (world : World)
    (ledger : Ledger showId given world pending) :
    let after := ((handleEach showId pending).run world).2
    Ledger showId given after [] ∧ after.events = world.events := by
  induction pending generalizing world with
  | nil => exact ⟨ledger, rfl⟩
  | cons event rest ih =>
    obtain ⟨reached, ran, kept, quiet⟩ := handled_event world event rest ledger
    obtain ⟨done, still⟩ := ih reached kept
    rw [handleEach, run_bind, ran]
    exact ⟨done, still.trans quiet⟩

theorem handleEvents_ledger (ledger : Ledger showId given world world.events) :
    let after := ((handleEvents showId).run world).2
    Ledger showId given after [] ∧ after.events = [] := by
  have cleared : Ledger showId given { world with events := [] } world.events :=
    ledger.silent ⟨rfl, rfl, Nat.le_refl _, fun _ _ _ there => .inl there⟩ rfl rfl
      fun event member _ => member
  exact handleEach_ledger world.events _ cleared

end Writes

/-- The call is answered, whether it has succeeded or failed, and its handlers complete. -/
def performed (locale : Locale) (userId : Nat) (call : TicketCall) : Call Unit := do
  (call.service locale userId).recover fun _ => pure ()
  handleEvents locale.showId

/-- What else goes on between the operations: it leaves the statuses, the assignees and the log
alone, and a membership is always one of a user. -/
structure Between (world reached : World) : Prop where
  tickets : ∀ ticket ∈ reached.db.tickets, ∃ old ∈ world.db.tickets,
    ticket.id = old.id ∧ ticket.status = old.status ∧ ticket.assignedToId = old.assignedToId
  logs : reached.db.ticketActivityLogs = world.db.ticketActivityLogs
  nextId : world.db.nextId ≤ reached.db.nextId
  users : ∀ membership ∈ reached.db.memberships, (reached.db.findUser membership.userId).isSome
  copies : ∀ organizationId userId copy,
    reached.membershipCache organizationId userId = some copy →
      (reached.db.findUser userId).isSome
  events : reached.events = []

/-- A run of ticket operations, each after the other with its handlers, and the assignees that
the tickets were created with. -/
inductive Runs (locale : Locale) (permitted : World → Nat → TicketCall → Prop) (start : World) :
    (Nat → Option Nat) → World → Prop
  | start : Runs locale permitted start (fun _ => none) start
  | operation (given : Nat → Option Nat) (world : World) (userId : Nat) (call : TicketCall)
    (before : Runs locale permitted start given world) (allowed : permitted world userId call) :
    Runs locale permitted start (call.givenAfter given world)
      ((performed locale userId call).run world).2
  | between (given : Nat → Option Nat) (world reached : World)
    (before : Runs locale permitted start given world) (aside : Between world reached) :
    Runs locale permitted start given reached

structure Unopened (world : World) : Prop where
  tickets : world.db.tickets = []
  logs : world.db.ticketActivityLogs = []
  users : ∀ membership ∈ world.db.memberships, (world.db.findUser membership.userId).isSome
  copies : ∀ organizationId userId copy,
    world.membershipCache organizationId userId = some copy → (world.db.findUser userId).isSome
  events : world.events = []

section Runs

variable {locale : Locale} {given : Nat → Option Nat} {world reached : World}

theorem Ledger.between {showId : Nat → String} (ledger : Ledger showId given world [])
    (aside : Between world reached) : Ledger showId given reached [] := by
  have same : journal showId reached [] = journal showId world [] := by
    simp [journal, aside.logs]
  refine ⟨?_, ?_, ?_, aside.users, aside.copies, by simp⟩
  · intro ticket member
    obtain ⟨old, before, id, status, assignee⟩ := aside.tickets ticket member
    obtain ⟨toldStatus, toldAssignee⟩ := ledger.told old before
    rw [same]
    exact ⟨by rw [id, status]; exact toldStatus, by rw [id, assignee]; exact toldAssignee⟩
  · intro ticket member
    obtain ⟨old, before, id, -, -⟩ := aside.tickets ticket member
    rw [id]
    exact (ledger.tickets old before).trans_le aside.nextId
  · intro entry member
    rw [same] at member
    exact (ledger.entries entry member).trans_le aside.nextId

theorem run_discard (service : Call α) (world : World) :
    ((service >>= fun _ => pure () : Call Unit).run world).2 = (service.run world).2 := by
  rw [run_bind]
  rcases service.run world with ⟨failure | value, reached⟩ <;> rfl

theorem service_ledger (ledger : Ledger locale.showId given world world.events)
    (settled : Settled locale.showId world.events) (userId : Nat) (call : TicketCall)
    (aside : ¬ Unlogged locale world userId call) :
    let after := ((call.service locale userId).run world).2
    Ledger locale.showId (call.givenAfter given world) after after.events := by
  have plainly {α : Type} (service : Call α) (keeps : Keeps (Plain world) service) :
      let after := ((service >>= fun _ => pure () : Call Unit).run world).2
      Ledger locale.showId given after after.events := by
    have plain := keeps world (Plain.refl world)
    rw [run_discard]
    exact ledger.plain plain
  cases call with
  | createTicket ticketData =>
    rw [TicketCall.service, run_discard]
    exact createTicketService_ledger ledger settled ticketData aside
  | autoAssignTicket ticketId =>
    rw [TicketCall.service, run_discard]
    exact autoAssignTicketService_ledger ledger settled ticketId aside
  | assignTicket ticketId assignedToId =>
    rw [TicketCall.service, run_discard]
    exact assignTicketService_ledger ledger ticketId assignedToId
  | updateTicket ticketId ticketData =>
    rw [TicketCall.service, run_discard]
    exact updateTicketService_ledger ledger ticketId ticketData aside
  | updateTicketStatus ticketId status =>
    rw [TicketCall.service, run_discard]
    exact updateTicketStatusService_ledger ledger ticketId status
  | getTickets query => exact plainly _ (getTicketsService_plain query userId)
  | getMyAgentTickets query => exact plainly _ (getMyAgentTicketsService_plain query userId)
  | getTicketById ticketId => exact plainly _ (getTicketByIdService_plain ticketId userId)
  | createTicketComment ticketId commentData =>
    exact plainly _ (createTicketCommentService_plain ticketId commentData userId)
  | getTicketComments ticketId => exact plainly _ (getTicketCommentsService_plain ticketId userId)
  | getTicketActivities ticketId =>
    exact plainly _ (getTicketActivitiesService_plain ticketId userId)
  | deleteTicketComment ticketId commentId =>
    exact plainly _ (deleteTicketCommentService_plain ticketId commentId userId)
  | createTicketAttachment ticketId attachmentData =>
    exact plainly _ (createTicketAttachmentService_plain ticketId attachmentData userId)
  | getTicketAttachments ticketId =>
    exact plainly _ (getTicketAttachmentsService_plain ticketId userId)
  | deleteTicketAttachment ticketId attachmentId =>
    exact plainly _ (deleteTicketAttachmentService_plain ticketId attachmentId userId)
  | createTag organizationId name =>
    exact plainly _ (createTagService_plain organizationId name userId)
  | getTags organizationId => exact plainly _ (getTagsService_plain organizationId userId)
  | addTicketTag ticketId tagId => exact plainly _ (addTicketTagService_plain ticketId tagId userId)
  | deleteTicketTag ticketId tagId =>
    exact plainly _ (deleteTicketTagService_plain ticketId tagId userId)

theorem performed_ledger (ledger : Ledger locale.showId given world [])
    (quiet : world.events = []) (userId : Nat) (call : TicketCall)
    (aside : ¬ Unlogged locale world userId call) :
    let after := ((performed locale userId call).run world).2
    Ledger locale.showId (call.givenAfter given world) after [] ∧ after.events = [] := by
  have settled : Settled locale.showId world.events := by
    simp [Settled, quiet]
  rw [← quiet] at ledger
  have served := service_ledger ledger settled userId call aside
  rw [performed, run_bind, run_recover]
  rcases ran : (call.service locale userId).run world with ⟨failure | ⟨⟩, reached⟩
  · rw [ran] at served
    exact handleEvents_ledger served
  · rw [ran] at served
    exact handleEvents_ledger served

theorem runs_ledger (start : World) (unopened : Unopened start)
    (run : Runs locale (fun world userId call => ¬ Unlogged locale world userId call) start given
      world) :
    Ledger locale.showId given world [] ∧ world.events = [] := by
  induction run with
  | start =>
    have none : journal locale.showId start [] = [] := by
      simp [journal, unopened.logs]
    refine ⟨⟨?_, ?_, ?_, unopened.users, unopened.copies, by simp⟩, unopened.events⟩
    · simp [unopened.tickets]
    · simp [unopened.tickets]
    · simp [none]
  | operation given world userId call before allowed ih =>
    exact performed_ledger ih.1 ih.2 userId call allowed
  | between given world reached before aside ih => exact ⟨ih.1.between aside, aside.events⟩

end Runs

/-- In every run in which no call that is let through assigns automatically a ticket that is not
in progress, or changes a status or an assignee by a generic update, the activity log says of
every ticket what its status and its assignee are. -/
theorem log_replays (locale : Locale) (start : World) (unopened : Unopened start)
    (given : Nat → Option Nat) (world : World)
    (run : Runs locale (fun world userId call => ¬ Unlogged locale world userId call) start given
      world) : Replays locale.showId given world.db := by
  obtain ⟨ledger, -⟩ := runs_ledger start unopened run
  intro ticket member
  have told := ledger.told ticket member
  rw [journal, List.map_nil, List.append_nil] at told
  exact told_filter.mp told

def deskLocale : Locale where
  startOfDay := id
  startOfWeek := id

def deskRole : OrgRole where
  id := 4
  name := "LEAD"
  organizationId := 3
  permissions := [.ticketViewAll, .ticketEditAll, .ticketAssign]
  level := 60

def openingDesk : World where
  db :=
    { users := [{ id := 1, email := "lead@a.example", password := "" },
        { id := 2, email := "agent@a.example", password := "" }]
      organizations := [{ id := 3, name := "A" }]
      orgRoles := [deskRole]
      memberships := [{ id := 5, userId := 1, organizationId := 3, roleId := 4 },
        { id := 6, userId := 2, organizationId := 3, roleId := 4 }]
      nextId := 7 }

theorem openingDesk_unopened : Unopened openingDesk where
  tickets := rfl
  logs := rfl
  users := by decide +kernel
  copies _ _ _ there := by cases there
  events := rfl

def report : TicketCall :=
  .createTicket { organizationId := 3, title := "Printer", assignedToId := some 2 }

def afterReporting : World := ((performed deskLocale 1 report).run openingDesk).2

def deskGiven : Nat → Option Nat := report.givenAfter (fun _ => none) openingDesk

theorem report_runs (permitted : World → Nat → TicketCall → Prop)
    (allowed : permitted openingDesk 1 report) :
    Runs deskLocale permitted openingDesk deskGiven afterReporting :=
  .operation _ openingDesk 1 report .start allowed

theorem resolved_by_status_replays :
    Replays toString deskGiven
      ((performed deskLocale 1 (.updateTicketStatus 7 .resolved)).run afterReporting).2.db :=
  log_replays deskLocale openingDesk openingDesk_unopened deskGiven _
    (.operation deskGiven afterReporting 1 (.updateTicketStatus 7 .resolved)
      (report_runs _ (by simp [Unlogged, report])) (by simp [Unlogged]))

def patch : TicketCall := .updateTicket 7 { status := some .resolved }

def afterPatch : World := ((performed deskLocale 1 patch).run afterReporting).2

/-- The generic update resolves the ticket, and the log still says that it is open. -/
theorem resolved_by_patch_unlogged :
    Unopened openingDesk ∧ Runs deskLocale (fun _ _ _ => True) openingDesk deskGiven afterPatch ∧
      ¬ Replays toString deskGiven afterPatch.db := by
  have run : Runs deskLocale (fun _ _ _ => True) openingDesk deskGiven afterPatch :=
    .operation deskGiven afterReporting 1 patch (report_runs _ trivial) trivial
  refine ⟨openingDesk_unopened, run, ?_⟩
  intro replays
  have stale : ∃ ticket ∈ afterPatch.db.tickets,
      (latest (ticket.id, .ticketStatusUpdated) (afterPatch.db.ticketActivityLogs.map logged)).getD
        (some (statusName .open)) ≠ some (statusName ticket.status) := by decide +kernel
  obtain ⟨ticket, member, differs⟩ := stale
  exact differs (replays ticket member).status

end HelpForge.Tickets
