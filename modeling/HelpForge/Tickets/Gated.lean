import HelpForge.Tickets.Calls

set_option autoImplicit false

namespace HelpForge.Tickets

open Lib
open Program (bind_ok pure_ok)

inductive GatedCall where
  | createTicket (ticketData : TicketData)
  | updateTicket (ticketId : Nat) (ticketData : TicketUpdates)
  | assignTicket (ticketId assignedToId : Nat)
  | autoAssignTicket (ticketId : Nat)
  | updateTicketStatus (ticketId : Nat) (status : TicketStatus)
  deriving DecidableEq

namespace GatedCall

def program (locale : Locale) (userId : Nat) : GatedCall → Call Unit
  | createTicket ticketData => do
    let _ ← createTicketService locale ticketData userId
    pure ()
  | updateTicket ticketId ticketData => do
    let _ ← updateTicketService ticketId ticketData userId
    pure ()
  | assignTicket ticketId assignedToId => do
    let _ ← assignTicketService ticketId assignedToId userId
    pure ()
  | autoAssignTicket ticketId => do
    let _ ← autoAssignTicketService locale ticketId userId
    pure ()
  | updateTicketStatus ticketId status => do
    let _ ← updateTicketStatusService ticketId status userId
    pure ()

def existing : GatedCall → Option Nat
  -- The ticket that is there before the call.
  | createTicket _ => none
  | updateTicket ticketId _ => some ticketId
  | assignTicket ticketId _ => some ticketId
  | autoAssignTicket ticketId => some ticketId
  | updateTicketStatus ticketId _ => some ticketId

def named : GatedCall → Option Nat
  -- The assignee that the caller names.
  | createTicket ticketData => ticketData.assignedToId
  | updateTicket _ ticketData => ticketData.assignedToId
  | assignTicket _ assignedToId => some assignedToId
  | autoAssignTicket _ => none
  | updateTicketStatus _ _ => none

def organizationId (before : World) (call : GatedCall) : Option Nat :=
  match call with
  | createTicket ticketData => some ticketData.organizationId
  | other => other.existing.bind fun ticketId =>
    (before.db.findTicket ticketId).map fun ticket => ticket.organizationId

def role (before : World) (userId : Nat) (call : GatedCall) : Option OrgRole :=
  -- The role of the caller, as the services look it up.
  (call.organizationId before).bind fun organizationId =>
    (seenMembership before organizationId userId).map fun membership => membership.role

def Assigns (before after : World) (call : GatedCall) : Prop :=
  -- The ticket goes to the user that the caller names, or to one that is found.
  match call with
  | autoAssignTicket _ => True
  | other => ∃ userId ∈ other.named, ∃ ticket ∈ after.db.tickets,
    ticket.id = other.existing.getD before.db.nextId ∧ ticket.assignedToId = some userId

def ChangesStatus (before after : World) (call : GatedCall) : Prop :=
  ∃ ticketId ∈ call.existing, ∃ old new, before.db.findTicket ticketId = some old ∧
    after.db.findTicket ticketId = some new ∧ new.status ≠ old.status

structure Gated (role : OrgRole) (before after : World) (call : GatedCall) : Prop where
  assignee : call.Assigns before after → canAssignOrganizationTickets role = true
  status : call.ChangesStatus before after →
    canEditAllOrganizationTickets role = true ∨ canAssignOrganizationTickets role = true

def namesAside : GatedCall → Bool
  -- A creation or an update that names an assignee.
  | createTicket ticketData => ticketData.assignedToId.isSome
  | updateTicket _ ticketData => ticketData.assignedToId.isSome
  | _ => false

end GatedCall

open GatedCall

section Calls

variable {locale : Locale} {before after : World} {userId : Nat}

theorem done_ok {α : Type} (service : Call α)
    (done : (do let _ ← service; pure () : Call Unit).run before = (.ok (), after)) :
    ∃ value, service.run before = (.ok value, after) := by
  obtain ⟨value, _, ran, rest⟩ := (bind_ok ..).mp done
  obtain ⟨-, rfl⟩ := (pure_ok ..).mp rest
  exact ⟨value, ran⟩

theorem role_of_admits (call : GatedCall) (ticketId : Nat) (allowed : OrgRole → Ticket → Bool)
    (ticket : Ticket) (membership : OrganizationMembership)
    (admits : Admits before ticketId userId allowed ticket membership)
    (existing : call.existing = some ticketId) : call.role before userId = some membership.role := by
  cases call with
  | createTicket ticketData => cases existing
  | updateTicket id ticketData =>
    cases existing
    simp [role, GatedCall.organizationId, GatedCall.existing, admits.found, admits.seen]
  | assignTicket id assignedToId =>
    cases existing
    simp [role, GatedCall.organizationId, GatedCall.existing, admits.found, admits.seen]
  | autoAssignTicket id =>
    cases existing
    simp [role, GatedCall.organizationId, GatedCall.existing, admits.found, admits.seen]
  | updateTicketStatus id status =>
    cases existing
    simp [role, GatedCall.organizationId, GatedCall.existing, admits.found, admits.seen]

variable (ticketId : Nat)

theorem written_found (change : Ticket → Ticket) (activity : Option (Nat × TicketActivityAction))
    (written : HydratedTicket) (kept : ∀ ticket, (change ticket).id = ticket.id)
    (done : (writeTicket ticketId change activity).run before = (.ok written, after)) :
    ∃ ticket, before.db.findTicket ticketId = some ticket ∧
      after.db.findTicket ticketId = some { change ticket with updatedAt := before.now } := by
  obtain ⟨ticket, found, -, rfl, -⟩ := writeTicket_ok _ _ _ _ done
  refine ⟨ticket, found, ?_⟩
  have same : ({ change ticket with updatedAt := before.now } : Ticket).id = ticketId :=
    (kept ticket).trans (findTicket_id _ _ _ found)
  have stored := findTicket_stored before.db ticketId ticket _ found same
  simpa [Database.findTicket] using stored

theorem createTicket_gated (ticketData : TicketData)
    (done : ((GatedCall.createTicket ticketData).program locale userId).run before =
      (.ok (), after)) :
    ∃ role, (GatedCall.createTicket ticketData).role before userId = some role ∧
      (Gated role before after (.createTicket ticketData) ↔
        (ticketData.assignedToId.isSome = true → canAssignOrganizationTickets role = true)) := by
  obtain ⟨created, ran⟩ := done_ok _ done
  obtain ⟨membership, _, lookup, rest⟩ := (bind_ok ..).mp ran
  obtain ⟨seen, rfl⟩ := (memberOf_ok ..).mp lookup
  obtain ⟨_, checked, valid, rest⟩ := (bind_ok ..).mp rest
  obtain ⟨-, sameDb, -⟩ := validateTicketAssignee_ok _ _ valid
  obtain ⟨ticket, inserted, insert, rest⟩ := (bind_ok ..).mp rest
  obtain ⟨-, rfl, rfl⟩ := createTicket_ok _ _ _ insert
  rw [Program.run_bind] at rest
  refine ⟨membership.role, ?_, ?_⟩
  · simp [role, GatedCall.organizationId, seen]
  · constructor
    · rintro ⟨assignee, -⟩ names
      obtain ⟨assignedToId, named⟩ := Option.isSome_iff_exists.mp names
      have given : (newTicket checked ticketData userId).assignedToId.isSome = true := names
      apply assignee
      -- a ticket that has its assignee is left as it was created
      simp only [emitTicketEvent, Program.run_modify, listed, given, if_true] at rest
      obtain ⟨-, rfl⟩ := (pure_ok ..).mp rest
      refine ⟨assignedToId, named, newTicket checked ticketData userId, ?_, ?_, named⟩
      · simp [insertTicket]
      · simp [GatedCall.existing, newTicket, sameDb]
    · intro allows
      refine ⟨?_, ?_⟩
      · rintro ⟨assignedToId, named, -⟩
        exact allows (Option.isSome_iff_exists.mpr ⟨assignedToId, named⟩)
      · rintro ⟨ticketId, existing, -⟩
        cases existing

theorem updateTicket_gated (ticketData : TicketUpdates)
    (done : ((GatedCall.updateTicket ticketId ticketData).program locale userId).run before =
      (.ok (), after)) :
    ∃ role, (GatedCall.updateTicket ticketId ticketData).role before userId = some role ∧
      (Gated role before after (.updateTicket ticketId ticketData) ↔
        (ticketData.assignedToId.isSome = true → canAssignOrganizationTickets role = true)) := by
  obtain ⟨answered, ran⟩ := done_ok _ done
  obtain ⟨⟨found, membership⟩, _, entered, rest⟩ := (bind_ok ..).mp ran
  obtain ⟨ticket, admits, rfl, rfl⟩ := admitted_ok _ _ _ _ _ _ entered
  obtain ⟨_, _, asserted, rest⟩ := (bind_ok ..).mp rest
  obtain ⟨mayUpdate, rfl⟩ := assertCanUpdateTicket_ok _ _ _ _ asserted
  obtain ⟨_, checked, valid, rest⟩ := (bind_ok ..).mp rest
  obtain ⟨-, sameDb, -⟩ := validateTicketAssignee_ok _ _ valid
  obtain ⟨written, reached, update, rest⟩ := (bind_ok ..).mp rest
  obtain ⟨-, rfl⟩ := (pure_ok ..).mp rest
  obtain ⟨old, isOld, isNew⟩ := written_found ticketId ticketData.apply _ _ (fun _ => rfl) update
  rw [sameDb, afterLooking_db, admits.found, Option.some.injEq] at isOld
  subst isOld
  have member := List.mem_of_find?_eq_some isNew
  have ownId := findTicket_id _ _ _ isNew
  refine ⟨membership.role, role_of_admits _ ticketId _ ticket membership admits rfl, ?_⟩
  constructor
  · rintro ⟨assignee, -⟩ names
    obtain ⟨assignedToId, named⟩ := Option.isSome_iff_exists.mp names
    apply assignee
    refine ⟨assignedToId, named, _, member, ownId, ?_⟩
    simp [TicketUpdates.apply, named]
  · intro allows
    refine ⟨?_, ?_⟩
    · rintro ⟨assignedToId, named, -⟩
      exact allows (Option.isSome_iff_exists.mpr ⟨assignedToId, named⟩)
    · rintro ⟨_, ⟨⟩, earlier, later, wasOld, nowNew, changed⟩
      rw [admits.found, Option.some.injEq] at wasOld
      rw [isNew, Option.some.injEq] at nowNew
      subst wasOld nowNew
      rcases mayUpdate with edits | ⟨noStatus, -⟩
      · exact .inl edits
      · exact absurd (by simp [TicketUpdates.apply, noStatus]) changed

theorem assignTicket_gated (assignedToId : Nat)
    (done : ((GatedCall.assignTicket ticketId assignedToId).program locale userId).run before =
      (.ok (), after)) :
    ∃ role, (GatedCall.assignTicket ticketId assignedToId).role before userId = some role ∧
      Gated role before after (.assignTicket ticketId assignedToId) := by
  obtain ⟨answered, ran⟩ := done_ok _ done
  obtain ⟨⟨found, membership⟩, _, entered, -⟩ := (bind_ok ..).mp ran
  obtain ⟨ticket, admits, -, -⟩ := admitted_ok _ _ _ _ _ _ entered
  exact ⟨membership.role, role_of_admits _ ticketId _ ticket membership admits rfl,
    fun _ => admits.allows, fun _ => .inr admits.allows⟩

theorem autoAssignTicket_gated
    (done : ((GatedCall.autoAssignTicket ticketId).program locale userId).run before =
      (.ok (), after)) :
    ∃ role, (GatedCall.autoAssignTicket ticketId).role before userId = some role ∧
      Gated role before after (.autoAssignTicket ticketId) := by
  obtain ⟨answered, ran⟩ := done_ok _ done
  obtain ⟨⟨found, membership⟩, _, entered, -⟩ := (bind_ok ..).mp ran
  obtain ⟨ticket, admits, -, -⟩ := admitted_ok _ _ _ _ _ _ entered
  exact ⟨membership.role, role_of_admits _ ticketId _ ticket membership admits rfl,
    fun _ => admits.allows, fun _ => .inr admits.allows⟩

theorem updateTicketStatus_gated (status : TicketStatus)
    (done : ((GatedCall.updateTicketStatus ticketId status).program locale userId).run before =
      (.ok (), after)) :
    ∃ role, (GatedCall.updateTicketStatus ticketId status).role before userId = some role ∧
      Gated role before after (.updateTicketStatus ticketId status) := by
  obtain ⟨answered, ran⟩ := done_ok _ done
  obtain ⟨⟨found, membership⟩, _, entered, -⟩ := (bind_ok ..).mp ran
  obtain ⟨ticket, admits, -, -⟩ := admitted_ok _ _ _ _ _ _ entered
  refine ⟨membership.role, role_of_admits _ ticketId _ ticket membership admits rfl, ?_,
    fun _ => .inl admits.allows⟩
  rintro ⟨_, named, -⟩
  cases named

end Calls

/-- A call that succeeds is gated exactly where it does not name an assignee in a creation or an
update, or where the role may assign all the same. -/
theorem gated_iff (locale : Locale) (userId : Nat) (call : GatedCall) (before after : World)
    (done : (call.program locale userId).run before = (.ok (), after)) :
    ∃ role, call.role before userId = some role ∧
      (Gated role before after call ↔
        (call.namesAside = true → canAssignOrganizationTickets role = true)) := by
  have whole (own : ∃ role, call.role before userId = some role ∧ Gated role before after call)
      (noAside : call.namesAside = false) :
      ∃ role, call.role before userId = some role ∧
        (Gated role before after call ↔
          (call.namesAside = true → canAssignOrganizationTickets role = true)) := by
    obtain ⟨role, isRole, gated⟩ := own
    exact ⟨role, isRole, by simp [gated, noAside]⟩
  cases call with
  | createTicket ticketData => exact createTicket_gated ticketData done
  | updateTicket ticketId ticketData => exact updateTicket_gated ticketId ticketData done
  | assignTicket ticketId assignedToId =>
    exact whole (assignTicket_gated ticketId assignedToId done) rfl
  | autoAssignTicket ticketId => exact whole (autoAssignTicket_gated ticketId done) rfl
  | updateTicketStatus ticketId status =>
    exact whole (updateTicketStatus_gated ticketId status done) rfl

def anyLocale : Locale where
  startOfDay := id
  startOfWeek := id

def memberRole : OrgRole where
  id := 4
  organizationId := 3
  name := "MEMBER"
  level := 10
  isSystem := true
  permissions := [.orgViewMembers]

def frontDesk : World where
  db :=
    { users := [{ id := 1, email := "member@a.example", password := "" },
        { id := 2, email := "agent@a.example", password := "" }]
      organizations := [{ id := 3, name := "A" }]
      orgRoles := [memberRole]
      memberships := [{ id := 5, userId := 1, organizationId := 3, roleId := 4 },
        { id := 6, userId := 2, organizationId := 3, roleId := 4 }]
      nextId := 7 }

def reportTo (assignedToId : Option Nat) : GatedCall :=
  .createTicket { organizationId := 3, title := "Printer", assignedToId }

def afterReport (assignedToId : Option Nat) : World :=
  (((reportTo assignedToId).program anyLocale 1).run frontDesk).2

theorem report_succeeds (assignedToId : Option Nat)
    (succeeds : (((reportTo assignedToId).program anyLocale 1).run frontDesk).1 = .ok ()) :
    ((reportTo assignedToId).program anyLocale 1).run frontDesk =
      (.ok (), afterReport assignedToId) := Prod.ext succeeds rfl

theorem plain_report_gated :
    ∃ role, (reportTo none).role frontDesk 1 = some role ∧
      (Gated role frontDesk (afterReport none) (reportTo none) ↔
        ((reportTo none).namesAside = true → canAssignOrganizationTickets role = true)) :=
  gated_iff anyLocale 1 (reportTo none) frontDesk (afterReport none)
    (report_succeeds none (by decide +kernel))

/-- The member's ticket goes to the agent whom the member names. -/
theorem named_report_ungated :
    ((reportTo (some 2)).program anyLocale 1).run frontDesk = (.ok (), afterReport (some 2)) ∧
      (reportTo (some 2)).role frontDesk 1 = some memberRole ∧
      ¬ Gated memberRole frontDesk (afterReport (some 2)) (reportTo (some 2)) := by
  refine ⟨report_succeeds _ (by decide +kernel), by decide +kernel, ?_⟩
  rintro ⟨assignee, -⟩
  have created : ∃ ticket ∈ (afterReport (some 2)).db.tickets,
      ticket.id = 7 ∧ ticket.assignedToId = some 2 := by decide +kernel
  have allowed := assignee ⟨2, rfl, created⟩
  exact absurd allowed (by decide)

end HelpForge.Tickets
