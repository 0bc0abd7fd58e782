import HelpForge.Tickets.Exposure

set_option autoImplicit false

namespace HelpForge.Tickets

open Lib
open Joined (fill keys)

def SameButPasswords (users users' : List User) : Prop :=
  -- The two tables differ in password hashes only.
  users.map (fun user => { user with password := "" }) =
    users'.map fun user => { user with password := "" }

def passwordOf (db : Database) (id : Nat) : Option String :=
  (db.findUser id).map fun user => user.password

def withUsers (world : World) (users : List User) : World :=
  world.withDb fun db => { db with users }

/-- An endpoint of the tickets or of the members. -/
inductive Endpoint where
  | ticket (call : TicketCall)
  | viewAllMembersInOrganization (orgId : Nat)
  deriving DecidableEq

abbrev Endpoint.Answer : Endpoint → Type
  | ticket call => call.Answer
  | viewAllMembersInOrganization _ => List Org.OrganizationMember

def Endpoint.answer (locale : Locale) (userId : Nat) : (endpoint : Endpoint) → Call endpoint.Answer
  | ticket call => call.answer locale userId
  | viewAllMembersInOrganization orgId => Org.viewAllMembersInOrganizationService orgId

def Endpoint.Exposes (locale : Locale) (world : World) (userId : Nat) : Endpoint → Nat → Prop
  -- The users whose rows the endpoint answers with.
  | ticket call, id => Tickets.Exposes locale world userId call id
  | viewAllMembersInOrganization orgId, id => Lists world.db orgId id

instance : (endpoint : Endpoint) → Joined endpoint.Answer
  | .ticket call => inferInstanceAs (Joined call.Answer)
  | .viewAllMembersInOrganization _ => inferInstanceAs (Joined (List Org.OrganizationMember))

section States

variable {users users' : List User} (locale : Locale) (userId : Nat)

theorem SameButPasswords.lookup (same : SameButPasswords users users') (id : Nat) :
    (lookup users id).map (fun user => { user with password := "" }) =
      (lookup users' id).map fun user => { user with password := "" } := by
  have found (table : List User) :
      (table.map fun user : User => { user with password := "" }).find?
          (fun user => user.id == id) =
        (Tickets.lookup table id).map fun user => { user with password := "" } := by
    rw [List.find?_map]
    rfl
  rw [← found, ← found, same]

theorem SameButPasswords.same_iff (same : SameButPasswords users users') (id : Nat) :
    Tickets.lookup users id = Tickets.lookup users' id ↔
      (Tickets.lookup users id).map (·.password) = (Tickets.lookup users' id).map (·.password) := by
  have rest := same.lookup id
  cases found : Tickets.lookup users id with
  | none => cases found' : Tickets.lookup users' id <;> simp
  | some user =>
    cases found' : Tickets.lookup users' id with
    | none => simp
    | some other =>
      rw [found, found', Option.map_some, Option.map_some, Option.some.injEq] at rest
      cases user
      cases other
      simp_all

theorem Blind.unjoined {α : Type} [Joined α] {call : Call α}
    (blind : Blind users users' call call Eq)
    (apart : ∀ find (value : α), fill find value = value) :
    Blind users users' call call (Refilled users users') := by
  refine blind.mono fun value _ same => ?_
  subst same
  exact ⟨apart _ _, (apart _ _).symm⟩

theorem Blind.agree_iff {α : Type} [Joined α] {call : Call α}
    (same : ∀ id, (lookup users id).isSome = (lookup users' id).isSome)
    (blind : Blind users users' call call (Refilled users users')) {left right : World}
    (swapped : Swapped users users' left right) :
    (call.run right).1 = (call.run left).1 ↔
      ∀ id, Joins call left id → lookup users id = lookup users' id := by
  -- The answers are the same ones if every user who is joined has the same row.
  obtain ⟨alike, -⟩ := blind left right swapped
  unfold Joins
  rcases one : (call.run left).1 with failure | value <;>
    rcases other : (call.run right).1 with failure' | value' <;>
    rw [one, other] at alike
  · simp [show failure = failure' from alike]
  · exact alike.elim
  · exact alike.elim
  · obtain ⟨own, rfl⟩ := alike
    have agree := Joined.fill_eq_iff (lookup users) (lookup users') value same
    rw [own, eq_comm] at agree
    simp only [Except.ok.injEq, exists_eq_left']
    exact agree

theorem answer_blind (same : ∀ id, (lookup users id).isSome = (lookup users' id).isSome)
    (call : TicketCall) :
    Blind users users' (call.answer locale userId) (call.answer locale userId)
      (Refilled users users') := by
  have uniform := blind_uniform same
  cases call with
  | createTicket ticketData => exact createTicketService_blind same locale ticketData userId
  | autoAssignTicket ticketId => exact uniform.autoAssignTicketService ticketId userId locale
  | assignTicket ticketId assignedToId =>
    exact uniform.assignTicketService ticketId userId assignedToId
  | getTickets query => exact uniform.getTicketsService userId query
  | getMyAgentTickets query => exact uniform.getMyAgentTicketsService userId query
  | getTicketById ticketId => exact uniform.getTicketByIdService ticketId userId
  | updateTicket ticketId ticketData => exact uniform.updateTicketService ticketId userId ticketData
  | updateTicketStatus ticketId status =>
    exact uniform.updateTicketStatusService ticketId userId status
  | createTicketComment ticketId commentData =>
    exact createTicketCommentService_blind same ticketId commentData userId
  | getTicketComments ticketId => exact uniform.getTicketCommentsService ticketId userId
  | getTicketActivities ticketId => exact uniform.getTicketActivitiesService ticketId userId
  | deleteTicketComment ticketId commentId =>
    exact deleteTicketCommentService_blind same ticketId commentId userId
  | createTicketAttachment ticketId attachmentData =>
    exact uniform.createTicketAttachmentService ticketId userId attachmentData
  | getTicketAttachments ticketId => exact uniform.getTicketAttachmentsService ticketId userId
  | deleteTicketAttachment ticketId attachmentId =>
    exact uniform.deleteTicketAttachmentService ticketId userId attachmentId
  | createTag organizationId name =>
    exact Blind.unjoined (uniform.createTagService userId organizationId name) fun _ _ => rfl
  | getTags organizationId =>
    exact Blind.unjoined (uniform.getTagsService userId organizationId) fun _ tags =>
      List.map_id tags
  | addTicketTag ticketId tagId =>
    exact Blind.unjoined (uniform.addTicketTagService ticketId userId tagId) fun _ _ => rfl
  | deleteTicketTag ticketId tagId =>
    exact Blind.unjoined (uniform.deleteTicketTagService ticketId userId tagId) fun _ _ => rfl

theorem answer_joins (world : World) (id : Nat) (call : TicketCall) :
    Joins (call.answer locale userId) world id ↔ Exposes locale world userId call id := by
  have nobody {α : Type} [Joined α] (service : Call α) (apart : ∀ value : α, keys value = []) :
      Joins service world id ↔ False := by
    refine iff_of_false ?_ not_false
    rintro ⟨value, -, named⟩
    rw [apart value] at named
    cases named
  cases call with
  | createTicket ticketData => exact createTicketService_joins ticketData
  | autoAssignTicket ticketId => exact autoAssignTicketService_joins
  | assignTicket ticketId assignedToId => exact assignTicketService_joins assignedToId
  | getTickets query => exact getTicketsService_joins query
  | getMyAgentTickets query => exact getMyAgentTicketsService_joins query
  | getTicketById ticketId => exact getTicketByIdService_joins
  | updateTicket ticketId ticketData => exact updateTicketService_joins ticketData
  | updateTicketStatus ticketId status => exact updateTicketStatusService_joins status
  | createTicketComment ticketId commentData => exact createTicketCommentService_joins commentData
  | getTicketComments ticketId => exact getTicketCommentsService_joins
  | getTicketActivities ticketId => exact getTicketActivitiesService_joins
  | deleteTicketComment ticketId commentId => exact deleteTicketCommentService_joins commentId
  | createTicketAttachment ticketId attachmentData =>
    exact createTicketAttachmentService_joins attachmentData
  | getTicketAttachments ticketId => exact getTicketAttachmentsService_joins
  | deleteTicketAttachment ticketId attachmentId =>
    exact deleteTicketAttachmentService_joins attachmentId
  | createTag organizationId name => exact nobody _ fun _ => rfl
  | getTags organizationId =>
    refine nobody _ fun tags => ?_
    exact List.flatMap_eq_nil_iff.mpr fun _ _ => rfl
  | addTicketTag ticketId tagId => exact nobody _ fun _ => rfl
  | deleteTicketTag ticketId tagId => exact nobody _ fun _ => rfl

/-- Of two states that differ in password hashes, an endpoint answers the same exactly where
nobody whose row it answers with has another hash. -/
theorem answers_agree_iff (endpoint : Endpoint) (world : World) (users' : List User)
    (same : SameButPasswords world.db.users users') :
    ((endpoint.answer locale userId).run (withUsers world users')).1 =
        ((endpoint.answer locale userId).run world).1 ↔
      ∀ id, endpoint.Exposes locale world userId id →
        passwordOf world.db id = passwordOf (withUsers world users').db id := by
  have found (id : Nat) : (lookup world.db.users id).isSome = (lookup users' id).isSome := by
    simpa using congrArg Option.isSome (same.lookup id)
  have swapped : Swapped world.db.users users' world (withUsers world users') := ⟨rfl, rfl⟩
  have exposed (id : Nat) : Joins (endpoint.answer locale userId) world id ↔
      endpoint.Exposes locale world userId id := by
    cases endpoint with
    | ticket call => exact answer_joins locale userId world id call
    | viewAllMembersInOrganization orgId => exact viewAllMembersInOrganizationService_joins orgId
  have blind : Blind world.db.users users' (endpoint.answer locale userId)
      (endpoint.answer locale userId) (Refilled world.db.users users') := by
    cases endpoint with
    | ticket call => exact answer_blind locale userId found call
    | viewAllMembersInOrganization orgId => exact getOrganizationMembersById_blind found orgId
  rw [blind.agree_iff found swapped]
  refine forall_congr' fun id => ?_
  rw [exposed id, same.same_iff id]
  rfl

end States

def hashedUsers (creator stranger : String) : List User :=
  [{ id := 1, email := "lead@a.example", password := creator },
    { id := 2, email := "agent@a.example", password := "$2b$10$agent" },
    { id := 3, email := "other@a.example", password := stranger }]

def hashedDesk (creator stranger : String) : World where
  db :=
    { users := hashedUsers creator stranger
      organizations := [{ id := 4, name := "A" }]
      orgRoles := [{ id := 5, name := "AGENT", organizationId := 4, permissions := []
                     level := 40 }]
      memberships := [{ id := 6, userId := 2, organizationId := 4, roleId := 5 }]
      tickets :=
        [{ id := 7, title := "Printer", organizationId := 4, createdById := 1
           assignedToId := some 2 }]
      nextId := 8 }

def zonedHours : Locale where
  startOfDay time := time / 86400 * 86400
  startOfWeek time := time / 604800 * 604800

/-- The assignee loads the ticket, whoever else has another hash. -/
theorem stranger_unseen :
    (((Endpoint.ticket (.getTicketById 7)).answer zonedHours 2).run
        (withUsers (hashedDesk "$2b$10$lead" "$2b$10$old")
          (hashedUsers "$2b$10$lead" "$2b$10$new"))).1 =
      (((Endpoint.ticket (.getTicketById 7)).answer zonedHours 2).run
        (hashedDesk "$2b$10$lead" "$2b$10$old")).1 := by
  refine (answers_agree_iff zonedHours 2 (.ticket (.getTicketById 7))
    (hashedDesk "$2b$10$lead" "$2b$10$old") (hashedUsers "$2b$10$lead" "$2b$10$new")
    (by rfl)).mpr ?_
  rintro id ⟨ticket, membership, admits, appears⟩
  obtain rfl := Option.some.inj admits.found
  obtain party | ⟨_, comment, -⟩ | ⟨_, activity, -⟩ := appears
  · have among : id = 1 ∨ id = 2 := by simpa [Joined.parties] using party
    obtain rfl | rfl := among <;> rfl
  · cases comment
  · cases activity

/-- The answer to the assignee carries the hash of the ticket's creator. -/
theorem assignee_reads_hash :
    ¬∀ (locale : Locale) (userId : Nat) (endpoint : Endpoint) (world : World)
      (users' : List User), SameButPasswords world.db.users users' →
        ((endpoint.answer locale userId).run (withUsers world users')).1 =
          ((endpoint.answer locale userId).run world).1 := by
  intro all
  have same := all zonedHours 2 (.ticket (.getTicketById 7))
    (hashedDesk "$2b$10$lead" "$2b$10$other") (hashedUsers "$2b$10$changed" "$2b$10$other") (by rfl)
  revert same
  decide +kernel

end HelpForge.Tickets
