import HelpForge.Tickets.Joined

set_option autoImplicit false

namespace HelpForge.Tickets

open Lib
open Joined (fill keys)

def lookup (users : List User) (id : Nat) : Option User := users.find? fun user => user.id == id

def Swapped (users users' : List User) (left right : World) : Prop :=
  left.db.users = users ∧ right = left.withDb fun db => { db with users := users' }

def Refilled {α : Type} [Joined α] (users users' : List User) (one other : α) : Prop :=
  -- The one value joins users of the first table, the other one those of the second.
  fill (lookup users) one = one ∧ other = fill (lookup users') one

section Rows

variable {users users' : List User}

section Swapped

variable {left right : World} (swapped : Swapped users users' left right)

include swapped

theorem Swapped.find : left.db.findUser = lookup users ∧ right.db.findUser = lookup users' := by
  obtain ⟨rfl, rfl⟩ := swapped
  exact ⟨rfl, rfl⟩

theorem Swapped.same {α : Type} (view : World → α)
    (apart : ∀ world table, view (world.withDb fun db => { db with users := table }) = view world) :
    view right = view left := by
  obtain ⟨-, rfl⟩ := swapped
  exact apart left users'

theorem Swapped.withDb (write : Database → Database)
    (apart : ∀ db table, write { db with users := table } = { write db with users := table }) :
    Swapped users users' (left.withDb write) (right.withDb write) := by
  obtain ⟨own, rfl⟩ := swapped
  constructor
  · have kept := congrArg Database.users (apart left.db left.db.users)
    exact kept.trans own
  · exact congrArg (fun db => { left with db }) (apart left.db users')

end Swapped

theorem refilled_map {α β : Type} [Joined β] (rows : List α) (join join' : α → β)
    (each : ∀ row, Refilled users users' (join row) (join' row)) :
    Refilled users users' (rows.map join) (rows.map join') := by
  constructor
  · change (rows.map join).map _ = _
    rw [List.map_map]
    exact List.map_congr_left fun row _ => (each row).1
  · change _ = (rows.map join).map _
    rw [List.map_map]
    exact List.map_congr_left fun row _ => (each row).2

theorem refilled_option {α β : Type} [Joined β] (row : Option α) (join join' : α → β)
    (each : ∀ row, Refilled users users' (join row) (join' row)) :
    Refilled users users' (row.map join) (row.map join') := by
  cases row with
  | none => exact ⟨rfl, rfl⟩
  | some row => exact ⟨congrArg some (each row).1, congrArg some (each row).2⟩

variable {left right : World} (swapped : Swapped users users' left right)
include swapped

theorem authored_refilled (comment : TicketComment) :
    Refilled users users' (authored left.db comment) (authored right.db comment) := by
  have ⟨find, find'⟩ := swapped.find
  unfold authored
  rw [find, find']
  exact ⟨rfl, rfl⟩

theorem acted_refilled (activity : TicketActivityLog) :
    Refilled users users' (acted left.db activity) (acted right.db activity) := by
  have ⟨find, find'⟩ := swapped.find
  unfold acted
  rw [find, find']
  exact ⟨rfl, rfl⟩

theorem uploaded_refilled (attachment : TicketAttachment) :
    Refilled users users' (uploaded left.db attachment) (uploaded right.db attachment) := by
  have ⟨find, find'⟩ := swapped.find
  unfold uploaded
  rw [find, find']
  exact ⟨rfl, rfl⟩

variable (ticket : Ticket)

theorem listed_refilled :
    Refilled users users' (listed left.db ticket) (listed right.db ticket) := by
  have ⟨find, find'⟩ := swapped.find
  obtain ⟨-, rfl⟩ := swapped
  unfold listed
  rw [find, find']
  exact ⟨rfl, rfl⟩

theorem agentListed_refilled :
    Refilled users users' (agentListed left.db ticket) (agentListed right.db ticket) := by
  have ⟨same, same'⟩ := listed_refilled swapped ticket
  obtain ⟨-, rfl⟩ := swapped
  exact ⟨congrArg (fun listed => AgentTicket.mk listed _) same,
    congrArg (fun listed => AgentTicket.mk listed _) same'⟩

theorem hydrated_refilled :
    Refilled users users' (hydrated left.db ticket) (hydrated right.db ticket) := by
  have ⟨find, find'⟩ := swapped.find
  have comments := refilled_map (commentsOf left.db ticket.id) _ _ (authored_refilled swapped)
  have activities := refilled_map (activitiesOf left.db ticket.id) _ _ (acted_refilled swapped)
  obtain ⟨-, rfl⟩ := swapped
  constructor
  · unfold hydrated
    rw [find]
    exact congrArg₂
      (fun comments activities => HydratedTicket.mk ticket _ _ _ comments _ _ activities)
      comments.1 activities.1
  · unfold hydrated
    rw [find, find']
    exact congrArg₂
      (fun comments activities => HydratedTicket.mk ticket _ _ _ comments _ _ activities)
      comments.2 activities.2

end Rows

section Statements

variable {users users' : List User}

def Blind {α β : Type} (users users' : List User) (first : Call α) (second : Call β)
    (values : α → β → Prop) : Prop :=
  -- The calls answer alike in the two states, up to the users that they join.
  Program.Related (Swapped users users') first second values

theorem blind_reads {α : Type} (view : World → α)
    (apart : ∀ world table, view (world.withDb fun db => { db with users := table }) = view world) :
    Blind users users' (Program.reads view) (Program.reads view) Eq := by
  apply Program.Related.reads
  rintro left right ⟨-, rfl⟩
  exact (apart left users').symm

theorem setCached_blind (membership : OrganizationMembership) :
    Blind users users' (Org.setCachedOrganizationMembership membership)
      (Org.setCachedOrganizationMembership membership) Eq := by
  apply Program.Related.modify
  · rintro left right ⟨own, rfl⟩
    exact ⟨own, rfl⟩
  · rfl

theorem membership_blind (organizationId userId : Nat) :
    Blind users users' (Org.getTicketOrganizationMembership organizationId userId)
      (Org.getTicketOrganizationMembership organizationId userId) Eq := by
  unfold Org.getTicketOrganizationMembership Blind
  apply Program.Related.bind (blind_reads _ fun _ _ => rfl)
  rintro cached _ rfl
  cases cached with
  | some cached => exact Program.Related.pure rfl
  | none =>
    apply Program.Related.bind (blind_reads _ fun _ _ => rfl)
    rintro membership _ rfl
    cases membership with
    | none => exact Program.Related.pure rfl
    | some membership =>
      apply Program.Related.bind (setCached_blind membership)
      rintro _ _ rfl
      exact Program.Related.pure rfl

theorem blind_rows {α : Type} [Joined α] (view : World → α)
    (joins : ∀ left right, Swapped users users' left right →
      Refilled users users' (view left) (view right)) :
    Blind users users' (Program.reads view) (Program.reads view) (Refilled users users') :=
  Program.Related.reads joins

variable (ticketId : Nat)

theorem getTicketById_blind :
    Blind users users' (getTicketById ticketId) (getTicketById ticketId)
      (Refilled users users') := by
  apply blind_rows
  intro left right swapped
  have found := refilled_option (left.db.findTicket ticketId) _ _ (hydrated_refilled swapped)
  obtain ⟨-, rfl⟩ := swapped
  exact found

variable (filters : TicketFilters)

theorem getTickets_blind :
    Blind users users' (getTickets filters) (getTickets filters) (Refilled users users') := by
  apply blind_rows
  intro left right swapped
  have rows := refilled_map (matching left.db filters) _ _ (listed_refilled swapped)
  obtain ⟨-, rfl⟩ := swapped
  exact rows

theorem getAgentTickets_blind :
    Blind users users' (getAgentTickets filters) (getAgentTickets filters)
      (Refilled users users') := by
  apply blind_rows
  intro left right swapped
  have rows := refilled_map (matching left.db filters) _ _ (agentListed_refilled swapped)
  obtain ⟨-, rfl⟩ := swapped
  exact rows

theorem getTicketComments_blind :
    Blind users users' (getTicketComments ticketId) (getTicketComments ticketId)
      (Refilled users users') := by
  apply blind_rows
  intro left right swapped
  have rows := refilled_map (byCreatedAt (·.createdAt) (commentsOf left.db ticketId)) _ _
    (authored_refilled swapped)
  obtain ⟨-, rfl⟩ := swapped
  exact rows

theorem getTicketActivities_blind :
    Blind users users' (getTicketActivities ticketId) (getTicketActivities ticketId)
      (Refilled users users') := by
  apply blind_rows
  intro left right swapped
  have rows := refilled_map (byCreatedAt (·.createdAt) (activitiesOf left.db ticketId)) _ _
    (acted_refilled swapped)
  obtain ⟨-, rfl⟩ := swapped
  exact rows

theorem getTicketAttachments_blind :
    Blind users users' (getTicketAttachments ticketId) (getTicketAttachments ticketId)
      (Refilled users users') := by
  apply blind_rows
  intro left right swapped
  have rows := refilled_map (byCreatedAt (·.createdAt) (attachmentsOf left.db ticketId)) _ _
    (uploaded_refilled swapped)
  obtain ⟨-, rfl⟩ := swapped
  exact rows

theorem onTicket_refilled {α : Type} [Joined α] {left right : World}
    (swapped : Swapped users users' left right) (row row' : α) (ticketId : Nat)
    (refilled : Refilled users users' row row') :
    Refilled users users' (onTicket left.db row ticketId) (onTicket right.db row' ticketId) := by
  obtain ⟨-, rfl⟩ := swapped
  exact ⟨congrArg (fun row => OnTicket.mk row _) refilled.1,
    congrArg (fun row => OnTicket.mk row _) refilled.2⟩

theorem getTicketCommentById_blind (commentId : Nat) :
    Blind users users' (getTicketCommentById commentId) (getTicketCommentById commentId)
      (Refilled users users') := by
  apply blind_rows
  intro left right swapped
  have found := refilled_option (findComment left.db commentId) _ _ fun comment =>
    onTicket_refilled swapped _ _ comment.ticketId (authored_refilled swapped comment)
  obtain ⟨-, rfl⟩ := swapped
  exact found

variable (attachmentId : Nat)

theorem getTicketAttachmentById_blind :
    Blind users users' (getTicketAttachmentById attachmentId)
      (getTicketAttachmentById attachmentId) (Refilled users users') := by
  apply blind_rows
  intro left right swapped
  have found := refilled_option (findAttachment left.db attachmentId) _ _ fun attachment =>
    onTicket_refilled swapped _ _ attachment.ticketId (uploaded_refilled swapped attachment)
  obtain ⟨-, rfl⟩ := swapped
  exact found

theorem deleteTicketComment_blind (commentId : Nat) :
    Blind users users' (deleteTicketComment commentId) (deleteTicketComment commentId)
      (Refilled users users') := by
  apply Program.Related.attempt
  intro left right swapped
  rw [show findComment right.db commentId = findComment left.db commentId from
    swapped.same (fun world => findComment world.db commentId) fun _ _ => rfl]
  cases findComment left.db commentId with
  | none => rfl
  | some comment =>
    exact ⟨onTicket_refilled swapped _ _ comment.ticketId (authored_refilled swapped comment),
      swapped.withDb _ fun _ _ => rfl⟩

theorem deleteTicketAttachment_blind :
    Blind users users' (deleteTicketAttachment attachmentId) (deleteTicketAttachment attachmentId)
      (Refilled users users') := by
  apply Program.Related.attempt
  intro left right swapped
  rw [show findAttachment right.db attachmentId = findAttachment left.db attachmentId from
    swapped.same (fun world => findAttachment world.db attachmentId) fun _ _ => rfl]
  cases findAttachment left.db attachmentId with
  | none => rfl
  | some attachment =>
    exact ⟨onTicket_refilled swapped _ _ attachment.ticketId (uploaded_refilled swapped attachment),
      swapped.withDb _ fun _ _ => rfl⟩

variable (same : ∀ id, (lookup users id).isSome = (lookup users' id).isSome)
include same

theorem findUser_blind {left right : World} (swapped : Swapped users users' left right) (id : Nat) :
    (right.db.findUser id).isSome = (left.db.findUser id).isSome := by
  have ⟨find, find'⟩ := swapped.find
  rw [find, find', same]

theorem keysResolve_blind {left right : World} (swapped : Swapped users users' left right)
    (ticket : Ticket) : keysResolve right.db ticket = keysResolve left.db ticket := by
  have organizations := swapped.same (fun world => world.db.findOrganization ticket.organizationId)
    fun _ _ => rfl
  simp only [keysResolve, findUser_blind same swapped, organizations]

theorem createTicket_blind (data : TicketData) (createdById : Nat) :
    Blind users users' (createTicket data createdById) (createTicket data createdById)
      (Refilled users users') := by
  apply Program.Related.attempt
  intro left right swapped
  have drawn := swapped.same (newTicket · data createdById) fun _ _ => rfl
  simp only [drawn, keysResolve_blind same swapped]
  split_ifs
  · have written := swapped.withDb (insertTicket (newTicket left data createdById)) fun _ _ => rfl
    exact ⟨listed_refilled written _, written⟩
  · rfl

theorem writeTicket_blind (ticketId : Nat) (change : Ticket → Ticket)
    (activity : Option (Nat × TicketActivityAction)) :
    Blind users users' (writeTicket ticketId change activity)
      (writeTicket ticketId change activity) (Refilled users users') := by
  apply Program.Related.attempt
  intro left right swapped
  have tickets := swapped.same (fun world => world.db.findTicket ticketId) fun _ _ => rfl
  have now := swapped.same World.now fun _ _ => rfl
  simp only [tickets, now, keysResolve_blind same swapped, findUser_blind same swapped]
  cases left.db.findTicket ticketId with
  | none => rfl
  | some ticket =>
    dsimp only
    split_ifs
    · have written := swapped.withDb (fun db => logOwn left.now ticketId activity
        (storeTicket ticketId { change ticket with updatedAt := left.now } db)) (by
          intro db table
          cases activity <;> rfl)
      exact ⟨hydrated_refilled written _, written⟩
    · rfl

theorem createTicketActivityLog_blind (ticketId actorId : Nat) (action : TicketActivityAction)
    (oldValue newValue : Option String) :
    Blind users users' (createTicketActivityLog ticketId actorId action oldValue newValue)
      (createTicketActivityLog ticketId actorId action oldValue newValue) Eq := by
  apply Program.Related.attempt
  intro left right swapped
  have tickets := swapped.same (fun world => world.db.findTicket ticketId) fun _ _ => rfl
  have now := swapped.same World.now fun _ _ => rfl
  have nextId := swapped.same (fun world => world.db.nextId) fun _ _ => rfl
  simp only [tickets, now, nextId, findUser_blind same swapped]
  split_ifs
  · exact ⟨rfl, swapped.withDb _ fun _ _ => rfl⟩
  · rfl

theorem countAssignment_blind (organizationId agentUserId : Nat) :
    Blind users users' (countAssignment organizationId agentUserId)
      (countAssignment organizationId agentUserId) Eq := by
  apply Program.Related.attempt
  intro left right swapped
  have workloads := swapped.same (fun world => world.db.agentWorkloads) fun _ _ => rfl
  have organizations := swapped.same (fun world => world.db.findOrganization organizationId)
    fun _ _ => rfl
  have now := swapped.same World.now fun _ _ => rfl
  simp only [workloads, organizations, now, findUser_blind same swapped]
  split_ifs
  · exact ⟨trivial, swapped.withDb _ fun _ _ => rfl⟩
  · exact ⟨trivial, swapped.withDb _ fun _ _ => rfl⟩
  · rfl

theorem createTicketComment_blind (ticketId authorId : Nat) (data : CommentData) :
    Blind users users' (createTicketComment ticketId authorId data)
      (createTicketComment ticketId authorId data) (Refilled users users') := by
  apply Program.Related.attempt
  intro left right swapped
  have tickets := swapped.same (fun world => world.db.findTicket ticketId) fun _ _ => rfl
  have drawn := swapped.same (newComment · ticketId authorId data) fun _ _ => rfl
  simp only [tickets, drawn, findUser_blind same swapped]
  split_ifs
  · exact ⟨onTicket_refilled swapped _ _ ticketId (authored_refilled swapped _),
      swapped.withDb _ fun _ _ => rfl⟩
  · rfl

theorem createTicketAttachment_blind (ticketId uploadedBy : Nat) (data : AttachmentData) :
    Blind users users' (createTicketAttachment ticketId uploadedBy data)
      (createTicketAttachment ticketId uploadedBy data) (Refilled users users') := by
  apply Program.Related.attempt
  intro left right swapped
  have tickets := swapped.same (fun world => world.db.findTicket ticketId) fun _ _ => rfl
  have drawn := swapped.same (newAttachment · ticketId uploadedBy data) fun _ _ => rfl
  simp only [tickets, drawn, findUser_blind same swapped]
  split_ifs
  · exact ⟨onTicket_refilled swapped _ _ ticketId (uploaded_refilled swapped _),
      swapped.withDb _ fun _ _ => rfl⟩
  · rfl

theorem members_refilled (memberships : List Membership) (db : Database) :
    Refilled users users'
      (memberships.filterMap fun membership =>
        (db.withRole membership).bind fun joined =>
          (lookup users membership.userId).map fun user =>
            ({ joined with user } : Org.OrganizationMember))
      (memberships.filterMap fun membership =>
        (db.withRole membership).bind fun joined =>
          (lookup users' membership.userId).map fun user => { joined with user }) := by
  induction memberships with
  | nil => exact ⟨rfl, rfl⟩
  | cons membership memberships ih =>
    simp only [List.filterMap_cons, Database.withRole]
    cases db.findOrgRole membership.roleId with
    | none => exact ih
    | some role =>
      have alike := same membership.userId
      cases found : lookup users membership.userId <;>
        cases found' : lookup users' membership.userId <;>
        simp only [found, found', Option.isSome_none, Option.isSome_some, Bool.true_eq_false,
          Bool.false_eq_true] at alike
      · exact ih
      · rename_i own other
        have first : (lookup users membership.userId).getD own = own := by simp [found]
        have second : (lookup users' membership.userId).getD own = other := by simp [found']
        let member (user : User) : Org.OrganizationMember :=
          { toMembership := membership, role, user }
        exact ⟨congrArg₂ List.cons (congrArg member first) ih.1,
          congrArg₂ List.cons (congrArg member second).symm ih.2⟩

theorem getOrganizationMembersById_blind (orgId : Nat) :
    Blind users users' (Org.getOrganizationMembersById orgId)
      (Org.getOrganizationMembersById orgId) (Refilled users users') := by
  apply blind_rows
  intro left right swapped
  have ⟨find, find'⟩ := swapped.find
  have memberships := swapped.same (fun world => world.db.memberships) fun _ _ => rfl
  have joined := swapped.same (fun world => world.db.withRole) fun _ _ => rfl
  simp only [memberships, joined, find, find']
  exact members_refilled same _ left.db

end Statements

end HelpForge.Tickets
