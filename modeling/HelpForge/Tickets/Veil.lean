import HelpForge.Tickets.ActivityLog
import HelpForge.Tickets.Visibility

set_option autoImplicit false

namespace HelpForge.Tickets

open Lib
open Lib.Program (Related)

def veiled (comment : TicketComment) : TicketComment :=
  { comment with message := if comment.isInternal then "" else comment.message }

def AuthoredComment.veiled (comment : AuthoredComment) : AuthoredComment :=
  { comment with message := if comment.isInternal then "" else comment.message }

def HydratedTicket.veiled (ticket : HydratedTicket) : HydratedTicket :=
  { ticket with comments := ticket.comments.map AuthoredComment.veiled }

def veiledRow (comment : OnTicket AuthoredComment) : OnTicket AuthoredComment :=
  { comment with row := comment.row.veiled }

def veilDb (db : Database) : Database := { db with ticketComments := db.ticketComments.map veiled }

def veil (world : World) : World := world.withDb veilDb

theorem AuthoredComment.veiled_open {comment : AuthoredComment}
    (shown : comment.isInternal = false) : comment.veiled = comment := by
  have kept : (if comment.isInternal then "" else comment.message) = comment.message := by
    simp [shown]
  exact congrArg (fun message => { comment with message }) kept

theorem filterCommentsForRole_veiled (comments : List AuthoredComment) (role : OrgRole) :
    filterCommentsForRole (comments.map AuthoredComment.veiled) role =
      (filterCommentsForRole comments role).map AuthoredComment.veiled := by
  unfold filterCommentsForRole
  split_ifs
  · rfl
  · rw [List.filter_map]
    rfl

theorem filterInternalCommentsForRole_veiled (ticket : HydratedTicket) (role : OrgRole) :
    filterInternalCommentsForRole ticket.veiled role =
      (filterInternalCommentsForRole ticket role).veiled := by
  have comments :
      (ticket.comments.map AuthoredComment.veiled).filter (fun comment => !comment.isInternal) =
        (ticket.comments.filter fun comment => !comment.isInternal).map AuthoredComment.veiled :=
    List.filter_map
  unfold filterInternalCommentsForRole
  split_ifs
  · rfl
  · exact congrArg (fun comments => { ticket with comments }) comments

variable {role : OrgRole}

theorem filterCommentsForRole_hides (denied : canViewAllOrganizationTickets role = false)
    (comments : List AuthoredComment) :
    (filterCommentsForRole comments role).map AuthoredComment.veiled =
      filterCommentsForRole comments role := by
  -- A role that is denied the internal comments has nothing veiled from it.
  have kept (comment : AuthoredComment) (among : comment ∈ filterCommentsForRole comments role) :
      comment.veiled = id comment := by
    unfold filterCommentsForRole at among
    rw [denied, if_neg Bool.false_ne_true] at among
    exact AuthoredComment.veiled_open (by simpa using (List.mem_filter.mp among).2)
  exact (List.map_congr_left kept).trans (List.map_id _)

theorem filterInternalCommentsForRole_hides (denied : canViewAllOrganizationTickets role = false)
    (ticket : HydratedTicket) :
    (filterInternalCommentsForRole ticket role).veiled =
      filterInternalCommentsForRole ticket role := by
  have comments := filterCommentsForRole_hides denied ticket.comments
  unfold filterCommentsForRole at comments
  unfold filterInternalCommentsForRole
  rw [denied, if_neg Bool.false_ne_true] at comments ⊢
  exact congrArg (fun comments => { ticket with comments }) comments

section Rows

variable (db : Database) (ticketId : Nat)

theorem commentsOf_veilDb :
    commentsOf (veilDb db) ticketId = (commentsOf db ticketId).map veiled := by
  unfold commentsOf veilDb
  rw [List.filter_map]
  rfl

theorem authored_veilDb (rows : List TicketComment) :
    (rows.map veiled).map (authored (veilDb db)) =
      (rows.map (authored db)).map AuthoredComment.veiled := by
  rw [List.map_map, List.map_map]
  rfl

theorem sorted_veiled (comments : List TicketComment) :
    byCreatedAt (·.createdAt) (comments.map veiled) =
      (byCreatedAt (·.createdAt) comments).map veiled := by
  apply Eq.symm
  apply List.map_insertionSort
  intro first _ second _
  exact Iff.rfl

theorem listed_veilDb :
    (byCreatedAt (·.createdAt) (commentsOf (veilDb db) ticketId)).map (authored (veilDb db)) =
      ((byCreatedAt (·.createdAt) (commentsOf db ticketId)).map (authored db)).map
        AuthoredComment.veiled := by
  rw [commentsOf_veilDb, sorted_veiled, authored_veilDb]

theorem hydrated_veilDb (ticket : Ticket) :
    hydrated (veilDb db) ticket = (hydrated db ticket).veiled := by
  unfold hydrated
  rw [commentsOf_veilDb, authored_veilDb]
  rfl

variable (commentId : Nat)

theorem findComment_veilDb :
    findComment (veilDb db) commentId = (findComment db commentId).map veiled := by
  unfold findComment veilDb
  rw [List.find?_map]
  rfl

theorem dropComment_veilDb :
    dropComment commentId (veilDb db) = veilDb (dropComment commentId db) := by
  unfold dropComment veilDb
  dsimp only
  rw [List.filter_map]
  rfl

def storedRole (organizationId userId : Nat) : Option OrgRole :=
  -- The role of a member in the tables.
  (db.findMembership organizationId userId).bind fun membership => db.findOrgRole membership.roleId

end Rows

def Current (world : World) : Prop :=
  -- The copies of memberships have the roles that are stored.
  ∀ organizationId userId copy, world.membershipCache organizationId userId = some copy →
    storedRole world.db organizationId userId = some copy.role

variable {world : World}

theorem Current.seen (current : Current world) {organizationId userId : Nat}
    {membership : OrganizationMembership}
    (seen : seenMembership world organizationId userId = some membership) :
    storedRole world.db organizationId userId = some membership.role := by
  unfold seenMembership at seen
  cases hit : world.membershipCache organizationId userId with
  | some copy =>
    rw [hit, Option.some_or, Option.some.injEq] at seen
    rw [← seen]
    exact current organizationId userId copy hit
  | none =>
    rw [hit, Option.none_or] at seen
    obtain ⟨row, stored, view⟩ := Option.bind_eq_some_iff.mp seen
    obtain ⟨role, found, rfl⟩ := Option.map_eq_some_iff.mp view
    rw [storedRole, stored]
    exact found

structure Veiled (stored : Nat → Nat → Option OrgRole) (left right : World) : Prop where
  hidden : right = veil left
  roles : storedRole left.db = stored
  current : Current left

variable {α : Type}

section Statements

variable {stored : Nat → Nat → Option OrgRole} {left right : World}

theorem afterLooking_veil (world : World) (organizationId userId : Nat) :
    afterLooking (veil world) organizationId userId =
      veil (afterLooking world organizationId userId) := by
  have cached : (veil world).membershipCache = world.membershipCache := rfl
  have joined :
      ((veil world).db.findMembership organizationId userId).bind (veil world).db.withRole =
        (world.db.findMembership organizationId userId).bind world.db.withRole := rfl
  unfold afterLooking
  rw [cached, joined]
  cases world.membershipCache organizationId userId with
  | some copy => rfl
  | none => cases (world.db.findMembership organizationId userId).bind world.db.withRole <;> rfl

theorem Current.looked (current : Current world) (organizationId userId : Nat) :
    Current (afterLooking world organizationId userId) := by
  intro place user copy there
  rw [afterLooking_db]
  unfold afterLooking at there
  cases hit : world.membershipCache organizationId userId with
  | some other =>
    rw [hit] at there
    exact current place user copy there
  | none =>
    rw [hit] at there
    cases found : (world.db.findMembership organizationId userId).bind world.db.withRole with
    | none =>
      rw [found] at there
      exact current place user copy there
    | some membership =>
      rw [found] at there
      obtain ⟨row, there', view⟩ := Option.bind_eq_some_iff.mp found
      obtain ⟨role, known, rfl⟩ := Option.map_eq_some_iff.mp view
      obtain ⟨-, owner, place'⟩ := Database.findMembership_mem _ _ _ _ there'
      simp only [World.putMembership] at there
      split_ifs at there with own
      · cases there
        obtain ⟨rfl, rfl⟩ := own
        rw [storedRole, place', owner, there']
        exact known
      · exact current place user copy there

abbrev Veils {α β : Type} (stored : Nat → Nat → Option OrgRole) (first : Call α) (second : Call β)
    (values : α → β → Prop) : Prop :=
  -- The two calls, from a state and from the veiled one.
  Related (Veiled stored) first second values

variable (view : World → α)

theorem veils_reads (f : α → α) (apart : ∀ world, view (veil world) = f (view world)) :
    Veils stored (Program.reads view) (Program.reads view) fun one other => other = f one := by
  apply Related.reads
  rintro left right ⟨rfl, -, -⟩
  exact apart left

theorem veils_looks (apart : ∀ world, view (veil world) = view world) :
    Veils stored (Program.reads view) (Program.reads view) Eq := by
  apply Related.reads
  rintro left right ⟨rfl, -, -⟩
  exact (apart left).symm

variable (body : World → Except ServiceError (α × World))

theorem veils_attempt (f : α → α)
    (apart : ∀ world, body (veil world) =
      (body world).map fun outcome => (f outcome.1, veil outcome.2))
    (kept : ∀ world value reached, body world = .ok (value, reached) →
      storedRole reached.db = storedRole world.db ∧
        reached.membershipCache = world.membershipCache) :
    Veils stored (Program.attempt body) (Program.attempt body) fun one other => other = f one := by
  -- A statement that writes beside the comments, and not to the memberships and their roles.
  apply Related.attempt
  rintro left right ⟨rfl, roles, current⟩
  rw [apart]
  rcases outcome : body left with failure | ⟨value, reached⟩
  · rfl
  · obtain ⟨same, copies⟩ := kept left value reached outcome
    refine ⟨rfl, rfl, same.trans roles, ?_⟩
    intro organizationId userId copy there
    rw [same]
    exact current organizationId userId copy (copies ▸ there)

theorem veils_writes
    (apart : ∀ world, body (veil world) =
      (body world).map fun outcome => (outcome.1, veil outcome.2))
    (kept : ∀ world value reached, body world = .ok (value, reached) →
      storedRole reached.db = storedRole world.db ∧
        reached.membershipCache = world.membershipCache) :
    Veils stored (Program.attempt body) (Program.attempt body) Eq :=
  (veils_attempt body id apart kept).mono fun _ _ => Eq.symm

theorem membership_veils (organizationId userId : Nat) :
    Veils stored (Org.getTicketOrganizationMembership organizationId userId)
      (Org.getTicketOrganizationMembership organizationId userId) Eq := by
  rintro left right ⟨rfl, roles, current⟩
  rw [run_getTicketOrganizationMembership, run_getTicketOrganizationMembership]
  refine ⟨rfl, afterLooking_veil .., ?_, current.looked organizationId userId⟩
  rw [afterLooking_db]
  exact roles

variable (ticketId : Nat)

theorem getTicketById_veils :
    Veils stored (getTicketById ticketId) (getTicketById ticketId)
      fun one other => other = one.map HydratedTicket.veiled := by
  apply veils_reads
  intro world
  change (world.db.findTicket ticketId).map (hydrated (veilDb world.db)) = _
  rw [Option.map_map]
  exact Option.map_congr fun ticket _ => hydrated_veilDb world.db ticket

theorem getTicketComments_veils :
    Veils stored (getTicketComments ticketId) (getTicketComments ticketId)
      fun one other => other = one.map AuthoredComment.veiled := by
  apply veils_reads
  intro world
  exact listed_veilDb world.db ticketId

theorem createTicket_veils (data : TicketData) (createdById : Nat) :
    Veils stored (createTicket data createdById) (createTicket data createdById)
      Eq := by
  apply veils_writes
  · intro world
    have keys (ticket : Ticket) : keysResolve (veil world).db ticket =
        keysResolve world.db ticket := rfl
    have drawn : newTicket (veil world) data createdById = newTicket world data createdById := rfl
    simp only [keys, drawn]
    split_ifs <;> rfl
  · intro world value reached done
    simp only at done
    split_ifs at done
    cases done
    exact ⟨rfl, rfl⟩

theorem writeTicket_veils (change : Ticket → Ticket)
    (activity : Option (Nat × TicketActivityAction)) :
    Veils stored (writeTicket ticketId change activity) (writeTicket ticketId change activity)
      fun one other => other = one.veiled := by
  have logged (now : Nat) (written : Ticket) (db : Database) :
      logOwn now ticketId activity (storeTicket ticketId written (veilDb db)) =
        veilDb (logOwn now ticketId activity (storeTicket ticketId written db)) := by
    cases activity <;> rfl
  apply veils_attempt
  · intro world
    have found : (veil world).db.findTicket ticketId = world.db.findTicket ticketId := rfl
    have keys (ticket : Ticket) : keysResolve (veil world).db ticket =
        keysResolve world.db ticket := rfl
    have users : (veil world).db.findUser = world.db.findUser := rfl
    have now : (veil world).now = world.now := rfl
    simp only [found, keys, users, now]
    cases world.db.findTicket ticketId with
    | none => rfl
    | some ticket =>
      dsimp only
      -- What is written does not matter here, only that it is written to the tickets.
      generalize ({ change ticket with updatedAt := world.now } : Ticket) = written
      have same : ((veil world).withDb fun db => logOwn world.now ticketId activity
            (storeTicket ticketId written db)) =
          veil (world.withDb fun db => logOwn world.now ticketId activity
            (storeTicket ticketId written db)) :=
        congrArg (fun db => { world with db }) (logged world.now written world.db)
      rw [same]
      split_ifs
      · exact congrArg (fun row => Except.ok (row, _)) (hydrated_veilDb _ _)
      · rfl
  · intro world value reached done
    dsimp only at done
    split at done
    · cases done
    · split_ifs at done
      cases done
      cases activity <;> exact ⟨rfl, rfl⟩

theorem createTicketActivityLog_veils (actorId : Nat) (action : TicketActivityAction)
    (oldValue newValue : Option String) :
    Veils stored (createTicketActivityLog ticketId actorId action oldValue newValue)
      (createTicketActivityLog ticketId actorId action oldValue newValue)
      Eq := by
  apply veils_writes
  · intro world
    have found : (veil world).db.findTicket ticketId = world.db.findTicket ticketId := rfl
    have users : (veil world).db.findUser actorId = world.db.findUser actorId := rfl
    simp only [found, users]
    split_ifs <;> rfl
  · intro world value reached done
    dsimp only at done
    split_ifs at done
    cases done
    exact ⟨rfl, rfl⟩

theorem countAssignment_veils (organizationId agentUserId : Nat) :
    Veils stored (countAssignment organizationId agentUserId)
      (countAssignment organizationId agentUserId) Eq := by
  apply veils_writes
  · intro world
    have workloads : (veil world).db.agentWorkloads = world.db.agentWorkloads := rfl
    have users : (veil world).db.findUser agentUserId = world.db.findUser agentUserId := rfl
    have place : (veil world).db.findOrganization organizationId =
        world.db.findOrganization organizationId := rfl
    simp only [workloads, users, place]
    split_ifs <;> rfl
  · intro world value reached done
    split_ifs at done <;> cases done <;> exact ⟨rfl, rfl⟩

theorem createTicketAttachment_veils (uploadedBy : Nat) (data : AttachmentData) :
    Veils stored (createTicketAttachment ticketId uploadedBy data)
      (createTicketAttachment ticketId uploadedBy data) Eq := by
  apply veils_writes
  · intro world
    have found : (veil world).db.findTicket ticketId = world.db.findTicket ticketId := rfl
    have users : (veil world).db.findUser uploadedBy = world.db.findUser uploadedBy := rfl
    simp only [found, users]
    split_ifs <;> rfl
  · intro world value reached done
    dsimp only at done
    split_ifs at done
    cases done
    exact ⟨rfl, rfl⟩

theorem deleteTicketAttachment_veils (attachmentId : Nat) :
    Veils stored (deleteTicketAttachment attachmentId) (deleteTicketAttachment attachmentId)
      Eq := by
  apply veils_writes
  · intro world
    have found : findAttachment (veil world).db attachmentId =
        findAttachment world.db attachmentId := rfl
    simp only [found]
    cases findAttachment world.db attachmentId <;> rfl
  · intro world value reached done
    split at done <;> cases done
    exact ⟨rfl, rfl⟩

theorem createTag_veils (organizationId : Nat) (name : String) :
    Veils stored (createTag organizationId name) (createTag organizationId name)
      Eq := by
  apply veils_writes
  · intro world
    have tags : (veil world).db.tags = world.db.tags := rfl
    have place : (veil world).db.findOrganization organizationId =
        world.db.findOrganization organizationId := rfl
    simp only [tags, place]
    split_ifs <;> rfl
  · intro world value reached done
    dsimp only at done
    split_ifs at done
    cases done
    exact ⟨rfl, rfl⟩

theorem addTagToTicket_veils (tagId : Nat) :
    Veils stored (addTagToTicket ticketId tagId) (addTagToTicket ticketId tagId)
      Eq := by
  apply veils_writes
  · intro world
    have there : hasTag (veil world).db ticketId tagId = hasTag world.db ticketId tagId := rfl
    have found : (veil world).db.findTicket ticketId = world.db.findTicket ticketId := rfl
    have tags : (veil world).db.tags = world.db.tags := rfl
    simp only [there, found, tags]
    split_ifs <;> rfl
  · intro world value reached done
    split_ifs at done
    cases done
    exact ⟨rfl, rfl⟩

theorem deleteTicketTag_veils (tagId : Nat) :
    Veils stored (deleteTicketTag ticketId tagId) (deleteTicketTag ticketId tagId)
      Eq := by
  apply veils_writes
  · intro world
    have there : hasTag (veil world).db ticketId tagId = hasTag world.db ticketId tagId := rfl
    simp only [there]
    split_ifs <;> rfl
  · intro world value reached done
    split_ifs at done
    cases done
    exact ⟨rfl, rfl⟩

theorem createTicketComment_veils (authorId : Nat) (data : CommentData)
    (shown : data.isInternal = false) :
    Veils stored (createTicketComment ticketId authorId data)
      (createTicketComment ticketId authorId data) Eq := by
  -- A comment that is not internal is stored with its text.
  apply veils_writes
  · intro world
    have found : (veil world).db.findTicket ticketId = world.db.findTicket ticketId := rfl
    have users : (veil world).db.findUser authorId = world.db.findUser authorId := rfl
    have same : veiled (newComment world ticketId authorId data) =
        newComment world ticketId authorId data := by
      simp [veiled, newComment, shown]
    simp only [found, users]
    split_ifs
    · have stored : insertComment (newComment world ticketId authorId data) (veilDb world.db) =
          veilDb (insertComment (newComment world ticketId authorId data) world.db) := by
        simp [insertComment, veilDb, same]
      exact congrArg (fun db => Except.ok (_, { world with db })) stored
    · rfl
  · intro world value reached done
    dsimp only at done
    split_ifs at done
    cases done
    exact ⟨rfl, rfl⟩

theorem deleteTicketComment_veils (commentId : Nat) :
    Veils stored (deleteTicketComment commentId) (deleteTicketComment commentId)
      fun one other => other = veiledRow one := by
  apply veils_attempt
  · intro world
    have found : findComment (veil world).db commentId =
        (findComment world.db commentId).map veiled := findComment_veilDb world.db commentId
    simp only [found]
    cases findComment world.db commentId with
    | none => rfl
    | some comment =>
      exact congrArg (fun db => Except.ok (_, { world with db }))
        (dropComment_veilDb world.db commentId)
  · intro world value reached done
    split at done <;> cases done
    exact ⟨rfl, rfl⟩

end Statements

end HelpForge.Tickets
