import HelpForge.Tickets.Blindness
import HelpForge.Tickets.Tenants
import HelpForge.Tickets.Visibility

set_option autoImplicit false

namespace HelpForge.Tickets

open Lib
open Program (run_attempt run_bind run_recover)
open Lib.Program (Related)
open Joined (fill keys parties)

abbrev TicketCall.Answer : TicketCall → Type
  | createTicket _ => CreatedTicket
  | autoAssignTicket _ => HydratedTicket
  | assignTicket _ _ => HydratedTicket
  | getTickets _ => List ListedTicket
  | getMyAgentTickets _ => List AgentTicket
  | getTicketById _ => HydratedTicket
  | updateTicket _ _ => HydratedTicket
  | updateTicketStatus _ _ => HydratedTicket
  | createTicketComment _ _ => OnTicket AuthoredComment
  | getTicketComments _ => List AuthoredComment
  | getTicketActivities _ => List ActedActivity
  | deleteTicketComment _ _ => OnTicket AuthoredComment
  | createTicketAttachment _ _ => OnTicket UploadedAttachment
  | getTicketAttachments _ => List UploadedAttachment
  | deleteTicketAttachment _ _ => OnTicket UploadedAttachment
  | createTag _ _ => Tag
  | getTags _ => List Tag
  | addTicketTag _ _ => OnTicket NamedTicketTag
  | deleteTicketTag _ _ => OnTicket NamedTicketTag

instance : (call : TicketCall) → Joined call.Answer
  | .createTicket _ => inferInstanceAs (Joined CreatedTicket)
  | .autoAssignTicket _ => inferInstanceAs (Joined HydratedTicket)
  | .assignTicket _ _ => inferInstanceAs (Joined HydratedTicket)
  | .getTickets _ => inferInstanceAs (Joined (List ListedTicket))
  | .getMyAgentTickets _ => inferInstanceAs (Joined (List AgentTicket))
  | .getTicketById _ => inferInstanceAs (Joined HydratedTicket)
  | .updateTicket _ _ => inferInstanceAs (Joined HydratedTicket)
  | .updateTicketStatus _ _ => inferInstanceAs (Joined HydratedTicket)
  | .createTicketComment _ _ => inferInstanceAs (Joined (OnTicket AuthoredComment))
  | .getTicketComments _ => inferInstanceAs (Joined (List AuthoredComment))
  | .getTicketActivities _ => inferInstanceAs (Joined (List ActedActivity))
  | .deleteTicketComment _ _ => inferInstanceAs (Joined (OnTicket AuthoredComment))
  | .createTicketAttachment _ _ => inferInstanceAs (Joined (OnTicket UploadedAttachment))
  | .getTicketAttachments _ => inferInstanceAs (Joined (List UploadedAttachment))
  | .deleteTicketAttachment _ _ => inferInstanceAs (Joined (OnTicket UploadedAttachment))
  | .createTag _ _ => inferInstanceAs (Joined Tag)
  | .getTags _ => inferInstanceAs (Joined (List Tag))
  | .addTicketTag _ _ => inferInstanceAs (Joined (OnTicket NamedTicketTag))
  | .deleteTicketTag _ _ => inferInstanceAs (Joined (OnTicket NamedTicketTag))

section Answers

variable (locale : Locale) (userId : Nat)

def TicketCall.answer : (call : TicketCall) → Call call.Answer
  -- The service of the call, with its answer.
  | createTicket ticketData => createTicketService locale ticketData userId
  | autoAssignTicket ticketId => autoAssignTicketService locale ticketId userId
  | assignTicket ticketId assignedToId => assignTicketService ticketId assignedToId userId
  | getTickets query => getTicketsService query userId
  | getMyAgentTickets query => getMyAgentTicketsService query userId
  | getTicketById ticketId => getTicketByIdService ticketId userId
  | updateTicket ticketId ticketData => updateTicketService ticketId ticketData userId
  | updateTicketStatus ticketId status => updateTicketStatusService ticketId status userId
  | createTicketComment ticketId commentData =>
    createTicketCommentService ticketId commentData userId
  | getTicketComments ticketId => getTicketCommentsService ticketId userId
  | getTicketActivities ticketId => getTicketActivitiesService ticketId userId
  | deleteTicketComment ticketId commentId => deleteTicketCommentService ticketId commentId userId
  | createTicketAttachment ticketId attachmentData =>
    createTicketAttachmentService ticketId attachmentData userId
  | getTicketAttachments ticketId => getTicketAttachmentsService ticketId userId
  | deleteTicketAttachment ticketId attachmentId =>
    deleteTicketAttachmentService ticketId attachmentId userId
  | createTag organizationId name => createTagService organizationId name userId
  | getTags organizationId => getTagsService organizationId userId
  | addTicketTag ticketId tagId => addTicketTagService ticketId tagId userId
  | deleteTicketTag ticketId tagId => deleteTicketTagService ticketId tagId userId

theorem TicketCall.service_answer (call : TicketCall) :
    call.service locale userId = (call.answer locale userId >>= fun _ => pure ()) := by
  cases call <;> rfl

end Answers

def shownTo (role : OrgRole) (comment : TicketComment) : Bool :=
  -- The comments that the role may read.
  canViewAllOrganizationTickets role || !comment.isInternal

def Appears (db : Database) (shown : TicketComment → Bool) (ticket : Ticket) (id : Nat) : Prop :=
  -- A hydrated ticket names the user: one of its parties, the author of a comment that is shown, or
  -- the actor of one of its activities.
  id ∈ parties ticket ∨
    (∃ comment ∈ commentsOf db ticket.id, shown comment = true ∧ comment.authorId = some id) ∨
    ∃ activity ∈ activitiesOf db ticket.id, activity.actorId = id

def agentOrganizations (db : Database) (userId : Nat) : List Nat :=
  -- The organisations whose tickets the agent list is about.
  (((db.memberships.filter fun membership => membership.userId == userId).filterMap
    db.withRole).filter fun membership => canViewAllOrganizationTickets membership.role).map
      fun membership => membership.organizationId

def agentFilters (query : TicketQuery) (organizationIds : List Nat) (userId : Nat) :
    TicketFilters :=
  -- The own tickets of an agent.
  let filters := commonFilters { query with assignedToMe := true } userId
  { filters with organizationIds := filters.organizationIds.or (some organizationIds) }

def Deletes (world : World) (userId ticketId : Nat) (any : OrgRole → Bool)
    (owner : Option Nat) : Prop :=
  -- The user of a row that its owner, or one who may delete any, deletes from a ticket.
  ∃ ticket membership,
    Admits world ticketId userId (fun role ticket => canDelete any role ticket owner userId) ticket
      membership

def Exposes (locale : Locale) (world : World) (userId : Nat) : TicketCall → Nat → Prop
  -- The call is let through, and its answer carries the row of the user.
  | .createTicket ticketData, id =>
    (seenMembership world ticketData.organizationId userId).isSome = true ∧
      ValidAssignee world ticketData.organizationId ticketData.assignedToId ∧
      let ticket := newTicket world ticketData userId
      keysResolve world.db ticket = true ∧
        match ticketData.assignedToId, bestAgent locale world ticketData.organizationId with
        | none, some agentUserId =>
          -- The row under the key of the new ticket is the one that is assigned.
          ∃ row, (insertTicket ticket world.db).findTicket ticket.id = some row ∧
            keysResolve world.db (autoAssigning agentUserId row) = true ∧
            Appears world.db (fun _ => true) (autoAssigning agentUserId row) id
        | _, _ => id ∈ parties ticket
  | .autoAssignTicket ticketId, id =>
    ∃ ticket membership,
      Admits world ticketId userId (fun role _ => canAssignOrganizationTickets role) ticket
        membership ∧
      ∃ agentUserId, bestAgent locale world ticket.organizationId = some agentUserId ∧
        keysResolve world.db (autoAssigning agentUserId ticket) = true ∧
        Appears world.db (fun _ => true) (autoAssigning agentUserId ticket) id
  | .assignTicket ticketId assignedToId, id =>
    ∃ ticket membership,
      Admits world ticketId userId (fun role _ => canAssignOrganizationTickets role) ticket
        membership ∧
      ValidAssignee world ticket.organizationId (some assignedToId) ∧
      keysResolve world.db (assigned assignedToId ticket) = true ∧
      Appears world.db (fun _ => true) (assigned assignedToId ticket) id
  | .getTickets query, id =>
    Legible query ∧ inOrder query = true ∧
      ∃ organizationId ∈ query.organizationId, ∃ membership,
        seenMembership world organizationId userId = some membership ∧
        ∃ ticket ∈ world.db.tickets,
          (shownFilters query membership.role userId).matches world.db ticket = true ∧
          id ∈ parties ticket
  | .getMyAgentTickets query, id =>
    Legible query ∧ inOrder query = true ∧
      let organizationIds := agentOrganizations world.db userId
      organizationIds ≠ [] ∧ query.organizationId.all organizationIds.contains = true ∧
        ∃ ticket ∈ world.db.tickets,
          (agentFilters query organizationIds userId).matches world.db ticket = true ∧
          id ∈ parties ticket
  | .getTicketById ticketId, id =>
    ∃ ticket membership,
      Admits world ticketId userId (fun role ticket => canSee role ticket userId) ticket
        membership ∧
      Appears world.db (shownTo membership.role) ticket id
  | .updateTicket ticketId ticketData, id =>
    ∃ ticket membership,
      Admits world ticketId userId
        (fun role ticket => mayUpdate role ticket userId ticketData) ticket membership ∧
      ValidAssignee world ticket.organizationId ticketData.assignedToId ∧
      keysResolve world.db (ticketData.apply ticket) = true ∧
      (world.db.findUser userId).isSome = true ∧
      (id = userId ∨ Appears world.db (shownTo membership.role) (ticketData.apply ticket) id)
  | .updateTicketStatus ticketId status, id =>
    ∃ ticket membership,
      Admits world ticketId userId (fun role _ => canEditAllOrganizationTickets role) ticket
        membership ∧
      keysResolve world.db (inStatus status ticket) = true ∧
      Appears world.db (fun _ => true) (inStatus status ticket) id
  | .createTicketComment ticketId commentData, id =>
    ∃ ticket membership,
      Admits world ticketId userId (fun role ticket => canSee role ticket userId) ticket
        membership ∧
      (!commentData.isInternal || canCreateInternalComment membership.role) = true ∧
      (world.db.findUser userId).isSome = true ∧ id = userId
  | .getTicketComments ticketId, id =>
    ∃ ticket membership,
      Admits world ticketId userId (fun role ticket => canSee role ticket userId) ticket
        membership ∧
      ∃ comment ∈ commentsOf world.db ticketId,
        shownTo membership.role comment = true ∧ comment.authorId = some id
  | .getTicketActivities ticketId, id =>
    ∃ ticket membership,
      Admits world ticketId userId (fun role ticket => canSee role ticket userId) ticket
        membership ∧
      ∃ activity ∈ activitiesOf world.db ticketId, activity.actorId = id
  | .deleteTicketComment ticketId commentId, id =>
    ∃ comment, findComment world.db commentId = some comment ∧ comment.ticketId = ticketId ∧
      Deletes world userId ticketId canDeleteAnyTicketComment comment.authorId ∧
      comment.authorId = some id
  | .createTicketAttachment ticketId _, id =>
    ∃ ticket membership,
      Admits world ticketId userId (fun role ticket => canSee role ticket userId) ticket
        membership ∧
      (world.db.findUser userId).isSome = true ∧ id = userId
  | .getTicketAttachments ticketId, id =>
    ∃ ticket membership,
      Admits world ticketId userId (fun role ticket => canSee role ticket userId) ticket
        membership ∧
      ∃ attachment ∈ attachmentsOf world.db ticketId, attachment.uploadedBy = id
  | .deleteTicketAttachment ticketId attachmentId, id =>
    ∃ attachment, findAttachment world.db attachmentId = some attachment ∧
      attachment.ticketId = ticketId ∧
      Deletes world userId ticketId canDeleteAnyTicketAttachment (some attachment.uploadedBy) ∧
      attachment.uploadedBy = id
  | _, _ => False

def Lists (db : Database) (orgId id : Nat) : Prop :=
  -- The member list shows the user.
  ∃ membership ∈ db.memberships, membership.organizationId = orgId ∧
    (db.withRole membership).isSome = true ∧ (db.findUser id).isSome = true ∧
    membership.userId = id

section Joins

variable {α β : Type} [Joined β] {world reached : World} {userId ticketId id : Nat}

def Joins {α : Type} [Joined α] (call : Call α) (world : World) (id : Nat) : Prop :=
  -- Run from the state, the call answers, and the row of the user is joined to the answer.
  ∃ value, (call.run world).1 = .ok value ∧ id ∈ keys value

theorem joins_pure (value : β) : Joins (pure value : Call β) world id ↔ id ∈ keys value := by
  simp [Joins]

theorem joins_reads (view : World → α) (rest : α → Call β) :
    Joins (Program.reads view >>= rest) world id ↔ Joins (rest (view world)) world id := Iff.rfl

theorem joins_read (view : World → β) :
    Joins (Program.reads view) world id ↔ id ∈ keys (view world) := by
  simp [Joins]

theorem joins_failed (failure : ServiceError) :
    ¬Joins (Program.fail failure : Call β) world id := by
  simp [Joins]

theorem joins_require (condition : Bool) (failure : ServiceError) (rest : Unit → Call β) :
    Joins (Program.require condition failure >>= rest) world id ↔
      condition = true ∧ Joins (rest ()) world id := by
  cases condition <;> simp [Program.require, joins_failed]

theorem joins_orFail (found : Option α) (failure : ServiceError) (rest : α → Call β) :
    Joins (Program.orFail found failure >>= rest) world id ↔
      ∃ value, found = some value ∧ Joins (rest value) world id := by
  cases found <;> simp [Program.orFail, joins_failed]

theorem joins_emitted (event : TicketEvent) (rest : Unit → Call β) :
    Joins (emitTicketEvent event >>= rest) world id ↔
      Joins (rest ()) { world with events := world.events ++ [event] } id := Iff.rfl

variable {call : Call α}

theorem joins_bind {value : α} (rest : α → Call β) (done : call.run world = (.ok value, reached)) :
    Joins (call >>= rest) world id ↔ Joins (rest value) reached id := by
  -- What follows a call that has succeeded joins what the whole joins.
  unfold Joins
  rw [run_bind, done]

theorem joins_bind_failed {failure : ServiceError} (rest : α → Call β)
    (failed : call.run world = (.error failure, reached)) : ¬Joins (call >>= rest) world id := by
  unfold Joins
  rw [run_bind, failed]
  simp

variable (organizationId : Nat) (message : String)

theorem joins_memberOf (rest : OrganizationMembership → Call β) :
    Joins (memberOf organizationId userId message >>= rest) world id ↔
      ∃ membership, seenMembership world organizationId userId = some membership ∧
        Joins (rest membership) (afterLooking world organizationId userId) id := by
  unfold memberOf
  rw [Program.bind_assoc, joins_bind _ (run_getTicketOrganizationMembership ..), joins_orFail]

theorem joins_admitted (allowed : OrgRole → Ticket → Bool)
    (rest : HydratedTicket × OrganizationMembership → Call β) :
    Joins (admitted ticketId userId message allowed >>= rest) world id ↔
      ∃ ticket membership, Admits world ticketId userId allowed ticket membership ∧
        Joins (rest (hydrated world.db ticket, membership))
          (afterLooking world ticket.organizationId userId) id := by
  constructor
  · rcases ran : (admitted ticketId userId message allowed).run world with
      ⟨failure | ⟨found, membership⟩, reached⟩
    · exact fun joins => (joins_bind_failed rest ran joins).elim
    · obtain ⟨ticket, admits, rfl, rfl⟩ := admitted_ok _ _ _ _ _ _ ran
      rw [joins_bind rest ran]
      exact fun joins => ⟨ticket, membership, admits, joins⟩
  · rintro ⟨ticket, membership, admits, joins⟩
    exact (joins_bind rest (admits_runs message allowed ticket membership admits)).mpr joins

theorem joins_validated (assignedToId : Option Nat) (rest : Unit → Call β) :
    Joins (validateTicketAssignee organizationId assignedToId >>= rest) world id ↔
      ValidAssignee world organizationId assignedToId ∧
        Joins (rest ()) (afterValidating world organizationId assignedToId) id := by
  cases assignedToId with
  | none => simp [ValidAssignee, validateTicketAssignee, afterValidating]
  | some assignedToId =>
    rw [validateTicketAssignee, Program.bind_assoc,
      joins_bind _ (run_getTicketOrganizationMembership ..), joins_require]
    simp [ValidAssignee, afterValidating]

theorem joins_asserted (role : OrgRole) (ticket : Ticket) (updates : TicketUpdates)
    (rest : Unit → Call β) :
    Joins (assertCanUpdateTicket role ticket userId updates >>= rest) world id ↔
      mayUpdate role ticket userId updates = true ∧ Joins (rest ()) world id := by
  unfold assertCanUpdateTicket mayUpdate
  by_cases edits : canEditAllOrganizationTickets role = true
  · simp [edits]
  · simp [edits, joins_require, and_assoc]

theorem joins_parsed (value : Option (Read Nat)) (fieldName : String)
    (rest : Option Nat → Call β) :
    Joins (parseDateFilter value fieldName >>= rest) world id ↔
      readable value = true ∧ Joins (rest value.join) world id := by
  rcases value with - | - | time
  · simp [parseDateFilter, readable]
  · simp [parseDateFilter, readable, joins_failed]
  · simp [parseDateFilter, readable]

theorem joins_listFilters (query : TicketQuery) (needed : Bool) (rest : Unit → Call β) :
    Joins (validateListFilters query needed >>= rest) world id ↔
      (needed = true → query.organizationId.isSome = true) ∧ Legible query ∧
        inOrder query = true ∧ Joins (rest ()) world id := by
  have legible : Legible query ↔ readable query.status = true ∧ readable query.priority = true ∧
      readable query.source = true ∧ readable query.dateFrom = true ∧
      readable query.dateTo = true :=
    ⟨fun ⟨status, priority, source, start, stop⟩ => ⟨status, priority, source, start, stop⟩,
      fun ⟨status, priority, source, start, stop⟩ => ⟨status, priority, source, start, stop⟩⟩
  unfold validateListFilters inOrder
  simp only [Program.bind_assoc, joins_require, joins_parsed, legible, and_assoc, Bool.or_eq_true,
    Bool.not_eq_true']
  cases needed <;> simp

variable (db : Database) (comments : List TicketComment)

theorem mem_keys_authored :
    id ∈ keys (comments.map (authored db)) ↔ ∃ comment ∈ comments, comment.authorId = some id := by
  simp [keys, authored, eq_comm]

theorem mem_keys_acted (activities : List TicketActivityLog) :
    id ∈ keys (activities.map (acted db)) ↔ ∃ activity ∈ activities, activity.actorId = id := by
  simp [keys, acted, eq_comm]

variable (ticket : Ticket)

theorem mem_keys_hydrated :
    id ∈ keys (hydrated db ticket) ↔ Appears db (fun _ => true) ticket id := by
  have comments : id ∈ keys ((commentsOf db ticket.id).map (authored db)) ↔ _ :=
    mem_keys_authored db _
  have activities : id ∈ keys ((activitiesOf db ticket.id).map (acted db)) ↔ _ :=
    mem_keys_acted db _
  change id ∈ parties ticket ++ _ ++ _ ↔ _
  rw [List.mem_append, List.mem_append, or_assoc]
  simp only [Appears, true_and]
  exact or_congr_right (or_congr comments activities)

theorem mem_keys_comments (db : Database) (role : OrgRole) :
    id ∈ keys (filterCommentsForRole (comments.map (authored db)) role) ↔
      ∃ comment ∈ comments, shownTo role comment = true ∧ comment.authorId = some id := by
  unfold filterCommentsForRole shownTo
  by_cases all : canViewAllOrganizationTickets role = true
  · rw [if_pos all, mem_keys_authored]
    simp [all]
  · have shown : (comments.map (authored db)).filter (fun comment => !comment.isInternal) =
        (comments.filter fun comment => !comment.isInternal).map (authored db) := by
      rw [List.filter_map]
      rfl
    rw [if_neg all, shown, mem_keys_authored]
    simp [all, and_assoc]

theorem filterInternalCommentsForRole_comments (ticket : HydratedTicket) (role : OrgRole) :
    filterInternalCommentsForRole ticket role =
      { ticket with comments := filterCommentsForRole ticket.comments role } := by
  -- A ticket is filtered by its comments.
  unfold filterInternalCommentsForRole filterCommentsForRole
  split <;> rfl

theorem mem_keys_filtered (role : OrgRole) :
    id ∈ keys (filterInternalCommentsForRole (hydrated db ticket) role) ↔
      Appears db (shownTo role) ticket id := by
  have comments : id ∈ keys (filterCommentsForRole ((commentsOf db ticket.id).map (authored db))
      role) ↔ _ := mem_keys_comments _ db role
  have activities : id ∈ keys ((activitiesOf db ticket.id).map (acted db)) ↔ _ :=
    mem_keys_acted db _
  rw [filterInternalCommentsForRole_comments]
  change id ∈ parties ticket ++ _ ++ _ ↔ _
  rw [List.mem_append, List.mem_append, or_assoc]
  exact or_congr_right (or_congr comments activities)

theorem appears_logged (shown : TicketComment → Bool) (ticket : Ticket)
    (activity : TicketActivityLog) (own : activity.ticketId = ticket.id) :
    Appears (logActivity activity db) shown ticket id ↔
      activity.actorId = id ∨ Appears db shown ticket id := by
  have entries : activitiesOf (logActivity activity db) ticket.id =
      activitiesOf db ticket.id ++ [activity] := by
    simp [activitiesOf, logActivity, List.filter_append, own]
  have comments : commentsOf (logActivity activity db) ticket.id = commentsOf db ticket.id := rfl
  simp only [Appears, entries, comments, List.mem_append, List.mem_singleton, or_and_right,
    exists_or, exists_eq_left]
  grind

theorem joins_attempt (body : World → Except ServiceError (α × World)) (rest : α → Call β) :
    Joins (Program.attempt body >>= rest) world id ↔
      ∃ value reached, body world = .ok (value, reached) ∧ Joins (rest value) reached id := by
  unfold Joins
  rw [run_bind, run_attempt]
  rcases body world with failure | ⟨value, reached⟩ <;> simp

theorem joins_existingTicket (rest : HydratedTicket → Call β) :
    Joins (existingTicket ticketId >>= rest) world id ↔
      ∃ ticket, world.db.findTicket ticketId = some ticket ∧
        Joins (rest (hydrated world.db ticket)) world id := by
  rw [existingTicket, Program.bind_assoc, getTicketById, joins_reads, joins_orFail]
  simp only [Option.map_eq_some_iff, exists_exists_and_eq_and]

theorem joins_createTicket (ticketData : TicketData) (rest : ListedTicket → Call β) :
    Joins (createTicket ticketData userId >>= rest) world id ↔
      let ticket := newTicket world ticketData userId
      let reached := world.withDb (insertTicket ticket)
      keysResolve world.db ticket = true ∧ Joins (rest (listed reached.db ticket)) reached id := by
  rw [createTicket, joins_attempt]
  by_cases resolves : keysResolve world.db (newTicket world ticketData userId) = true
  · simp [resolves]
  · simp [resolves]

theorem joins_writeTicket (change : Ticket → Ticket)
    (activity : Option (Nat × TicketActivityAction)) (rest : HydratedTicket → Call β) :
    Joins (writeTicket ticketId change activity >>= rest) world id ↔
      ∃ ticket, world.db.findTicket ticketId = some ticket ∧
        keysResolve world.db (change ticket) = true ∧
        (activity.all fun entry => (world.db.findUser entry.1).isSome) = true ∧
        let written := { change ticket with updatedAt := world.now }
        let reached := world.withDb fun db =>
          logOwn world.now ticketId activity (storeTicket ticketId written db)
        Joins (rest (hydrated reached.db written)) reached id := by
  rw [writeTicket, joins_attempt]
  cases found : world.db.findTicket ticketId with
  | none => simp
  | some ticket =>
    dsimp only
    split_ifs with written
    · obtain ⟨resolves, actor⟩ := Bool.and_eq_true_iff.mp written
      change keysResolve world.db (change ticket) = true at resolves
      simp [resolves, actor]
    · rw [Bool.and_eq_true_iff] at written
      simp only [false_and, exists_false, false_iff]
      rintro ⟨_, ⟨⟩, resolves, actor, _⟩
      exact written ⟨resolves, actor⟩

theorem joins_createTicketComment (commentData : CommentData)
    (rest : OnTicket AuthoredComment → Call β) :
    Joins (createTicketComment ticketId userId commentData >>= rest) world id ↔
      let comment := newComment world ticketId userId commentData
      (world.db.findTicket ticketId).isSome = true ∧ (world.db.findUser userId).isSome = true ∧
        Joins (rest (onTicket world.db (authored world.db comment) ticketId))
          (world.withDb (insertComment comment)) id := by
  rw [createTicketComment, joins_attempt]
  split_ifs with resolves
  · simp [Bool.and_eq_true_iff.mp resolves]
  · rw [Bool.and_eq_true_iff] at resolves
    simp only [false_and, exists_false, false_iff]
    exact fun ⟨ticket, user, _⟩ => resolves ⟨ticket, user⟩

theorem joins_createTicketAttachment (attachmentData : AttachmentData)
    (rest : OnTicket UploadedAttachment → Call β) :
    Joins (createTicketAttachment ticketId userId attachmentData >>= rest) world id ↔
      let attachment := newAttachment world ticketId userId attachmentData
      (world.db.findTicket ticketId).isSome = true ∧ (world.db.findUser userId).isSome = true ∧
        Joins (rest (onTicket world.db (uploaded world.db attachment) ticketId))
          (world.withDb (insertAttachment attachment)) id := by
  rw [createTicketAttachment, joins_attempt]
  split_ifs with resolves
  · simp [Bool.and_eq_true_iff.mp resolves]
  · rw [Bool.and_eq_true_iff] at resolves
    simp only [false_and, exists_false, false_iff]
    exact fun ⟨ticket, user, _⟩ => resolves ⟨ticket, user⟩

theorem joins_deleteTicketComment (commentId : Nat) (rest : OnTicket AuthoredComment → Call β) :
    Joins (deleteTicketComment commentId >>= rest) world id ↔
      ∃ comment, findComment world.db commentId = some comment ∧
        Joins (rest (onTicket world.db (authored world.db comment) comment.ticketId))
          (world.withDb (dropComment commentId)) id := by
  rw [deleteTicketComment, joins_attempt]
  cases findComment world.db commentId <;> simp

theorem joins_deleteTicketAttachment (attachmentId : Nat)
    (rest : OnTicket UploadedAttachment → Call β) :
    Joins (deleteTicketAttachment attachmentId >>= rest) world id ↔
      ∃ attachment, findAttachment world.db attachmentId = some attachment ∧
        Joins (rest (onTicket world.db (uploaded world.db attachment) attachment.ticketId))
          (world.withDb (dropAttachment attachmentId)) id := by
  rw [deleteTicketAttachment, joins_attempt]
  cases findAttachment world.db attachmentId <;> simp

end Joins

section Services

variable {locale : Locale} {world : World} {userId ticketId id : Nat}

theorem getTicketByIdService_joins :
    Joins (getTicketByIdService ticketId userId) world id ↔
      Exposes locale world userId (.getTicketById ticketId) id := by
  rw [getTicketByIdService, joins_admitted]
  refine exists₂_congr fun ticket membership => and_congr_right fun _ => ?_
  rw [joins_pure, mem_keys_filtered]

theorem getTicketCommentsService_joins :
    Joins (getTicketCommentsService ticketId userId) world id ↔
      Exposes locale world userId (.getTicketComments ticketId) id := by
  rw [getTicketCommentsService, joins_admitted]
  refine exists₂_congr fun ticket membership => and_congr_right fun _ => ?_
  rw [getTicketComments, joins_reads, joins_pure, mem_keys_comments]
  simp [byCreatedAt]

theorem getTicketActivitiesService_joins :
    Joins (getTicketActivitiesService ticketId userId) world id ↔
      Exposes locale world userId (.getTicketActivities ticketId) id := by
  rw [getTicketActivitiesService, joins_admitted]
  refine exists₂_congr fun ticket membership => and_congr_right fun _ => ?_
  rw [getTicketActivities, joins_read, mem_keys_acted]
  simp [byCreatedAt]

theorem getTicketAttachmentsService_joins :
    Joins (getTicketAttachmentsService ticketId userId) world id ↔
      Exposes locale world userId (.getTicketAttachments ticketId) id := by
  rw [getTicketAttachmentsService, joins_admitted]
  refine exists₂_congr fun ticket membership => and_congr_right fun _ => ?_
  rw [getTicketAttachments, joins_read]
  simp [byCreatedAt, keys, uploaded, eq_comm]

variable (db : Database) (rows : List Ticket)

theorem mem_keys_listed :
    id ∈ keys (rows.map (listed db)) ↔ ∃ ticket ∈ rows, id ∈ parties ticket := by
  simp [keys, listed]

theorem mem_matching_rows (filters : TicketFilters) (ticket : Ticket) :
    ticket ∈ matching db filters ↔ ticket ∈ db.tickets ∧ filters.matches db ticket = true := by
  rw [matching, newestFirst, List.mem_insertionSort, List.mem_filter]

variable (query : TicketQuery)

theorem getTicketsService_joins :
    Joins (getTicketsService query userId) world id ↔
      Exposes locale world userId (.getTickets query) id := by
  rw [getTicketsService, joins_listFilters]
  simp only [joins_orFail, joins_memberOf]
  simp only [Exposes, forall_const, Option.mem_def]
  constructor
  · rintro ⟨-, legible, ordered, organizationId, asked, membership, seen, joins⟩
    rw [buildCommonTicketFilters_legible legible, Program.pure_bind, getTickets, joins_read,
      mem_keys_listed] at joins
    obtain ⟨ticket, member, party⟩ := joins
    obtain ⟨stored, selected⟩ := (mem_matching_rows _ _ _).mp member
    rw [afterLooking_db] at stored selected
    exact ⟨legible, ordered, organizationId, asked, membership, seen, ticket, stored, selected,
      party⟩
  · rintro ⟨legible, ordered, organizationId, asked, membership, seen, ticket, stored, selected,
      party⟩
    refine ⟨by rw [asked]; rfl, legible, ordered, organizationId, asked, membership, seen, ?_⟩
    rw [buildCommonTicketFilters_legible legible, Program.pure_bind, getTickets, joins_read,
      mem_keys_listed, afterLooking_db]
    exact ⟨ticket, (mem_matching_rows _ _ _).mpr ⟨stored, selected⟩, party⟩

theorem mem_keys_agentListed :
    id ∈ keys (rows.map (agentListed db)) ↔ ∃ ticket ∈ rows, id ∈ parties ticket := by
  simp [keys, agentListed, listed]

theorem getMyAgentTicketsService_joins :
    Joins (getMyAgentTicketsService query userId) world id ↔
      Exposes locale world userId (.getMyAgentTickets query) id := by
  rw [getMyAgentTicketsService, joins_listFilters, getTicketMembershipsByUserId, joins_reads]
  simp only [joins_require, Bool.not_eq_true', List.isEmpty_eq_false_iff]
  simp only [Exposes, Bool.false_eq_true, false_implies, true_and]
  refine and_congr_right fun legible => and_congr_right fun _ => and_congr_right fun _ =>
    and_congr_right fun _ => ?_
  have mine : Legible { query with assignedToMe := true } :=
    ⟨legible.status, legible.priority, legible.source, legible.dateFrom, legible.dateTo⟩
  rw [buildCommonTicketFilters_legible mine, Program.pure_bind, getAgentTickets, joins_read,
    mem_keys_agentListed]
  simp only [mem_matching_rows, and_assoc]
  rfl

theorem updateTicketStatusService_joins (status : TicketStatus) :
    Joins (updateTicketStatusService ticketId status userId) world id ↔
      Exposes locale world userId (.updateTicketStatus ticketId status) id := by
  rw [updateTicketStatusService, joins_admitted]
  refine exists₂_congr fun ticket membership => and_congr_right fun admits => ?_
  rw [updateTicketStatus, joins_writeTicket]
  simp only [joins_emitted, joins_pure, mem_keys_hydrated, World.withDb_db, afterLooking_db,
    admits.found, Option.some.injEq, exists_eq_left', Option.all_none, true_and]
  rfl

theorem assignTicketService_joins (assignedToId : Nat) :
    Joins (assignTicketService ticketId assignedToId userId) world id ↔
      Exposes locale world userId (.assignTicket ticketId assignedToId) id := by
  rw [assignTicketService, joins_admitted]
  refine exists₂_congr fun ticket membership => and_congr_right fun admits => ?_
  dsimp only
  rw [joins_validated, assignTicket, joins_writeTicket]
  simp only [joins_emitted, joins_pure, mem_keys_hydrated, World.withDb_db, afterLooking_db,
    afterValidating_db, validAssignee_afterLooking, admits.found, Option.some.injEq,
    exists_eq_left', Option.all_none, true_and]
  rfl

theorem updateTicketService_joins (ticketData : TicketUpdates) :
    Joins (updateTicketService ticketId ticketData userId) world id ↔
      Exposes locale world userId (.updateTicket ticketId ticketData) id := by
  rw [updateTicketService, joins_admitted]
  refine exists₂_congr fun ticket membership => ?_
  -- The permission to update is one of the conditions of the admission.
  have admission : Admits world ticketId userId
      (fun role ticket => mayUpdate role ticket userId ticketData) ticket membership ↔
      Admits world ticketId userId (fun _ _ => true) ticket membership ∧
        mayUpdate membership.role ticket userId ticketData = true :=
    ⟨fun ⟨found, seen, may⟩ => ⟨⟨found, seen, rfl⟩, may⟩,
      fun ⟨⟨found, seen, _⟩, may⟩ => ⟨found, seen, may⟩⟩
  rw [admission, and_assoc]
  refine and_congr_right fun admits => ?_
  have own := findTicket_id _ _ _ admits.found
  dsimp only
  rw [joins_asserted, joins_validated, updateTicket, joins_writeTicket]
  simp only [joins_pure, mem_keys_filtered, World.withDb_db, afterLooking_db, afterValidating_db,
    validAssignee_afterLooking, admits.found, Option.some.injEq, exists_eq_left', Option.all_some]
  refine and_congr_right fun _ => and_congr_right fun _ => and_congr_right fun _ =>
    and_congr_right fun _ => ?_
  rw [logOwn, appears_logged _ _ _ _ own.symm, eq_comm]
  rfl

theorem createTicketCommentService_joins (commentData : CommentData) :
    Joins (createTicketCommentService ticketId commentData userId) world id ↔
      Exposes locale world userId (.createTicketComment ticketId commentData) id := by
  rw [createTicketCommentService, joins_admitted]
  refine exists₂_congr fun ticket membership => and_congr_right fun admits => ?_
  dsimp only
  rw [joins_require, joins_createTicketComment]
  simp only [joins_emitted, afterLooking_db, admits.found, Option.isSome_some, true_and]
  refine and_congr_right fun _ => and_congr_right fun _ => ?_
  split
  · rw [joins_pure]
    simp [keys, onTicket, authored, newComment]
  · rw [joins_pure]
    simp [keys, onTicket, authored, newComment]

theorem createTicketAttachmentService_joins (attachmentData : AttachmentData) :
    Joins (createTicketAttachmentService ticketId attachmentData userId) world id ↔
      Exposes locale world userId (.createTicketAttachment ticketId attachmentData) id := by
  rw [createTicketAttachmentService, joins_admitted]
  refine exists₂_congr fun ticket membership => and_congr_right fun admits => ?_
  dsimp only
  rw [joins_createTicketAttachment]
  simp only [joins_emitted, afterLooking_db, admits.found, Option.isSome_some, true_and]
  refine and_congr_right fun _ => ?_
  rw [joins_pure]
  simp [keys, onTicket, uploaded, newAttachment]

theorem deleteTicketCommentService_joins (commentId : Nat) :
    Joins (deleteTicketCommentService ticketId commentId userId) world id ↔
      Exposes locale world userId (.deleteTicketComment ticketId commentId) id := by
  rw [deleteTicketCommentService, joins_existingTicket]
  simp only [getTicketCommentById, joins_reads, joins_orFail, joins_memberOf, joins_require,
    joins_deleteTicketComment, joins_emitted, joins_pure, afterLooking_db]
  constructor
  · rintro ⟨ticket, found, loaded, kept, membership, seen, may, comment, stored, names⟩
    rw [stored, Option.map_some, Option.filter_some] at kept
    split_ifs at kept with own
    cases kept
    have author : comment.authorId = some id := by
      simpa [keys, onTicket, authored, eq_comm] using names
    exact ⟨comment, stored, by simpa [onTicket, authored] using own,
      ⟨ticket, membership, found, seen, may⟩, author⟩
  · rintro ⟨comment, stored, own, ⟨ticket, membership, found, seen, may⟩, author⟩
    refine ⟨ticket, found, onTicket world.db (authored world.db comment) comment.ticketId, ?_,
      membership, seen, may, comment, stored, ?_⟩
    · rw [stored, Option.map_some, Option.filter_some]
      simp [onTicket, authored, own]
    · simp [keys, onTicket, authored, author]

theorem deleteTicketAttachmentService_joins (attachmentId : Nat) :
    Joins (deleteTicketAttachmentService ticketId attachmentId userId) world id ↔
      Exposes locale world userId (.deleteTicketAttachment ticketId attachmentId) id := by
  rw [deleteTicketAttachmentService, joins_existingTicket]
  simp only [getTicketAttachmentById, joins_reads, joins_orFail, joins_memberOf, joins_require,
    joins_deleteTicketAttachment, joins_emitted, joins_pure, afterLooking_db]
  constructor
  · rintro ⟨ticket, found, loaded, kept, membership, seen, may, attachment, stored, names⟩
    rw [stored, Option.map_some, Option.filter_some] at kept
    split_ifs at kept with own
    cases kept
    have uploader : attachment.uploadedBy = id := by
      simpa [keys, onTicket, uploaded, eq_comm] using names
    exact ⟨attachment, stored, by simpa [onTicket, uploaded] using own,
      ⟨ticket, membership, found, seen, may⟩, uploader⟩
  · rintro ⟨attachment, stored, own, ⟨ticket, membership, found, seen, may⟩, uploader⟩
    refine ⟨ticket, found, onTicket world.db (uploaded world.db attachment) attachment.ticketId, ?_,
      membership, seen, may, attachment, stored, ?_⟩
    · rw [stored, Option.map_some, Option.filter_some]
      simp [onTicket, uploaded, own]
    · simp [keys, onTicket, uploaded, uploader]

theorem appears_counted (shown : TicketComment → Bool) (ticket : Ticket)
    (now organizationId agentUserId : Nat) :
    Appears (counted now organizationId agentUserId db) shown ticket id ↔
      Appears db shown ticket id := by
  unfold counted
  split <;> rfl

theorem joins_autoAssignTicket (showId : Nat → String) (place agentUserId : Nat) (row : Ticket)
    (found : world.db.findTicket ticketId = some row)
    (organization : keysResolve world.db (autoAssigning agentUserId row) = true →
      (world.db.findOrganization place).isSome = true) :
    Joins (autoAssignTicket showId ticketId place agentUserId) world id ↔
      keysResolve world.db (autoAssigning agentUserId row) = true ∧
        Appears world.db (fun _ => true) (autoAssigning agentUserId row) id := by
  have own := findTicket_id _ _ _ found
  -- The agent who is logged is the one to whom the ticket is assigned.
  have logged (answered : HydratedTicket) (left : World)
      (ran : (autoAssignTicket showId ticketId place agentUserId).run world =
        (.ok answered, left)) :
      keysResolve world.db (autoAssigning agentUserId row) = true ∧
        (id ∈ keys answered ↔
          Appears world.db (fun _ => true) (autoAssigning agentUserId row) id) := by
    obtain ⟨other, stored, resolves, rfl, rfl⟩ := autoAssignTicket_written _ _ _ _ _ ran
    rw [found, Option.some.injEq] at stored
    subst stored
    refine ⟨resolves, ?_⟩
    rw [mem_keys_hydrated]
    change Appears (logActivity _ (counted world.now place agentUserId world.db)) (fun _ => true)
      (autoAssigning agentUserId row) id ↔ _
    rw [appears_logged _ _ _ _ own.symm, appears_counted]
    refine or_iff_right_of_imp fun same => .inl ?_
    simp [parties, autoAssigning, ← same, assignedActivity]
  constructor
  · rintro ⟨answered, ran, names⟩
    obtain ⟨resolves, joined⟩ := logged answered _ (Prod.ext ran rfl)
    exact ⟨resolves, joined.mp names⟩
  · rintro ⟨resolves, appears⟩
    obtain ⟨answered, left, runs⟩ :=
      autoAssignTicket_runs showId place agentUserId row found (organization resolves) resolves
    exact ⟨answered, by rw [runs], (logged answered left runs).2.mpr appears⟩

variable (ticket : Ticket)

theorem joins_autoAssign (row : Ticket) (found : world.db.findTicket ticket.id = some row)
    (organization : ∀ agentUserId, keysResolve world.db (autoAssigning agentUserId row) = true →
      (world.db.findOrganization ticket.organizationId).isSome = true) :
    Joins (autoAssignTicketForOrganization locale ticket) world id ↔
      ∃ agentUserId, bestAgent locale world ticket.organizationId = some agentUserId ∧
        keysResolve world.db (autoAssigning agentUserId row) = true ∧
        Appears world.db (fun _ => true) (autoAssigning agentUserId row) id := by
  rw [autoAssignTicketForOrganization, joins_bind _ (run_findBestAutoAssignAgent ..), joins_orFail]
  refine exists_congr fun agentUserId => and_congr_right fun _ => ?_
  exact joins_autoAssignTicket _ _ _ row found (organization agentUserId)

theorem organization_of_resolves (resolves : keysResolve db ticket = true) :
    (db.findOrganization ticket.organizationId).isSome = true := by
  simp only [keysResolve, Bool.and_eq_true] at resolves
  exact resolves.1.1

theorem autoAssignTicketService_joins :
    Joins (autoAssignTicketService locale ticketId userId) world id ↔
      Exposes locale world userId (.autoAssignTicket ticketId) id := by
  rw [autoAssignTicketService, joins_admitted]
  refine exists₂_congr fun ticket membership => and_congr_right fun admits => ?_
  have own := findTicket_id _ _ _ admits.found
  have found : (afterLooking world ticket.organizationId userId).db.findTicket
      (hydrated world.db ticket).toTicket.id = some ticket := by
    rw [afterLooking_db]
    exact (congrArg _ own).trans admits.found
  have best : bestAgent locale (afterLooking world ticket.organizationId userId)
      ticket.organizationId = bestAgent locale world ticket.organizationId :=
    bestAgent_congr _ (afterLooking_now ..) (by simp) (by simp) (by simp)
  dsimp only
  rw [joins_autoAssign _ ticket found fun agentUserId resolves =>
    organization_of_resolves _ (autoAssigning agentUserId ticket) resolves]
  change (∃ agentUserId, bestAgent locale (afterLooking world ticket.organizationId userId)
    ticket.organizationId = some agentUserId ∧ _) ↔ _
  rw [best, afterLooking_db]

def Otherwise {α : Type} (result : Except ServiceError α) : Prop :=
  -- The failure is not the want of an agent.
  ∀ failure, result = .error failure → failure.code ≠ some "NO_AGENT_AVAILABLE"

theorem otherwise_bind {α β : Type} (first : Call α) (rest : α → Call β) (world : World)
    (started : Otherwise (first.run world).1)
    (continued : ∀ value reached, Otherwise ((rest value).run reached).1) :
    Otherwise ((first >>= rest).run world).1 := by
  rw [run_bind]
  rcases ran : first.run world with ⟨failure | value, reached⟩
  · rintro _ ⟨⟩
    exact started failure (congrArg Prod.fst ran)
  · exact continued value reached

theorem otherwise_ok {α : Type} (value : α) : Otherwise (.ok value) := nofun

theorem foreignKey_otherwise {α : Type} :
    Otherwise (.error .foreignKeyConstraint : Except ServiceError α) := by
  rintro _ ⟨⟩
  decide

theorem countAssignment_otherwise (place agentUserId : Nat) (world : World) :
    Otherwise ((countAssignment place agentUserId).run world).1 := by
  rw [countAssignment, run_attempt]
  split_ifs
  · exact otherwise_ok _
  · exact otherwise_ok _
  · exact foreignKey_otherwise

theorem createTicketActivityLog_otherwise (ticketId actorId : Nat) (action : TicketActivityAction)
    (oldValue newValue : Option String) (world : World) :
    Otherwise
      ((createTicketActivityLog ticketId actorId action oldValue newValue).run world).1 := by
  rw [createTicketActivityLog, run_attempt]
  split_ifs
  · exact otherwise_ok _
  · exact foreignKey_otherwise

theorem writeTicket_otherwise (ticketId : Nat) (change : Ticket → Ticket)
    (activity : Option (Nat × TicketActivityAction)) (world : World) :
    Otherwise ((writeTicket ticketId change activity).run world).1 := by
  rw [writeTicket, run_attempt]
  cases world.db.findTicket ticketId with
  | none =>
    rintro _ ⟨⟩
    decide
  | some ticket =>
    dsimp only
    split_ifs
    · exact otherwise_ok _
    · exact foreignKey_otherwise

theorem autoAssignTicket_otherwise (showId : Nat → String) (ticketId place agentUserId : Nat)
    (world : World) :
    Otherwise ((autoAssignTicket showId ticketId place agentUserId).run world).1 := by
  -- An automatic assignment that has an agent does not fail for want of one.
  let body : Call HydratedTicket := do
    countAssignment place agentUserId
    let _ ← createTicketActivityLog ticketId agentUserId .ticketAssigned none
      (some (showId agentUserId))
    writeTicket ticketId (autoAssigning agentUserId) none
  have inside : Otherwise (body.run world).1 := by
    apply otherwise_bind _ _ _ (countAssignment_otherwise place agentUserId world)
    intro _ reached
    apply otherwise_bind _ _ _ (createTicketActivityLog_otherwise _ _ _ _ _ reached)
    intro _
    exact writeTicket_otherwise _ _ _
  rw [autoAssignTicket, Program.run_transaction]
  split
  · nofun
  · rename_i failure reached ran
    rintro _ ⟨⟩
    exact inside failure (congrArg Prod.fst ran)

theorem autoAssign_otherwise (agentUserId : Nat)
    (best : bestAgent locale world ticket.organizationId = some agentUserId) :
    Otherwise ((autoAssignTicketForOrganization locale ticket).run world).1 := by
  rw [autoAssignTicketForOrganization, run_bind, run_findBestAutoAssignAgent, best]
  exact autoAssignTicket_otherwise _ _ _ _ world

theorem joins_assigned (call : Call HydratedTicket) :
    Joins (call >>= fun assigned => pure (CreatedTicket.assigned assigned)) world id ↔
      Joins call world id := by
  rcases ran : call.run world with ⟨failure | assigned, reached⟩
  · refine iff_of_false (joins_bind_failed _ ran) ?_
    rintro ⟨value, answered, -⟩
    rw [ran] at answered
    cases answered
  · rw [joins_bind _ ran, joins_pure]
    simp [Joins, ran, keys]

theorem joins_recovered (created : ListedTicket) (row : Ticket)
    (found : world.db.findTicket created.id = some row)
    (organization : (world.db.findOrganization created.organizationId).isSome = true) :
    Joins (Program.recover
      (do
        let assigned ← autoAssignTicketForOrganization locale created.toTicket
        return CreatedTicket.assigned assigned)
      fun error =>
        if error.code = some "NO_AGENT_AVAILABLE" then pure (.listed created)
        else Program.fail error) world id ↔
      match bestAgent locale world created.organizationId with
      | none => id ∈ keys created
      | some agentUserId =>
        keysResolve world.db (autoAssigning agentUserId row) = true ∧
          Appears world.db (fun _ => true) (autoAssigning agentUserId row) id := by
  -- Without an agent the ticket is answered as it was created.
  have tried : Joins (do
      let assigned ← autoAssignTicketForOrganization locale created.toTicket
      return CreatedTicket.assigned assigned) world id ↔ _ :=
    (joins_assigned _).trans (joins_autoAssign created.toTicket row found fun _ _ => organization)
  cases best : bestAgent locale world created.organizationId with
  | none =>
    unfold Joins
    rw [run_recover, run_bind, autoAssignTicketForOrganization, run_bind,
      run_findBestAutoAssignAgent, best]
    simp [Program.orFail, noAgentAvailable, ServiceError.code, keys]
  | some agentUserId =>
    rw [best] at tried
    simp only [Option.some.injEq, exists_eq_left'] at tried
    refine Iff.trans ?_ tried
    let body : Call CreatedTicket :=
      autoAssignTicketForOrganization locale created.toTicket >>= fun assigned =>
        pure (CreatedTicket.assigned assigned)
    -- The handler passes on whatever else has failed.
    have fails : Otherwise (body.run world).1 :=
      otherwise_bind _ _ world (autoAssign_otherwise created.toTicket agentUserId best)
        fun assigned _ => otherwise_ok (CreatedTicket.assigned assigned)
    change Joins (body.recover _) world id ↔ Joins body world id
    unfold Joins
    rw [run_recover]
    rcases ran : body.run world with ⟨failure | assigned, reached⟩
    · have otherwise := fails failure (congrArg Prod.fst ran)
      simp [otherwise]
    · simp

theorem findTicket_insertTicket :
    ((insertTicket ticket db).findTicket ticket.id).isSome = true := by
  simp [Database.findTicket, insertTicket]

variable (ticketData : TicketData)

theorem joins_creating :
    Joins (creating locale ticketData userId) world id ↔
      let ticket := newTicket world ticketData userId
      keysResolve world.db ticket = true ∧
        match ticketData.assignedToId, bestAgent locale world ticketData.organizationId with
        | none, some agentUserId =>
          ∃ row, (insertTicket ticket world.db).findTicket ticket.id = some row ∧
            keysResolve world.db (autoAssigning agentUserId row) = true ∧
            Appears world.db (fun _ => true) (autoAssigning agentUserId row) id
        | _, _ => id ∈ parties ticket := by
  rw [creating, joins_createTicket]
  refine and_congr_right fun resolves => ?_
  rw [joins_emitted]
  let new := newTicket world ticketData userId
  have same : (listed (world.withDb (insertTicket new)).db new).assignedToId =
    ticketData.assignedToId := rfl
  rw [same]
  cases given : ticketData.assignedToId with
  | some assignedToId =>
    rw [if_pos (by rfl), joins_pure]
    rfl
  | none =>
    obtain ⟨row, found⟩ := Option.isSome_iff_exists.mp (findTicket_insertTicket world.db new)
    have organization := organization_of_resolves _ _ resolves
    rw [if_neg nofun, joins_recovered _ row found organization]
    have best (reached : World) (now : reached.now = world.now)
        (tables : reached.db = insertTicket new world.db) :
        bestAgent locale reached ticketData.organizationId =
          bestAgent locale world ticketData.organizationId :=
      bestAgent_congr _ now (by rw [tables]; rfl) (by rw [tables]; rfl) (by rw [tables]; rfl)
    have place : (listed (world.withDb (insertTicket new)).db new).organizationId =
      ticketData.organizationId := rfl
    rw [place, best]
    · cases bestAgent locale world ticketData.organizationId with
      | none => rfl
      | some agentUserId =>
        constructor
        · exact fun exposed => ⟨row, found, exposed⟩
        · rintro ⟨other, there, exposed⟩
          obtain rfl := Option.some.inj (found.symm.trans there)
          exact exposed
    · rfl
    · rfl

theorem creating_congr {reached : World} (tables : reached.db = world.db)
    (clock : reached.now = world.now) (ticketData : TicketData) :
    Joins (creating locale ticketData userId) reached id ↔
      Joins (creating locale ticketData userId) world id := by
  have alike : newTicket reached ticketData userId = newTicket world ticketData userId := by
    simp [newTicket, tables, clock]
  have best : bestAgent locale reached ticketData.organizationId =
      bestAgent locale world ticketData.organizationId :=
    bestAgent_congr _ clock (by rw [tables]) (by rw [tables]) (by rw [tables])
  rw [joins_creating, joins_creating]
  dsimp only
  rw [alike, best, tables]

theorem createTicketService_joins :
    Joins (createTicketService locale ticketData userId) world id ↔
      Exposes locale world userId (.createTicket ticketData) id := by
  have service : createTicketService locale ticketData userId = (do
      let _ ← memberOf ticketData.organizationId userId
        "You do not have permission to create tickets for this organization"
      validateTicketAssignee ticketData.organizationId ticketData.assignedToId
      creating locale ticketData userId) := rfl
  rw [service, joins_memberOf]
  simp only [joins_validated, validAssignee_afterLooking]
  have after : Joins (creating locale ticketData userId)
      (afterValidating (afterLooking world ticketData.organizationId userId)
        ticketData.organizationId ticketData.assignedToId) id ↔
      Joins (creating locale ticketData userId) world id :=
    creating_congr (by simp) (by simp) ticketData
  simp only [after]
  rw [exists_and_right, ← Option.isSome_iff_exists, joins_creating]
  rfl

theorem viewAllMembersInOrganizationService_joins (orgId : Nat) :
    Joins (Org.viewAllMembersInOrganizationService orgId) world id ↔ Lists world.db orgId id := by
  rw [Org.viewAllMembersInOrganizationService, Org.getOrganizationMembersById, joins_read]
  constructor
  · intro named
    obtain ⟨member, among, mine⟩ := List.mem_flatMap.mp named
    obtain ⟨membership, selected, joined⟩ := List.mem_filterMap.mp among
    obtain ⟨row, view, shown⟩ := Option.bind_eq_some_iff.mp joined
    obtain ⟨user, found, rfl⟩ := Option.map_eq_some_iff.mp shown
    obtain ⟨stored, place⟩ := List.mem_filter.mp selected
    obtain ⟨-, same⟩ := Database.shows_of_withRole _ _ _ stored view
    have own : id = membership.userId := by
      rw [List.mem_singleton.mp mine, same]
    subst own
    exact ⟨membership, stored, by simpa using place, by rw [view]; rfl, by rw [found]; rfl, rfl⟩
  · rintro ⟨membership, stored, place, joined, there, rfl⟩
    obtain ⟨row, view⟩ := Option.isSome_iff_exists.mp joined
    obtain ⟨user, found⟩ := Option.isSome_iff_exists.mp there
    obtain ⟨-, same⟩ := Database.shows_of_withRole _ _ _ stored view
    refine List.mem_flatMap.mpr
      ⟨{ row with user }, List.mem_filterMap.mpr ⟨membership, ?_, ?_⟩, ?_⟩
    · exact List.mem_filter.mpr ⟨stored, by simpa using place⟩
    · rw [view, found]
      rfl
    · exact List.mem_singleton.mpr (by rw [same])

end Services

end HelpForge.Tickets
