import HelpForge.Org.Service
import HelpForge.Tickets.Credentials
import HelpForge.Tickets.Uniform

set_option autoImplicit false

namespace HelpForge.Tickets

open Lib
open Lib.Program (Related)
open Joined (fill keys)

section Blindness

variable {users users' : List User}

theorem refilled_cases {α : Type} [Joined α] {one other : Option α}
    (refilled : Refilled users users' one other) :
    (one = none ∧ other = none) ∨
      ∃ value value', one = some value ∧ other = some value' ∧
        Refilled users users' value value' := by
  obtain ⟨own, rfl⟩ := refilled
  cases one with
  | none => exact .inl ⟨rfl, rfl⟩
  | some value => exact .inr ⟨value, _, rfl, rfl, Option.some_inj.mp own, rfl⟩

theorem Refilled.ticket {one other : HydratedTicket} (refilled : Refilled users users' one other) :
    other.toTicket = one.toTicket := by
  obtain ⟨-, rfl⟩ := refilled
  rfl

theorem Refilled.listed {one other : ListedTicket} (refilled : Refilled users users' one other) :
    other.toTicket = one.toTicket := by
  obtain ⟨-, rfl⟩ := refilled
  rfl

theorem Refilled.comment {one other : OnTicket AuthoredComment}
    (refilled : Refilled users users' one other) :
    other.row.toTicketComment = one.row.toTicketComment := by
  obtain ⟨-, rfl⟩ := refilled
  rfl

theorem Refilled.attachment {one other : OnTicket UploadedAttachment}
    (refilled : Refilled users users' one other) :
    other.row.toTicketAttachment = one.row.toTicketAttachment := by
  obtain ⟨-, rfl⟩ := refilled
  rfl

section Refilled

variable {one other : List AuthoredComment} (refilled : Refilled users users' one other)

include refilled

theorem refilled_filter (keep : TicketComment → Bool) :
    Refilled users users' (one.filter fun comment => keep comment.toTicketComment)
      (other.filter fun comment => keep comment.toTicketComment) := by
  obtain ⟨own, rfl⟩ := refilled
  have apart (find : Nat → Option User) :
      (one.map (fill find)).filter (fun comment => keep comment.toTicketComment) =
        (one.filter fun comment => keep comment.toTicketComment).map (fill find) := by
    rw [List.filter_map]
    rfl
  constructor
  · change (one.filter _).map _ = _
    rw [← apart]
    exact congrArg (List.filter _) own
  · exact apart _

theorem filterCommentsForRole_refilled (role : OrgRole) :
    Refilled users users' (filterCommentsForRole one role) (filterCommentsForRole other role) := by
  unfold filterCommentsForRole
  split_ifs
  · exact refilled
  · exact refilled_filter refilled fun comment => !comment.isInternal

end Refilled

theorem filterInternalCommentsForRole_refilled {one other : HydratedTicket}
    (refilled : Refilled users users' one other) (role : OrgRole) :
    Refilled users users' (filterInternalCommentsForRole one role)
      (filterInternalCommentsForRole other role) := by
  unfold filterInternalCommentsForRole
  split_ifs
  · exact refilled
  · obtain ⟨own, rfl⟩ := refilled
    have comments : fill (lookup users) one.comments = one.comments :=
      congrArg HydratedTicket.comments own
    have shown : Refilled users users' _ _ := refilled_filter ⟨comments, rfl⟩ fun comment =>
      !comment.isInternal
    constructor
    · exact congrArg₂ (fun (ticket : HydratedTicket) comments => { ticket with comments }) own
        shown.1
    · exact congrArg (fun comments => { fill (lookup users') one with comments }) shown.2

theorem createTag_blind (organizationId : Nat) (name : String) :
    Blind users users' (createTag organizationId name) (createTag organizationId name) Eq := by
  apply Related.attempt
  intro left right swapped
  have tags := swapped.same (fun world => world.db.tags) fun _ _ => rfl
  have organizations := swapped.same (fun world => world.db.findOrganization organizationId)
    fun _ _ => rfl
  have nextId := swapped.same (fun world => world.db.nextId) fun _ _ => rfl
  simp only [tags, organizations, nextId]
  split_ifs
  · rfl
  · rfl
  · exact ⟨rfl, swapped.withDb _ fun _ _ => rfl⟩

theorem addTagToTicket_blind (ticketId tagId : Nat) :
    Blind users users' (addTagToTicket ticketId tagId) (addTagToTicket ticketId tagId) Eq := by
  apply Related.attempt
  intro left right swapped
  have there := swapped.same (fun world => hasTag world.db ticketId tagId) fun _ _ => rfl
  have tickets := swapped.same (fun world => world.db.findTicket ticketId) fun _ _ => rfl
  have tags := swapped.same (fun world => world.db.tags) fun _ _ => rfl
  simp only [there, tickets, tags, onTicket, named]
  split_ifs
  · rfl
  · rfl
  · exact ⟨rfl, swapped.withDb _ fun _ _ => rfl⟩

theorem deleteTicketTag_blind (ticketId tagId : Nat) :
    Blind users users' (deleteTicketTag ticketId tagId) (deleteTicketTag ticketId tagId) Eq := by
  apply Related.attempt
  intro left right swapped
  have there := swapped.same (fun world => hasTag world.db ticketId tagId) fun _ _ => rfl
  have tickets := swapped.same (fun world => world.db.findTicket ticketId) fun _ _ => rfl
  have tags := swapped.same (fun world => world.db.tags) fun _ _ => rfl
  simp only [there, tickets, tags, onTicket, named]
  split_ifs
  · exact ⟨rfl, swapped.withDb _ fun _ _ => rfl⟩
  · rfl

theorem emitTicketEvent_blind (event : TicketEvent) :
    Blind users users' (emitTicketEvent event) (emitTicketEvent event) Eq := by
  apply Related.modify
  · rintro left right ⟨own, rfl⟩
    exact ⟨own, rfl⟩
  · rfl

theorem findBestAutoAssignAgent_blind (locale : Locale) (organizationId : Nat) :
    Blind users users' (findBestAutoAssignAgent locale organizationId)
      (findBestAutoAssignAgent locale organizationId) Eq := by
  apply Related.bind (blind_reads _ fun _ _ => rfl)
  rintro agents _ rfl
  apply Related.bind (blind_reads _ fun _ _ => rfl)
  rintro workloads _ rfl
  apply Related.bind (blind_reads _ fun _ _ => rfl)
  rintro now _ rfl
  exact Related.pure rfl

theorem Blind.option {α : Type} [Joined α] {call : Call (Option α)}
    (blind : Blind users users' call call (Refilled users users')) :
    Blind users users' call call (Option.Rel (Refilled users users')) := by
  -- A row is found in both states or in neither.
  apply blind.mono
  intro one other loaded
  obtain ⟨rfl, rfl⟩ | ⟨row, row', rfl, rfl, alike⟩ := refilled_cases loaded
  · exact .none
  · exact .some alike

def blindness (users users' : List User) : Likeness where
  states := Swapped users users'
  ticket := Refilled users users'
  listed := Refilled users users'
  tickets := Refilled users users'
  agentTickets := Refilled users users'
  comments := Refilled users users'
  activities := Refilled users users'
  attachment := Refilled users users'
  attachments := Refilled users users'

variable (same : ∀ id, (lookup users id).isSome = (lookup users' id).isSome)
include same

theorem blind_uniform : (blindness users users').Uniform where
  membership := membership_blind
  memberships _ := blind_reads _ fun _ _ => rfl
  emits := emitTicketEvent_blind
  bestAgent := findBestAutoAssignAgent_blind
  getTicketById ticketId := (getTicketById_blind ticketId).option
  getTickets := getTickets_blind
  getAgentTickets := getAgentTickets_blind
  createTicket := createTicket_blind same
  writeTicket := writeTicket_blind same
  countAssignment := countAssignment_blind same
  createTicketActivityLog := createTicketActivityLog_blind same
  getTicketComments := getTicketComments_blind
  getTicketActivities := getTicketActivities_blind
  getTicketAttachments := getTicketAttachments_blind
  getTicketAttachmentById attachmentId := (getTicketAttachmentById_blind attachmentId).option
  createTicketAttachment := createTicketAttachment_blind same
  deleteTicketAttachment := deleteTicketAttachment_blind
  getTagById _ := blind_reads _ fun _ _ => rfl
  getTagByName _ _ := blind_reads _ fun _ _ => rfl
  createTag := createTag_blind
  getTags _ := blind_reads _ fun _ _ => rfl
  getTicketTagById _ _ := blind_reads _ fun _ _ => rfl
  addTagToTicket := addTagToTicket_blind
  deleteTicketTag := deleteTicketTag_blind
  ownTicket _ _ := Refilled.ticket
  ownListed _ _ := Refilled.listed
  ownAttachment _ _ := Refilled.attachment
  filteredTicket _ _ role refilled := filterInternalCommentsForRole_refilled refilled role
  filteredComments _ _ role refilled := filterCommentsForRole_refilled refilled role

theorem createTicketService_blind (locale : Locale) (ticketData : TicketData) (userId : Nat) :
    Blind users users' (createTicketService locale ticketData userId)
      (createTicketService locale ticketData userId) (Refilled users users') := by
  refine ((blind_uniform same).createTicketService userId locale ticketData).mono ?_
  rintro (ticket | ticket) (ticket' | ticket') alike
  · exact ⟨congrArg CreatedTicket.listed alike.1, congrArg CreatedTicket.listed alike.2⟩
  · exact alike.elim
  · exact alike.elim
  · exact ⟨congrArg CreatedTicket.assigned alike.1, congrArg CreatedTicket.assigned alike.2⟩

theorem createTicketCommentService_blind (ticketId : Nat) (commentData : CommentData)
    (userId : Nat) :
    Blind users users' (createTicketCommentService ticketId commentData userId)
      (createTicketCommentService ticketId commentData userId) (Refilled users users') := by
  apply (blind_uniform same).admitted
  intro ticket ticket' membership _ own
  dsimp only
  rw [own]
  apply Related.bind (Related.require rfl rfl : Related _ _ _ Eq)
  rintro _ _ rfl
  apply Related.bind (createTicketComment_blind same ticketId userId commentData)
  intro comment comment' refilled
  rw [refilled.comment]
  apply Related.bind (emitTicketEvent_blind _)
  rintro _ _ rfl
  split_ifs
  · obtain ⟨own, rfl⟩ := refilled
    let outward (comment : OnTicket AuthoredComment) : OnTicket AuthoredComment :=
      { comment with row := { comment.row with isInternal := false } }
    exact Related.pure ⟨congrArg outward own, rfl⟩
  · exact Related.pure refilled

theorem deleteTicketCommentService_blind (ticketId commentId userId : Nat) :
    Blind users users' (deleteTicketCommentService ticketId commentId userId)
      (deleteTicketCommentService ticketId commentId userId) (Refilled users users') := by
  apply Related.bind ((blind_uniform same).existingTicket ticketId)
  intro ticket ticket' alike
  rw [Refilled.ticket alike]
  apply Related.bind (getTicketCommentById_blind commentId).option
  rintro _ _ (⟨loaded⟩ | _)
  · rename_i comment comment'
    have own := loaded.comment
    rw [Option.filter_some, Option.filter_some, own]
    split_ifs
    · apply Related.bind ((blind_uniform same).memberOf ticket.organizationId userId _)
      rintro membership _ rfl
      rw [own]
      apply Related.bind (Related.require rfl rfl : Related _ _ _ Eq)
      rintro _ _ rfl
      apply Related.bind (deleteTicketComment_blind commentId)
      intro deleted deleted' gone
      rw [gone.comment]
      apply Related.bind (emitTicketEvent_blind _)
      rintro _ _ rfl
      exact Related.pure gone
    · exact Related.fail _
  · exact Related.fail _

end Blindness

end HelpForge.Tickets
