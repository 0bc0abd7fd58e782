import HelpForge.Tickets.Uniform
import HelpForge.Tickets.Veil

set_option autoImplicit false

namespace HelpForge.Tickets

open Lib
open Program.Related (bind_at)
open Lib.Program (Related SameResult)

def TicketCall.Touches (world : World) (userId : Nat) : TicketCall → Prop
  -- The call adds an internal comment, or deletes one.
  | .createTicketComment ticketId commentData =>
    commentData.isInternal = true ∧ ∃ ticket membership,
      Admits world ticketId userId (fun role ticket => canSee role ticket userId) ticket
        membership ∧ canCreateInternalComment membership.role = true
  | .deleteTicketComment ticketId commentId =>
    ∃ ticket comment membership, world.db.findTicket ticketId = some ticket ∧
      findComment world.db commentId = some comment ∧ comment.ticketId = ticketId ∧
      comment.isInternal = true ∧
      seenMembership world ticket.organizationId userId = some membership ∧
      canDelete canDeleteAnyTicketComment membership.role ticket comment.authorId userId = true
  | _ => False

inductive SameButText : TicketCall → TicketCall → Prop
  | same (call : TicketCall) : SameButText call call
  | text (ticketId : Nat) (message message' : String) :
    SameButText (.createTicketComment ticketId ⟨message, true⟩)
      (.createTicketComment ticketId ⟨message', true⟩)

section Services

variable {stored : Nat → Nat → Option OrgRole}

theorem emitTicketEvent_veils (event : TicketEvent) :
    Veils stored (emitTicketEvent event) (emitTicketEvent event) Eq := by
  apply Related.modify
  · rintro left right ⟨rfl, roles, current⟩
    exact ⟨rfl, roles, current⟩
  · rfl

theorem findBestAutoAssignAgent_veils (locale : Locale) (organizationId : Nat) :
    Veils stored (findBestAutoAssignAgent locale organizationId)
      (findBestAutoAssignAgent locale organizationId) Eq := by
  apply Related.bind (veils_looks _ fun _ => rfl)
  rintro agents _ rfl
  apply Related.bind (veils_looks _ fun _ => rfl)
  rintro workloads _ rfl
  apply Related.bind (veils_looks _ fun _ => rfl)
  rintro now _ rfl
  exact Related.pure rfl

def veiling (stored : Nat → Nat → Option OrgRole) : Likeness where
  states := Veiled stored
  ticket one other := other = one.veiled
  listed := Eq
  tickets := Eq
  agentTickets := Eq
  comments one other := other = one.map AuthoredComment.veiled
  activities := Eq
  attachment := Eq
  attachments := Eq

theorem veils_uniform (stored : Nat → Nat → Option OrgRole) : (veiling stored).Uniform where
  membership := membership_veils
  memberships _ := veils_looks _ fun _ => rfl
  emits := emitTicketEvent_veils
  bestAgent := findBestAutoAssignAgent_veils
  getTicketById ticketId := by
    apply (getTicketById_veils ticketId).mono
    rintro (_ | ticket) _ rfl
    · exact .none
    · exact .some rfl
  getTickets _ := veils_looks _ fun _ => rfl
  getAgentTickets _ := veils_looks _ fun _ => rfl
  createTicket := createTicket_veils
  writeTicket := writeTicket_veils
  countAssignment := countAssignment_veils
  createTicketActivityLog := createTicketActivityLog_veils
  getTicketComments := getTicketComments_veils
  getTicketActivities _ := veils_looks _ fun _ => rfl
  getTicketAttachments _ := veils_looks _ fun _ => rfl
  getTicketAttachmentById attachmentId := by
    have found : Veils stored (getTicketAttachmentById attachmentId)
        (getTicketAttachmentById attachmentId) Eq := veils_looks _ fun _ => rfl
    apply found.mono
    rintro (_ | attachment) _ rfl
    · exact .none
    · exact .some rfl
  createTicketAttachment := createTicketAttachment_veils
  deleteTicketAttachment := deleteTicketAttachment_veils
  getTagById _ := veils_looks _ fun _ => rfl
  getTagByName _ _ := veils_looks _ fun _ => rfl
  createTag := createTag_veils
  getTags _ := veils_looks _ fun _ => rfl
  getTicketTagById _ _ := veils_looks _ fun _ => rfl
  addTagToTicket := addTagToTicket_veils
  deleteTicketTag := deleteTicketTag_veils
  ownTicket := by
    rintro ticket _ rfl
    rfl
  ownListed := by
    rintro ticket _ rfl
    rfl
  ownAttachment := by
    rintro attachment _ rfl
    rfl
  filteredTicket := by
    rintro ticket _ role rfl
    exact filterInternalCommentsForRole_veiled ticket role
  filteredComments := by
    rintro comments _ role rfl
    exact filterCommentsForRole_veiled comments role

def whatever {α β : Type} (_ : α) (_ : β) : Prop := True

theorem refused_veils {β γ : Type} {failure : ServiceError} {rest : Unit → Call β}
    {rest' : Unit → Call γ} {values : β → γ → Prop} {condition : Bool}
    (refused : condition = false) :
    Veils stored (Program.require condition failure >>= rest)
      (Program.require condition failure >>= rest') values := by
  subst refused
  exact Related.fail failure

theorem createTicketCommentService_veils (ticketId : Nat) (commentData : CommentData) (userId : Nat)
    (shown : commentData.isInternal = false) :
    Veils stored (createTicketCommentService ticketId commentData userId)
      (createTicketCommentService ticketId commentData userId) whatever := by
  apply (veils_uniform stored).admitted
  rintro ticket _ membership rfl -
  apply Related.bind (Related.require rfl rfl : Related _ _ _ Eq)
  rintro _ _ rfl
  apply Related.bind (createTicketComment_veils ticketId userId commentData shown)
  rintro _ comment rfl
  apply Related.bind (emitTicketEvent_veils _)
  rintro _ _ rfl
  split_ifs
  · exact Related.pure trivial
  · exact Related.pure trivial

theorem deleteTicketComment_open {left right : World} (veiled : Veiled stored left right)
    {commentId : Nat} {comment : TicketComment}
    (found : findComment left.db commentId = some comment) (shown : comment.isInternal = false) :
    SameResult Eq ((deleteTicketComment commentId).run left).1
        ((deleteTicketComment commentId).run right).1 ∧
      Veiled stored ((deleteTicketComment commentId).run left).2
        ((deleteTicketComment commentId).run right).2 := by
  -- An open comment is deleted with its text.
  obtain ⟨alike, reached⟩ := deleteTicketComment_veils commentId left right veiled
  refine ⟨?_, reached⟩
  have ran : ((deleteTicketComment commentId).run left).1 =
      .ok (onTicket left.db (authored left.db comment) comment.ticketId) := by
    rw [deleteTicketComment, Program.run_attempt, found]
  have same : veiledRow (onTicket left.db (authored left.db comment) comment.ticketId) =
      onTicket left.db (authored left.db comment) comment.ticketId :=
    congrArg (fun row => OnTicket.mk row _) (AuthoredComment.veiled_open shown)
  rw [ran] at alike ⊢
  rcases other : ((deleteTicketComment commentId).run right).1 with failure | deleted
  · rw [other] at alike
    exact alike
  · rw [other] at alike
    exact (alike.trans same).symm

section At

variable {left right : World} (veiled : Veiled stored left right) (ticketId userId : Nat)
include veiled

theorem createTicketCommentService_refused (message message' : String)
    (discreet : ¬(TicketCall.createTicketComment ticketId ⟨message, true⟩).Touches left userId) :
    SameResult whatever ((createTicketCommentService ticketId ⟨message, true⟩ userId).run left).1
        ((createTicketCommentService ticketId ⟨message', true⟩ userId).run right).1 ∧
      Veiled stored ((createTicketCommentService ticketId ⟨message, true⟩ userId).run left).2
        ((createTicketCommentService ticketId ⟨message', true⟩ userId).run right).2 := by
  -- Comments that are to be internal are refused, whatever they say.
  apply bind_at ((veils_uniform stored).admits _ _ _ _ left right veiled)
  rintro ⟨ticket, _⟩ ⟨ticket', membership⟩ middle middle' ran - ⟨-, same⟩ looked
  obtain rfl : membership = _ := same
  -- Whoever is admitted lacks the permission, or the call would touch a comment.
  obtain ⟨row, admits, -, -⟩ := admitted_ok _ _ _ _ _ _ ran
  have refused : canCreateInternalComment membership.role = false := by
    rw [Bool.eq_false_iff]
    exact fun permitted => discreet ⟨rfl, row, membership, admits, permitted⟩
  exact refused_veils (by simp [refused]) middle middle' looked

theorem deleteTicketCommentService_discreet (commentId : Nat)
    (discreet : ¬(TicketCall.deleteTicketComment ticketId commentId).Touches left userId) :
    SameResult whatever ((deleteTicketCommentService ticketId commentId userId).run left).1
        ((deleteTicketCommentService ticketId commentId userId).run right).1 ∧
      Veiled stored ((deleteTicketCommentService ticketId commentId userId).run left).2
        ((deleteTicketCommentService ticketId commentId userId).run right).2 := by
  -- A comment that is deleted was not internal.
  apply bind_at ((veils_uniform stored).existingTicket ticketId left right veiled)
  rintro ticket _ middle middle' existing - rfl loaded
  obtain ⟨⟨row, found, rfl⟩, rfl⟩ := (existingTicket_ok ..).mp existing
  have read : Veils stored (getTicketCommentById commentId) (getTicketCommentById commentId)
      fun one other => other = one.map veiledRow := by
    apply veils_reads
    intro world
    change (findComment (veilDb world.db) commentId).map _ = _
    rw [findComment_veilDb, Option.map_map, Option.map_map]
    rfl
  apply bind_at (read middle middle' loaded)
  rintro comment _ later later' listed - rfl known
  rw [getTicketCommentById, Program.run_reads, Prod.mk.injEq, Except.ok.injEq] at listed
  obtain ⟨rfl, rfl⟩ := listed
  -- Without such a comment, or with one of another ticket, the call fails in both states.
  cases sought : findComment middle.db commentId with
  | none => exact Related.fail _ middle later' known
  | some comment =>
    rw [Option.map_some, Option.map_some]
    by_cases own : comment.ticketId = ticketId
    · have kept (row : OnTicket AuthoredComment) (same : row.row.ticketId = comment.ticketId) :
          (some row).filter (fun comment => comment.row.ticketId == ticketId) = some row := by
        simp [same, own]
      rw [kept _ rfl, kept _ rfl]
      apply bind_at
        ((veils_uniform stored).memberOf row.organizationId userId _ middle later' known)
      rintro membership _ after after' member - rfl seen
      obtain ⟨recognized, rfl⟩ := (memberOf_ok ..).mp member
      by_cases permitted : canDelete canDeleteAnyTicketComment membership.role row comment.authorId
          userId = true
      · -- Whoever is let through would touch an internal comment; an open one keeps its text.
        have shown : comment.isInternal = false := by
          rw [Bool.eq_false_iff]
          exact fun internal => discreet
            ⟨row, comment, membership, found, sought, own, internal, recognized, permitted⟩
        apply bind_at ((Related.require rfl rfl : Related _ _ _ Eq) _ after' seen)
        rintro _ _ last last' checked - rfl allowed
        obtain ⟨-, rfl⟩ := (Program.require_ok ..).mp checked
        have still : findComment (afterLooking middle row.organizationId userId).db commentId =
            some comment := by
          rw [afterLooking_db]
          exact sought
        apply bind_at (deleteTicketComment_open allowed still shown)
        rintro _ deleted gone gone' - - rfl left_
        apply bind_at (emitTicketEvent_veils _ gone gone' left_)
        rintro _ _ told told' - - - emitted
        exact Related.pure trivial told told' emitted
      · exact refused_veils (Bool.eq_false_iff.mpr permitted) _ after' seen
    · have dropped (row : OnTicket AuthoredComment) (same : row.row.ticketId = comment.ticketId) :
          (some row).filter (fun comment => comment.row.ticketId == ticketId) = none := by
        simp [same, own]
      rw [dropped _ rfl, dropped _ rfl]
      exact Related.fail _ middle later' known

theorem service_discreet (locale : Locale) {call call' : TicketCall}
    (alike : SameButText call call') (discreet : ¬call.Touches left userId) :
    Veiled stored ((call.service locale userId).run left).2
      ((call'.service locale userId).run right).2 := by
  -- What a call leaves is veiled if it neither adds nor deletes an internal comment.
  have plainly {α : Type} {service : Call α} {values : α → α → Prop}
      (veils : Veils stored service service values) :
      Veiled stored ((service >>= fun _ => pure () : Call Unit).run left).2
        ((service >>= fun _ => pure () : Call Unit).run right).2 := by
    rw [run_discard, run_discard]
    exact (veils left right veiled).2
  have uniform := veils_uniform stored
  cases alike with
  | text ticketId message message' =>
    rw [TicketCall.service, TicketCall.service, run_discard, run_discard]
    exact (createTicketCommentService_refused veiled ticketId userId message message' discreet).2
  | same =>
    cases call with
    | createTicket ticketData =>
      exact plainly (uniform.createTicketService userId locale ticketData)
    | autoAssignTicket ticketId =>
      exact plainly (uniform.autoAssignTicketService ticketId userId locale)
    | assignTicket ticketId assignedToId =>
      exact plainly (uniform.assignTicketService ticketId userId assignedToId)
    | getTickets query => exact plainly (uniform.getTicketsService userId query)
    | getMyAgentTickets query => exact plainly (uniform.getMyAgentTicketsService userId query)
    | getTicketById ticketId => exact plainly (uniform.getTicketByIdService ticketId userId)
    | updateTicket ticketId ticketData =>
      exact plainly (uniform.updateTicketService ticketId userId ticketData)
    | updateTicketStatus ticketId status =>
      exact plainly (uniform.updateTicketStatusService ticketId userId status)
    | createTicketComment ticketId commentData =>
      obtain ⟨message, _ | _⟩ := commentData
      · exact plainly (createTicketCommentService_veils ticketId ⟨message, false⟩ userId rfl)
      · rw [TicketCall.service, run_discard, run_discard]
        exact (createTicketCommentService_refused veiled ticketId userId message message discreet).2
    | getTicketComments ticketId => exact plainly (uniform.getTicketCommentsService ticketId userId)
    | getTicketActivities ticketId =>
      exact plainly (uniform.getTicketActivitiesService ticketId userId)
    | deleteTicketComment ticketId commentId =>
      rw [TicketCall.service, run_discard, run_discard]
      exact (deleteTicketCommentService_discreet veiled ticketId userId commentId discreet).2
    | createTicketAttachment ticketId attachmentData =>
      exact plainly (uniform.createTicketAttachmentService ticketId userId attachmentData)
    | getTicketAttachments ticketId =>
      exact plainly (uniform.getTicketAttachmentsService ticketId userId)
    | deleteTicketAttachment ticketId attachmentId =>
      exact plainly (uniform.deleteTicketAttachmentService ticketId userId attachmentId)
    | createTag organizationId name =>
      exact plainly (uniform.createTagService userId organizationId name)
    | getTags organizationId => exact plainly (uniform.getTagsService userId organizationId)
    | addTicketTag ticketId tagId =>
      exact plainly (uniform.addTicketTagService ticketId userId tagId)
    | deleteTicketTag ticketId tagId =>
      exact plainly (uniform.deleteTicketTagService ticketId userId tagId)

end At

end Services

theorem touches_veil (world : World) (userId : Nat) (call : TicketCall) :
    call.Touches (veil world) userId ↔ call.Touches world userId := by
  -- The veil does not change what a call does to internal comments.
  cases call with
  | createTicketComment ticketId commentData =>
    have admits (allowed : OrgRole → Ticket → Bool) (ticket : Ticket)
        (membership : OrganizationMembership) :
        Admits (veil world) ticketId userId allowed ticket membership ↔
          Admits world ticketId userId allowed ticket membership :=
      ⟨fun ⟨found, seen, allows⟩ => ⟨found, seen, allows⟩,
        fun ⟨found, seen, allows⟩ => ⟨found, seen, allows⟩⟩
    simp only [TicketCall.Touches, admits]
  | deleteTicketComment ticketId commentId =>
    have found : findComment (veil world).db commentId =
        (findComment world.db commentId).map veiled := findComment_veilDb world.db commentId
    simp only [TicketCall.Touches, found, Option.map_eq_some_iff]
    constructor
    · rintro ⟨ticket, _, membership, stored, ⟨comment, sought, rfl⟩, rest⟩
      exact ⟨ticket, comment, membership, stored, sought, rest⟩
    · rintro ⟨ticket, comment, membership, stored, sought, rest⟩
      exact ⟨ticket, veiled comment, membership, stored, ⟨comment, sought, rfl⟩, rest⟩
  | _ => exact Iff.rfl

end HelpForge.Tickets
