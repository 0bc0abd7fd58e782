import HelpForge.Tickets.Service
import Mathlib.Data.Option.Basic

set_option autoImplicit false

namespace HelpForge.Tickets

open Lib
open Lib.Program (Related)

structure Likeness where
  states : World → World → Prop
  ticket : HydratedTicket → HydratedTicket → Prop
  listed : ListedTicket → ListedTicket → Prop
  tickets : List ListedTicket → List ListedTicket → Prop
  agentTickets : List AgentTicket → List AgentTicket → Prop
  comments : List AuthoredComment → List AuthoredComment → Prop
  activities : List ActedActivity → List ActedActivity → Prop
  attachment : OnTicket UploadedAttachment → OnTicket UploadedAttachment → Prop
  attachments : List UploadedAttachment → List UploadedAttachment → Prop

namespace Likeness

def created (like : Likeness) : CreatedTicket → CreatedTicket → Prop
  | .listed one, .listed other => like.listed one other
  | .assigned one, .assigned other => like.ticket one other
  | _, _ => False

abbrev Goes (like : Likeness) {α : Type} (call : Call α) (values : α → α → Prop) : Prop :=
  -- The call goes alike in both states.
  Related like.states call call values

structure Uniform (like : Likeness) : Prop where
  membership : ∀ organizationId userId,
    like.Goes (Org.getTicketOrganizationMembership organizationId userId) Eq
  memberships : ∀ userId, like.Goes (getTicketMembershipsByUserId userId) Eq
  emits : ∀ event, like.Goes (emitTicketEvent event) Eq
  bestAgent : ∀ locale organizationId, like.Goes (findBestAutoAssignAgent locale organizationId) Eq
  getTicketById : ∀ ticketId, like.Goes (getTicketById ticketId) (Option.Rel like.ticket)
  getTickets : ∀ filters, like.Goes (getTickets filters) like.tickets
  getAgentTickets : ∀ filters, like.Goes (getAgentTickets filters) like.agentTickets
  createTicket : ∀ data createdById, like.Goes (createTicket data createdById) like.listed
  writeTicket : ∀ ticketId change activity,
    like.Goes (writeTicket ticketId change activity) like.ticket
  countAssignment : ∀ organizationId agentUserId,
    like.Goes (countAssignment organizationId agentUserId) Eq
  createTicketActivityLog : ∀ ticketId actorId action oldValue newValue,
    like.Goes (createTicketActivityLog ticketId actorId action oldValue newValue) Eq
  getTicketComments : ∀ ticketId, like.Goes (getTicketComments ticketId) like.comments
  getTicketActivities : ∀ ticketId, like.Goes (getTicketActivities ticketId) like.activities
  getTicketAttachments : ∀ ticketId, like.Goes (getTicketAttachments ticketId) like.attachments
  getTicketAttachmentById : ∀ attachmentId,
    like.Goes (getTicketAttachmentById attachmentId) (Option.Rel like.attachment)
  createTicketAttachment : ∀ ticketId uploadedBy data,
    like.Goes (createTicketAttachment ticketId uploadedBy data) like.attachment
  deleteTicketAttachment : ∀ attachmentId,
    like.Goes (deleteTicketAttachment attachmentId) like.attachment
  getTagById : ∀ tagId, like.Goes (getTagById tagId) Eq
  getTagByName : ∀ organizationId name, like.Goes (getTagByName organizationId name) Eq
  createTag : ∀ organizationId name, like.Goes (createTag organizationId name) Eq
  getTags : ∀ organizationId, like.Goes (getTags organizationId) Eq
  getTicketTagById : ∀ ticketId tagId, like.Goes (getTicketTagById ticketId tagId) Eq
  addTagToTicket : ∀ ticketId tagId, like.Goes (addTagToTicket ticketId tagId) Eq
  deleteTicketTag : ∀ ticketId tagId, like.Goes (deleteTicketTag ticketId tagId) Eq
  ownTicket : ∀ one other, like.ticket one other → other.toTicket = one.toTicket
  ownListed : ∀ one other, like.listed one other → other.toTicket = one.toTicket
  ownAttachment : ∀ one other, like.attachment one other →
    other.row.toTicketAttachment = one.row.toTicketAttachment
  filteredTicket : ∀ one other role, like.ticket one other →
    like.ticket (filterInternalCommentsForRole one role) (filterInternalCommentsForRole other role)
  filteredComments : ∀ one other role, like.comments one other →
    like.comments (filterCommentsForRole one role) (filterCommentsForRole other role)

namespace Uniform

variable {like : Likeness} (uniform : like.Uniform) {α β : Type} {values : α → β → Prop}
include uniform

omit uniform in
theorem orFail {γ : Type} (found : Option γ) (failure : ServiceError) {rest : γ → Call α}
    {rest' : γ → Call β}
    (continued : ∀ value, Related like.states (rest value) (rest' value) values) :
    Related like.states (Program.orFail found failure >>= rest)
      (Program.orFail found failure >>= rest') values := by
  cases found with
  | none => exact Related.fail failure
  | some value => exact continued value

theorem memberOf (organizationId userId : Nat) (message : String) :
    like.Goes (memberOf organizationId userId message) Eq := by
  apply Related.bind (uniform.membership organizationId userId)
  rintro membership _ rfl
  cases membership with
  | none => exact Related.fail _
  | some membership => exact Related.pure rfl

theorem existingTicket (ticketId : Nat) : like.Goes (existingTicket ticketId) like.ticket := by
  apply Related.bind (uniform.getTicketById ticketId)
  rintro _ _ (loaded | _)
  · exact Related.pure loaded
  · exact Related.fail _

section OrgRole

variable (ticketId userId : Nat) (message : String) (allowed : OrgRole → Ticket → Bool)

theorem admits :
    like.Goes (Tickets.admitted ticketId userId message allowed)
      fun one other => like.ticket one.1 other.1 ∧ other.2 = one.2 := by
  apply Related.bind (uniform.existingTicket ticketId)
  intro ticket ticket' alike
  rw [uniform.ownTicket ticket ticket' alike]
  apply Related.bind (uniform.memberOf ticket.organizationId userId message)
  rintro membership _ rfl
  apply Related.bind (Related.require rfl rfl : Related _ _ _ Eq)
  rintro _ _ rfl
  exact Related.pure ⟨alike, rfl⟩

theorem admitted {rest : HydratedTicket × OrganizationMembership → Call α}
    {rest' : HydratedTicket × OrganizationMembership → Call β}
    (continued : ∀ ticket ticket' membership, like.ticket ticket ticket' →
      ticket'.toTicket = ticket.toTicket →
        Related like.states (rest (ticket, membership)) (rest' (ticket', membership)) values) :
    Related like.states (Tickets.admitted ticketId userId message allowed >>= rest)
      (Tickets.admitted ticketId userId message allowed >>= rest') values := by
  -- What follows an admission goes on with the same ticket and the same membership.
  apply Related.bind (uniform.admits ticketId userId message allowed)
  rintro ⟨ticket, membership⟩ ⟨ticket', _⟩ ⟨alike, rfl⟩
  exact continued ticket ticket' _ alike (uniform.ownTicket ticket ticket' alike)

end OrgRole

theorem validateTicketAssignee (organizationId : Nat) (assignedToId : Option Nat) :
    like.Goes (validateTicketAssignee organizationId assignedToId) Eq := by
  cases assignedToId with
  | none => exact Related.pure rfl
  | some assignedToId =>
    apply Related.bind (uniform.membership organizationId assignedToId)
    rintro membership _ rfl
    exact Related.require rfl rfl

omit uniform in
theorem assertCanUpdateTicket (role : OrgRole) (ticket : Ticket) (userId : Nat)
    (updates : TicketUpdates) :
    like.Goes (assertCanUpdateTicket role ticket userId updates) Eq := by
  unfold Tickets.assertCanUpdateTicket
  split_ifs
  · exact Related.pure rfl
  · apply Related.bind (Related.require rfl rfl : Related _ _ _ Eq)
    rintro _ _ rfl
    exact Related.require rfl rfl

omit uniform in
theorem parseDateFilter (value : Option (Read Nat)) (fieldName : String) :
    like.Goes (parseDateFilter value fieldName) Eq := by
  rcases value with - | - | time
  · exact Related.pure rfl
  · exact Related.fail _
  · exact Related.pure rfl

omit uniform in
theorem validateListFilters (query : TicketQuery) (requireOrganizationId : Bool) :
    like.Goes (validateListFilters query requireOrganizationId) Eq := by
  have checks (condition : Bool) (failure : ServiceError) :
      like.Goes (Program.require condition failure) Eq := Related.require rfl rfl
  apply Related.bind (checks _ _)
  rintro _ _ rfl
  apply Related.bind (checks _ _)
  rintro _ _ rfl
  apply Related.bind (checks _ _)
  rintro _ _ rfl
  apply Related.bind (checks _ _)
  rintro _ _ rfl
  apply Related.bind (parseDateFilter _ _)
  rintro start _ rfl
  apply Related.bind (parseDateFilter _ _)
  rintro stop _ rfl
  exact checks _ _

omit uniform in
theorem buildCommonTicketFilters (query : TicketQuery) (userId : Nat) :
    like.Goes (buildCommonTicketFilters query userId) Eq := by
  apply Related.bind (parseDateFilter _ _)
  rintro start _ rfl
  apply Related.bind (parseDateFilter _ _)
  rintro stop _ rfl
  exact Related.pure rfl

theorem autoAssignTicketForOrganization (locale : Locale) (ticket : Ticket) :
    like.Goes (autoAssignTicketForOrganization locale ticket) like.ticket := by
  apply Related.bind (uniform.bestAgent locale ticket.organizationId)
  rintro agent _ rfl
  apply orFail
  intro agentUserId
  apply Related.transaction
  apply Related.bind (uniform.countAssignment _ _)
  rintro _ _ rfl
  apply Related.bind (uniform.createTicketActivityLog _ _ _ _ _)
  rintro _ _ rfl
  exact uniform.writeTicket _ _ _

section Reading

variable (ticketId userId : Nat) (query : TicketQuery)

theorem getTicketsService : like.Goes (getTicketsService query userId) like.tickets := by
  apply Related.bind (validateListFilters query true)
  rintro _ _ rfl
  apply orFail
  intro organizationId
  apply Related.bind (uniform.memberOf organizationId userId _)
  rintro membership _ rfl
  apply Related.bind (buildCommonTicketFilters query userId)
  rintro filters _ rfl
  exact uniform.getTickets _

theorem getMyAgentTicketsService :
    like.Goes (getMyAgentTicketsService query userId) like.agentTickets := by
  apply Related.bind (validateListFilters query false)
  rintro _ _ rfl
  apply Related.bind (uniform.memberships userId)
  rintro memberships _ rfl
  apply Related.bind (Related.require rfl rfl : Related _ _ _ Eq)
  rintro _ _ rfl
  apply Related.bind (Related.require rfl rfl : Related _ _ _ Eq)
  rintro _ _ rfl
  apply Related.bind (buildCommonTicketFilters _ userId)
  rintro filters _ rfl
  exact uniform.getAgentTickets _

theorem getTicketByIdService : like.Goes (getTicketByIdService ticketId userId) like.ticket := by
  apply uniform.admitted
  intro ticket ticket' membership alike _
  exact Related.pure (uniform.filteredTicket ticket ticket' membership.role alike)

theorem getTicketCommentsService :
    like.Goes (getTicketCommentsService ticketId userId) like.comments := by
  apply uniform.admitted
  intro ticket ticket' membership _ _
  apply Related.bind (uniform.getTicketComments ticketId)
  intro comments comments' alike
  exact Related.pure (uniform.filteredComments comments comments' membership.role alike)

theorem getTicketActivitiesService :
    like.Goes (getTicketActivitiesService ticketId userId) like.activities := by
  apply uniform.admitted
  intro ticket ticket' membership _ _
  exact uniform.getTicketActivities ticketId

theorem getTicketAttachmentsService :
    like.Goes (getTicketAttachmentsService ticketId userId) like.attachments := by
  apply uniform.admitted
  intro ticket ticket' membership _ _
  exact uniform.getTicketAttachments ticketId

end Reading

/-! ### The services that write

Those that write comments are left out: their texts go into the events. -/

section Writing

variable (ticketId userId : Nat) (locale : Locale)

theorem createTicketService (ticketData : TicketData) :
    like.Goes (createTicketService locale ticketData userId) like.created := by
  apply Related.bind (uniform.memberOf ticketData.organizationId userId _)
  rintro membership _ rfl
  apply Related.bind (uniform.validateTicketAssignee _ _)
  rintro _ _ rfl
  apply Related.bind (uniform.createTicket ticketData userId)
  intro ticket ticket' alike
  have listed : like.created (.listed ticket) (.listed ticket') := alike
  rw [uniform.ownListed ticket ticket' alike]
  apply Related.bind (uniform.emits _)
  rintro _ _ rfl
  split_ifs
  · exact Related.pure listed
  · apply Related.recover
    · apply Related.bind (uniform.autoAssignTicketForOrganization locale ticket.toTicket)
      intro assigned assigned' alike
      exact Related.pure alike
    · intro failure
      split_ifs
      · exact Related.pure listed
      · exact Related.fail failure

theorem autoAssignTicketService :
    like.Goes (autoAssignTicketService locale ticketId userId) like.ticket := by
  apply uniform.admitted
  intro ticket ticket' membership _ own
  dsimp only
  rw [own]
  exact uniform.autoAssignTicketForOrganization locale ticket.toTicket

theorem assignTicketService (assignedToId : Nat) :
    like.Goes (assignTicketService ticketId assignedToId userId) like.ticket := by
  apply uniform.admitted
  intro ticket ticket' membership _ own
  dsimp only
  rw [own]
  apply Related.bind (uniform.validateTicketAssignee _ _)
  rintro _ _ rfl
  apply Related.bind (uniform.writeTicket ticketId _ none)
  intro written written' alike
  rw [uniform.ownTicket written written' alike]
  apply Related.bind (uniform.emits _)
  rintro _ _ rfl
  exact Related.pure alike

theorem updateTicketService (ticketData : TicketUpdates) :
    like.Goes (updateTicketService ticketId ticketData userId) like.ticket := by
  apply uniform.admitted
  intro ticket ticket' membership _ own
  dsimp only
  rw [own]
  apply Related.bind (assertCanUpdateTicket _ _ userId ticketData)
  rintro _ _ rfl
  apply Related.bind (uniform.validateTicketAssignee _ _)
  rintro _ _ rfl
  apply Related.bind (uniform.writeTicket ticketId _ _)
  intro written written' alike
  exact Related.pure (uniform.filteredTicket written written' membership.role alike)

theorem updateTicketStatusService (status : TicketStatus) :
    like.Goes (updateTicketStatusService ticketId status userId) like.ticket := by
  apply uniform.admitted
  intro ticket ticket' membership _ own
  dsimp only
  rw [own]
  apply Related.bind (uniform.writeTicket ticketId _ none)
  intro written written' alike
  rw [uniform.ownTicket written written' alike]
  apply Related.bind (uniform.emits _)
  rintro _ _ rfl
  exact Related.pure alike

theorem createTicketAttachmentService (attachmentData : AttachmentData) :
    like.Goes (createTicketAttachmentService ticketId attachmentData userId) like.attachment := by
  apply uniform.admitted
  intro ticket ticket' membership _ own
  dsimp only
  rw [own]
  apply Related.bind (uniform.createTicketAttachment ticketId userId attachmentData)
  intro attachment attachment' alike
  rw [uniform.ownAttachment attachment attachment' alike]
  apply Related.bind (uniform.emits _)
  rintro _ _ rfl
  exact Related.pure alike

theorem deleteTicketAttachmentService (attachmentId : Nat) :
    like.Goes (deleteTicketAttachmentService ticketId attachmentId userId) like.attachment := by
  apply Related.bind (uniform.existingTicket ticketId)
  intro ticket ticket' same
  rw [uniform.ownTicket ticket ticket' same]
  apply Related.bind (uniform.getTicketAttachmentById attachmentId)
  rintro _ _ (⟨loaded⟩ | _)
  · rename_i attachment attachment'
    have own := uniform.ownAttachment attachment attachment' loaded
    rw [Option.filter_some, Option.filter_some, own]
    split_ifs
    · apply Related.bind (uniform.memberOf ticket.organizationId userId _)
      rintro membership _ rfl
      rw [own]
      apply Related.bind (Related.require rfl rfl : Related _ _ _ Eq)
      rintro _ _ rfl
      apply Related.bind (uniform.deleteTicketAttachment attachmentId)
      intro deleted deleted' gone
      rw [uniform.ownAttachment deleted deleted' gone]
      apply Related.bind (uniform.emits _)
      rintro _ _ rfl
      exact Related.pure gone
    · exact Related.fail _
  · exact Related.fail _

variable (organizationId : Nat)

theorem createTagService (name : String) :
    like.Goes (createTagService organizationId name userId) Eq := by
  apply Related.bind (uniform.memberOf organizationId userId _)
  rintro membership _ rfl
  apply Related.bind (Related.require rfl rfl : Related _ _ _ Eq)
  rintro _ _ rfl
  apply Related.bind (uniform.getTagByName organizationId name)
  rintro existing _ rfl
  apply Related.bind (Related.require rfl rfl : Related _ _ _ Eq)
  rintro _ _ rfl
  exact uniform.createTag organizationId name

theorem getTagsService : like.Goes (getTagsService organizationId userId) Eq := by
  apply Related.bind (uniform.memberOf organizationId userId _)
  rintro membership _ rfl
  exact uniform.getTags organizationId

theorem addTicketTagService (tagId : Nat) :
    like.Goes (addTicketTagService ticketId tagId userId) Eq := by
  apply uniform.admitted
  intro ticket ticket' membership _ own
  dsimp only
  rw [own]
  apply Related.bind (uniform.getTagById tagId)
  rintro tag _ rfl
  apply orFail
  intro _
  apply Related.bind (uniform.getTicketTagById ticketId tagId)
  rintro existing _ rfl
  apply Related.bind (Related.require rfl rfl : Related _ _ _ Eq)
  rintro _ _ rfl
  apply Related.bind (uniform.addTagToTicket ticketId tagId)
  rintro added _ rfl
  apply Related.bind (uniform.emits _)
  rintro _ _ rfl
  exact Related.pure rfl

theorem deleteTicketTagService (tagId : Nat) :
    like.Goes (deleteTicketTagService ticketId tagId userId) Eq := by
  apply uniform.admitted
  intro ticket ticket' membership _ own
  dsimp only
  rw [own]
  apply Related.bind (uniform.getTicketTagById ticketId tagId)
  rintro existing _ rfl
  apply orFail
  intro _
  apply Related.bind (uniform.deleteTicketTag ticketId tagId)
  rintro deleted _ rfl
  apply Related.bind (uniform.emits _)
  rintro _ _ rfl
  exact Related.pure rfl

end Writing

end Uniform

end Likeness

end HelpForge.Tickets
