import HelpForge.Tickets.AutoAssign

set_option autoImplicit false

/-!
# The ticket services

Identifiers are generated; the checks for missing ones are left out.
-/

namespace HelpForge.Tickets

open Lib
open Org (getTicketOrganizationMembership)

def forbidden (message : String) : ServiceError := .api 403 message "FORBIDDEN"

def memberOf (organizationId userId : Nat) (message : String) : Call OrganizationMembership := do
  let membership ← getTicketOrganizationMembership organizationId userId
  Program.orFail membership (forbidden message)

def existingTicket (ticketId : Nat) : Call HydratedTicket := do
  let ticket ← getTicketById ticketId
  Program.orFail ticket (.api 404 "Ticket not found" "TICKET_NOT_FOUND")

/-- The ticket and the caller's membership in its organisation, which has to allow the call. -/
def admitted (ticketId userId : Nat) (message : String)
    (allowed : OrgRole → Ticket → Bool := fun _ _ => true) :
    Call (HydratedTicket × OrganizationMembership) := do
  let ticket ← existingTicket ticketId
  let membership ← memberOf ticket.organizationId userId message
  Program.require (allowed membership.role ticket.toTicket) (forbidden message)
  return (ticket, membership)

def emitTicketEvent (event : TicketEvent) : Call Unit :=
  Program.modify fun world => { world with events := world.events ++ [event] }

def filterInternalCommentsForRole (ticket : HydratedTicket) (role : OrgRole) : HydratedTicket :=
  if canViewAllOrganizationTickets role then ticket
  else { ticket with comments := ticket.comments.filter fun comment => !comment.isInternal }

def filterCommentsForRole (comments : List AuthoredComment) (role : OrgRole) :
    List AuthoredComment :=
  if canViewAllOrganizationTickets role then comments
  else comments.filter fun comment => !comment.isInternal

def validateTicketAssignee (organizationId : Nat) (assignedToId : Option Nat) : Call Unit :=
  match assignedToId with
  | none => pure ()
  | some assignedToId => do
    let assignedMembership ← getTicketOrganizationMembership organizationId assignedToId
    Program.require assignedMembership.isSome
      (.api 400 "Assigned user must be a member of the organization" "ASSIGNEE_NOT_MEMBER")

/-- What `createTicketService` returns: the ticket as it was created, or as it was assigned. -/
inductive CreatedTicket where
  | listed (ticket : ListedTicket)
  | assigned (ticket : HydratedTicket)
  deriving DecidableEq, Repr

section Service

variable (locale : Locale)

def createTicketService (ticketData : TicketData) (userId : Nat) : Call CreatedTicket := do
  let _ ← memberOf ticketData.organizationId userId
    "You do not have permission to create tickets for this organization"
  validateTicketAssignee ticketData.organizationId ticketData.assignedToId
  let ticket ← createTicket ticketData userId
  emitTicketEvent
    { name := .created
      ticketId := ticket.id
      organizationId := ticket.organizationId
      actorId := userId
      metadata := { title := some ticket.title } }
  if ticket.assignedToId.isSome then return .listed ticket
  else
    Program.recover
      (do
        let assigned ← autoAssignTicketForOrganization locale ticket.toTicket
        return .assigned assigned)
      fun error =>
        if error.code = some "NO_AGENT_AVAILABLE" then pure (.listed ticket)
        else Program.fail error

def autoAssignTicketService (ticketId userId : Nat) : Call HydratedTicket := do
  let (ticket, _) ← admitted ticketId userId
    "You do not have permission to auto-assign this ticket"
    fun role _ => canAssignOrganizationTickets role
  autoAssignTicketForOrganization locale ticket.toTicket

def assignTicketService (ticketId assignedToId userId : Nat) : Call HydratedTicket := do
  let (ticket, _) ← admitted ticketId userId "You do not have permission to assign this ticket"
    fun role _ => canAssignOrganizationTickets role
  validateTicketAssignee ticket.organizationId (some assignedToId)
  let updatedTicket ← assignTicket ticketId assignedToId
  emitTicketEvent
    { name := .assigned
      ticketId := updatedTicket.id
      organizationId := updatedTicket.organizationId
      actorId := userId
      metadata :=
        { previousAssignedToId := ticket.assignedToId
          assignedToId := updatedTicket.assignedToId } }
  return updatedTicket

def getTicketsService (query : TicketQuery) (userId : Nat) : Call (List ListedTicket) := do
  validateListFilters query
  let organizationId ← Program.orFail query.organizationId
    (.api 400 "Organization ID is required" "ORG_ID_REQUIRED")
  let membership ← memberOf organizationId userId
    "You do not have permission to view tickets for this organization"
  let baseFilters ← buildCommonTicketFilters query userId
  getTickets
    (if canViewAllOrganizationTickets membership.role then baseFilters
    else { baseFilters with seenBy := some userId })

def getTicketMembershipsByUserId (userId : Nat) : Call (List OrganizationMembership) :=
  -- The memberships of the user, joined with their roles.
  Program.reads fun world =>
    (world.db.memberships.filter fun membership => membership.userId == userId).filterMap
      world.db.withRole

def getMyAgentTicketsService (query : TicketQuery) (userId : Nat) : Call (List AgentTicket) := do
  validateListFilters query false
  let memberships ← getTicketMembershipsByUserId userId
  let organizationIds :=
    (memberships.filter fun membership => canViewAllOrganizationTickets membership.role).map
      fun membership => membership.organizationId
  let refused := forbidden "You do not have permission to view assigned agent tickets"
  Program.require (!organizationIds.isEmpty) refused
  Program.require (query.organizationId.all organizationIds.contains) refused
  let baseFilters ← buildCommonTicketFilters { query with assignedToMe := true } userId
  getAgentTickets
    { baseFilters with
      organizationIds := baseFilters.organizationIds.or (some organizationIds) }

def getTicketByIdService (ticketId userId : Nat) : Call HydratedTicket := do
  let (ticket, membership) ← admitted ticketId userId
    "You do not have permission to view this ticket" fun role ticket => canSee role ticket userId
  return filterInternalCommentsForRole ticket membership.role

def updateTicketService (ticketId : Nat) (ticketData : TicketUpdates) (userId : Nat) :
    Call HydratedTicket := do
  let (ticket, membership) ← admitted ticketId userId
    "You do not have permission to update this ticket"
  assertCanUpdateTicket membership.role ticket.toTicket userId ticketData
  validateTicketAssignee ticket.organizationId ticketData.assignedToId
  let updatedTicket ← updateTicket ticketId ticketData userId
  return filterInternalCommentsForRole updatedTicket membership.role

def updateTicketStatusService (ticketId : Nat) (status : TicketStatus) (userId : Nat) :
    Call HydratedTicket := do
  let (ticket, _) ← admitted ticketId userId
    "You do not have permission to update this ticket status"
    fun role _ => canEditAllOrganizationTickets role
  let updatedTicket ← updateTicketStatus ticketId status
  emitTicketEvent
    { name := .statusChanged
      ticketId := updatedTicket.id
      organizationId := updatedTicket.organizationId
      actorId := userId
      metadata := { previousStatus := some ticket.status, status := some updatedTicket.status } }
  return updatedTicket

def createTicketCommentService (ticketId : Nat) (commentData : CommentData) (userId : Nat) :
    Call (OnTicket AuthoredComment) := do
  let (ticket, membership) ← admitted ticketId userId
    "You do not have permission to comment on this ticket"
    fun role ticket => canSee role ticket userId
  Program.require (!commentData.isInternal || canCreateInternalComment membership.role)
    (forbidden "You do not have permission to create internal comments")
  let comment ← createTicketComment ticketId userId commentData
  emitTicketEvent
    { name := .commentAdded
      ticketId := ticket.id
      organizationId := ticket.organizationId
      actorId := userId
      metadata := { message := some comment.row.message } }
  if !canViewAllOrganizationTickets membership.role && comment.row.isInternal then
    return { comment with row := { comment.row with isInternal := false } }
  else return comment

def getTicketCommentsService (ticketId userId : Nat) : Call (List AuthoredComment) := do
  let (_, membership) ← admitted ticketId userId
    "You do not have permission to view comments on this ticket"
    fun role ticket => canSee role ticket userId
  let comments ← getTicketComments ticketId
  return filterCommentsForRole comments membership.role

def getTicketActivitiesService (ticketId userId : Nat) : Call (List ActedActivity) := do
  let _ ← admitted ticketId userId "You do not have permission to view activity on this ticket"
    fun role ticket => canSee role ticket userId
  getTicketActivities ticketId

/-- Whether the caller may delete a row of the ticket that `ownerId` has written. -/
def canDelete (any : OrgRole → Bool) (role : OrgRole) (ticket : Ticket) (ownerId : Option Nat)
    (userId : Nat) : Bool :=
  any role || (canMemberViewTicket ticket userId && ownerId == some userId)

def deleteTicketCommentService (ticketId commentId userId : Nat) :
    Call (OnTicket AuthoredComment) := do
  let ticket ← existingTicket ticketId
  let comment ← getTicketCommentById commentId
  let comment ← Program.orFail (comment.filter fun comment => comment.row.ticketId == ticketId)
    (.api 404 "Comment not found" "COMMENT_NOT_FOUND")
  let membership ← memberOf ticket.organizationId userId
    "You do not have permission to delete comments on this ticket"
  Program.require
    (canDelete canDeleteAnyTicketComment membership.role ticket.toTicket comment.row.authorId userId)
    (forbidden "You do not have permission to delete this comment")
  let deletedComment ← deleteTicketComment commentId
  emitTicketEvent
    { name := .commentDeleted
      ticketId := ticket.id
      organizationId := ticket.organizationId
      actorId := userId
      metadata := { message := some deletedComment.row.message } }
  return deletedComment

def createTicketAttachmentService (ticketId : Nat) (attachmentData : AttachmentData)
    (userId : Nat) : Call (OnTicket UploadedAttachment) := do
  let (ticket, _) ← admitted ticketId userId
    "You do not have permission to add attachments to this ticket"
    fun role ticket => canSee role ticket userId
  let attachment ← createTicketAttachment ticketId userId attachmentData
  emitTicketEvent
    { name := .attachmentAdded
      ticketId := ticket.id
      organizationId := ticket.organizationId
      actorId := userId
      metadata := { fileUrl := some attachment.row.fileUrl } }
  return attachment

def getTicketAttachmentsService (ticketId userId : Nat) : Call (List UploadedAttachment) := do
  let _ ← admitted ticketId userId "You do not have permission to view attachments on this ticket"
    fun role ticket => canSee role ticket userId
  getTicketAttachments ticketId

def deleteTicketAttachmentService (ticketId attachmentId userId : Nat) :
    Call (OnTicket UploadedAttachment) := do
  let ticket ← existingTicket ticketId
  let attachment ← getTicketAttachmentById attachmentId
  let attachment ← Program.orFail
    (attachment.filter fun attachment => attachment.row.ticketId == ticketId)
    (.api 404 "Attachment not found" "ATTACHMENT_NOT_FOUND")
  let membership ← memberOf ticket.organizationId userId
    "You do not have permission to delete attachments on this ticket"
  Program.require
    (canDelete canDeleteAnyTicketAttachment membership.role ticket.toTicket
      (some attachment.row.uploadedBy) userId)
    (forbidden "You do not have permission to delete this attachment")
  let deletedAttachment ← deleteTicketAttachment attachmentId
  emitTicketEvent
    { name := .attachmentDeleted
      ticketId := ticket.id
      organizationId := ticket.organizationId
      actorId := userId
      metadata := { fileUrl := some deletedAttachment.row.fileUrl } }
  return deletedAttachment

def createTagService (organizationId : Nat) (name : String) (userId : Nat) : Call Tag := do
  let membership ← memberOf organizationId userId "You do not have permission to create tags"
  Program.require (canEditAllOrganizationTickets membership.role)
    (forbidden "You do not have permission to create tags")
  let existingTag ← getTagByName organizationId name
  Program.require existingTag.isNone
    (.api 409 "Tag already exists in this organization" "TAG_EXISTS")
  createTag organizationId name

def getTagsService (organizationId userId : Nat) : Call (List Tag) := do
  let _ ← memberOf organizationId userId "You do not have permission to view tags"
  getTags organizationId

def addTicketTagService (ticketId tagId userId : Nat) : Call (OnTicket NamedTicketTag) := do
  let (ticket, _) ← admitted ticketId userId "You do not have permission to tag this ticket"
    fun role _ => canEditAllOrganizationTickets role
  let tag ← getTagById tagId
  let _ ← Program.orFail (tag.filter fun tag => tag.organizationId == ticket.organizationId)
    (.api 404 "Tag not found" "TAG_NOT_FOUND")
  let existingTicketTag ← getTicketTagById ticketId tagId
  Program.require existingTicketTag.isNone
    (.api 409 "Tag already added to this ticket" "TICKET_TAG_EXISTS")
  let ticketTag ← addTagToTicket ticketId tagId
  emitTicketEvent
    { name := .tagAdded
      ticketId := ticket.id
      organizationId := ticket.organizationId
      actorId := userId
      metadata := { tagName := ticketTag.row.tag.map fun tag => tag.name } }
  return ticketTag

def deleteTicketTagService (ticketId tagId userId : Nat) : Call (OnTicket NamedTicketTag) := do
  let (ticket, _) ← admitted ticketId userId
    "You do not have permission to remove tags from this ticket"
    fun role _ => canEditAllOrganizationTickets role
  let ticketTag ← getTicketTagById ticketId tagId
  let _ ← Program.orFail ticketTag (.api 404 "Tag not found on this ticket" "TICKET_TAG_NOT_FOUND")
  let deletedTicketTag ← deleteTicketTag ticketId tagId
  emitTicketEvent
    { name := .tagRemoved
      ticketId := ticket.id
      organizationId := ticket.organizationId
      actorId := userId
      metadata := { tagName := deletedTicketTag.row.tag.map fun tag => tag.name } }
  return deletedTicketTag

end Service

end HelpForge.Tickets
