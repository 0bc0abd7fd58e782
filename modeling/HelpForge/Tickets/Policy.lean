import HelpForge.Org.Roles

set_option autoImplicit false

namespace HelpForge.Tickets

open Lib
open Org (hasPermission)

def canViewAllOrganizationTickets (role : OrgRole) : Bool := hasPermission role .ticketViewAll

def canEditAllOrganizationTickets (role : OrgRole) : Bool := hasPermission role .ticketEditAll

def canAssignOrganizationTickets (role : OrgRole) : Bool := hasPermission role .ticketAssign

def canMemberViewTicket (ticket : Ticket) (userId : Nat) : Bool :=
  ticket.createdById == userId || ticket.assignedToId == some userId

def canCreateInternalComment (role : OrgRole) : Bool :=
  hasPermission role .ticketCreateInternalComment

def canDeleteAnyTicketComment (role : OrgRole) : Bool := hasPermission role .ticketDeleteAnyComment

def canDeleteAnyTicketAttachment (role : OrgRole) : Bool :=
  hasPermission role .ticketDeleteAnyAttachment

def canSee (role : OrgRole) (ticket : Ticket) (userId : Nat) : Bool :=
  canViewAllOrganizationTickets role || canMemberViewTicket ticket userId

structure TicketData where
  organizationId : Nat
  title : String
  description : Option String := none
  priority : Option Priority := none
  source : Option TicketSource := none
  assignedToId : Option Nat := none
  deriving DecidableEq, Repr

structure TicketUpdates where
  title : Option String := none
  description : Option String := none
  priority : Option Priority := none
  status : Option TicketStatus := none
  assignedToId : Option Nat := none
  deriving DecidableEq, Repr

structure CommentData where
  message : String
  isInternal : Bool := false
  deriving DecidableEq, Repr

structure AttachmentData where
  fileUrl : String
  fileType : String
  fileSize : Nat
  deriving DecidableEq, Repr

def TicketUpdates.apply (updates : TicketUpdates) (ticket : Ticket) : Ticket :=
  { ticket with
    title := updates.title.getD ticket.title
    description := updates.description.or ticket.description
    priority := updates.priority.getD ticket.priority
    status := updates.status.getD ticket.status
    assignedToId := updates.assignedToId.or ticket.assignedToId }

def assertCanUpdateTicket (role : OrgRole) (ticket : Ticket) (userId : Nat)
    (updates : TicketUpdates) : Call Unit :=
  if canEditAllOrganizationTickets role then pure ()
  else do
    Program.require (canMemberViewTicket ticket userId)
      (.api 403 "You do not have permission to update this ticket" "TICKET_UPDATE_FORBIDDEN")
    Program.require (updates.status.isNone && updates.assignedToId.isNone)
      (.api 403 "You can only update title, description, and priority on your own tickets"
        "TICKET_UPDATE_FORBIDDEN")

abbrev Read (α : Type) := Option α

structure TicketQuery where
  organizationId : Option Nat := none
  status : Option (Read TicketStatus) := none
  priority : Option (Read Priority) := none
  source : Option (Read TicketSource) := none
  -- Whether the query asks for the caller's own tickets.
  assignedToMe : Bool := false
  assignedTo : Option Nat := none
  assignedToId : Option Nat := none
  tag : Option String := none
  tagId : Option Nat := none
  dateFrom : Option (Read Nat) := none
  dateTo : Option (Read Nat) := none
  deriving DecidableEq, Repr

structure TicketFilters where
  organizationIds : Option (List Nat) := none
  status : Option TicketStatus := none
  priority : Option Priority := none
  source : Option TicketSource := none
  assignedToId : Option Nat := none
  tagId : Option Nat := none
  tagName : Option String := none
  createdFrom : Option Nat := none
  createdTo : Option Nat := none
  -- The user who has created the ticket or has it assigned.
  seenBy : Option Nat := none
  deriving DecidableEq, Repr

def parseDateFilter (value : Option (Read Nat)) (fieldName : String) : Call (Option Nat) :=
  match value with
  | none => pure none
  | some (some time) => pure (some time)
  | some none => Program.fail (.api 400 ("Invalid " ++ fieldName) "INVALID_DATE")

def readable {α : Type} (value : Option (Read α)) : Bool := value.all Option.isSome

def validateListFilters (query : TicketQuery) (requireOrganizationId : Bool := true) :
    Call Unit := do
  Program.require (!requireOrganizationId || query.organizationId.isSome)
    (.api 400 "Organization ID is required" "ORG_ID_REQUIRED")
  Program.require (readable query.status) (.api 400 "Invalid status" "INVALID_STATUS")
  Program.require (readable query.priority) (.api 400 "Invalid priority" "INVALID_PRIORITY")
  Program.require (readable query.source) (.api 400 "Invalid source" "INVALID_SOURCE")
  let dateFrom ← parseDateFilter query.dateFrom "dateFrom"
  let dateTo ← parseDateFilter query.dateTo "dateTo"
  Program.require (dateFrom.all fun start => dateTo.all fun stop => start ≤ stop)
    (.api 400 "dateFrom cannot be after dateTo" "INVALID_DATE_RANGE")

def resolvedAssignedToId (query : TicketQuery) (userId : Nat) : Option Nat :=
  if query.assignedToMe then some userId else query.assignedToId.or query.assignedTo

def buildCommonTicketFilters (query : TicketQuery) (userId : Nat) : Call TicketFilters := do
  let createdFrom ← parseDateFilter query.dateFrom "dateFrom"
  let createdTo ← parseDateFilter query.dateTo "dateTo"
  return {
    organizationIds := query.organizationId.map fun organizationId => [organizationId]
    status := query.status.join
    priority := query.priority.join
    source := query.source.join
    assignedToId := resolvedAssignedToId query userId
    tagId := query.tagId
    tagName := query.tag
    createdFrom
    createdTo }

end HelpForge.Tickets
