import HelpForge.Org.ReadThrough
import HelpForge.Tickets.Policy
import Mathlib.Data.List.Sort

set_option autoImplicit false

/-!
# Statements on the ticket tables

Foreign keys keep the rows that they refer to.
-/

namespace HelpForge.Tickets

open Lib

structure AuthoredComment extends TicketComment where
  author : Option User
  deriving DecidableEq, Repr

structure ActedActivity extends TicketActivityLog where
  actor : Option User
  deriving DecidableEq, Repr

structure UploadedAttachment extends TicketAttachment where
  uploader : Option User
  deriving DecidableEq, Repr

structure NamedTicketTag extends TicketTag where
  tag : Option Tag
  deriving DecidableEq, Repr

structure ListedTicket extends Ticket where
  organization : Option Organization
  createdBy : Option User
  assignedTo : Option User
  activities : List TicketActivityLog
  deriving DecidableEq, Repr

structure AgentTicket extends ListedTicket where
  tags : List NamedTicketTag
  deriving DecidableEq, Repr

structure HydratedTicket extends Ticket where
  organization : Option Organization
  createdBy : Option User
  assignedTo : Option User
  comments : List AuthoredComment
  attachments : List TicketAttachment
  tags : List NamedTicketTag
  activities : List ActedActivity
  deriving DecidableEq, Repr

/-- A row of a ticket, with the ticket. -/
structure OnTicket (α : Type) where
  row : α
  ticket : Option Ticket
  deriving DecidableEq, Repr

section Includes

variable (db : Database)

def authored (comment : TicketComment) : AuthoredComment :=
  { comment with author := comment.authorId.bind db.findUser }

def acted (activity : TicketActivityLog) : ActedActivity :=
  { activity with actor := db.findUser activity.actorId }

def uploaded (attachment : TicketAttachment) : UploadedAttachment :=
  { attachment with uploader := db.findUser attachment.uploadedBy }

def named (ticketTag : TicketTag) : NamedTicketTag :=
  { ticketTag with tag := db.tags.find? fun tag => tag.id == ticketTag.tagId }

def onTicket {α : Type} (row : α) (ticketId : Nat) : OnTicket α :=
  { row, ticket := db.findTicket ticketId }

def activitiesOf (ticketId : Nat) : List TicketActivityLog :=
  db.ticketActivityLogs.filter fun activity => activity.ticketId == ticketId

def commentsOf (ticketId : Nat) : List TicketComment :=
  db.ticketComments.filter fun comment => comment.ticketId == ticketId

def attachmentsOf (ticketId : Nat) : List TicketAttachment :=
  db.ticketAttachments.filter fun attachment => attachment.ticketId == ticketId

def tagsOf (ticketId : Nat) : List NamedTicketTag :=
  (db.ticketTags.filter fun ticketTag => ticketTag.ticketId == ticketId).map (named db)

def listed (ticket : Ticket) : ListedTicket :=
  { ticket with
    organization := db.findOrganization ticket.organizationId
    createdBy := db.findUser ticket.createdById
    assignedTo := ticket.assignedToId.bind db.findUser
    activities := activitiesOf db ticket.id }

def agentListed (ticket : Ticket) : AgentTicket :=
  { listed db ticket with tags := tagsOf db ticket.id }

def hydrated (ticket : Ticket) : HydratedTicket :=
  { ticket with
    organization := db.findOrganization ticket.organizationId
    createdBy := db.findUser ticket.createdById
    assignedTo := ticket.assignedToId.bind db.findUser
    comments := (commentsOf db ticket.id).map (authored db)
    attachments := attachmentsOf db ticket.id
    tags := tagsOf db ticket.id
    activities := (activitiesOf db ticket.id).map (acted db) }

def byCreatedAt {α : Type} (createdAt : α → Nat) (rows : List α) : List α :=
  rows.insertionSort fun first second => createdAt first ≤ createdAt second

def newestFirst {α : Type} (createdAt : α → Nat) (rows : List α) : List α :=
  rows.insertionSort fun first second => createdAt second ≤ createdAt first

def TicketFilters.matches (filters : TicketFilters) (ticket : Ticket) : Bool :=
  filters.organizationIds.all (·.contains ticket.organizationId) &&
    filters.status.all (· == ticket.status) && filters.priority.all (· == ticket.priority) &&
    filters.source.all (· == ticket.source) &&
    filters.assignedToId.all (fun userId => ticket.assignedToId == some userId) &&
    ((filters.tagId.isNone && filters.tagName.isNone) ||
      (tagsOf db ticket.id).any fun ticketTag =>
        filters.tagId.all (· == ticketTag.tagId) &&
          filters.tagName.all fun name => ticketTag.tag.any (·.name == name)) &&
    filters.createdFrom.all (· ≤ ticket.createdAt) &&
    filters.createdTo.all (ticket.createdAt ≤ ·) &&
    filters.seenBy.all (canMemberViewTicket ticket)

end Includes

def getTicketById (ticketId : Nat) : Call (Option HydratedTicket) :=
  Program.reads fun world => (world.db.findTicket ticketId).map (hydrated world.db)

def matching (db : Database) (filters : TicketFilters) : List Ticket :=
  newestFirst (·.createdAt) (db.tickets.filter (filters.matches db))

def getTickets (filters : TicketFilters) : Call (List ListedTicket) :=
  Program.reads fun world => (matching world.db filters).map (listed world.db)

def getAgentTickets (filters : TicketFilters) : Call (List AgentTicket) :=
  Program.reads fun world => (matching world.db filters).map (agentListed world.db)

def newTicket (world : World) (data : TicketData) (createdById : Nat) : Ticket :=
  { id := world.db.nextId
    title := data.title
    description := data.description
    priority := data.priority.getD .medium
    source := data.source.getD .web
    organizationId := data.organizationId
    createdById
    assignedToId := data.assignedToId
    createdAt := world.now
    updatedAt := world.now }

def keysResolve (db : Database) (ticket : Ticket) : Bool :=
  -- Whether the keys of the ticket to its organisation and its users refer to rows.
  (db.findOrganization ticket.organizationId).isSome &&
    (db.findUser ticket.createdById).isSome &&
    ticket.assignedToId.all fun userId => (db.findUser userId).isSome

def insertTicket (ticket : Ticket) (db : Database) : Database :=
  { db with tickets := db.tickets ++ [ticket], nextId := db.nextId + 1 }

def createTicket (data : TicketData) (createdById : Nat) : Call ListedTicket :=
  Program.attempt fun world =>
    let ticket := newTicket world data createdById
    if keysResolve world.db ticket then
      let reached := world.withDb (insertTicket ticket)
      .ok (listed reached.db ticket, reached)
    else .error .foreignKeyConstraint

def logActivity (activity : TicketActivityLog) (db : Database) : Database :=
  { db with
    ticketActivityLogs := db.ticketActivityLogs ++ [activity]
    nextId := db.nextId + 1 }

def storeTicket (ticketId : Nat) (ticket : Ticket) (db : Database) : Database :=
  { db with tickets := changeWhere (·.id == ticketId) (fun _ => ticket) db.tickets }

/-- `activities: { create: … }`. -/
def logOwn (now ticketId : Nat) (activity : Option (Nat × TicketActivityAction)) (db : Database) :
    Database :=
  match activity with
  | none => db
  | some (actorId, action) =>
    logActivity { id := db.nextId, ticketId, actorId, action, createdAt := now } db

/-- `ticket.update`, with an activity where the data creates one. -/
def writeTicket (ticketId : Nat) (change : Ticket → Ticket)
    (activity : Option (Nat × TicketActivityAction)) : Call HydratedTicket :=
  Program.attempt fun world =>
    match world.db.findTicket ticketId with
    | none => .error .recordNotFound
    | some ticket =>
      let written := { change ticket with updatedAt := world.now }
      if keysResolve world.db written &&
          activity.all fun entry => (world.db.findUser entry.1).isSome then
        let reached := world.withDb fun db =>
          logOwn world.now ticketId activity (storeTicket ticketId written db)
        .ok (hydrated reached.db written, reached)
      else .error .foreignKeyConstraint

def updateTicket (ticketId : Nat) (updates : TicketUpdates) (actorId : Nat) : Call HydratedTicket :=
  writeTicket ticketId updates.apply (some (actorId, .ticketUpdated))

def assignTicket (ticketId assignedToId : Nat) : Call HydratedTicket :=
  writeTicket ticketId (fun ticket => { ticket with assignedToId := some assignedToId }) none

def updateTicketStatus (ticketId : Nat) (status : TicketStatus) : Call HydratedTicket :=
  writeTicket ticketId (fun ticket => { ticket with status }) none

def createTicketActivityLog (ticketId actorId : Nat) (action : TicketActivityAction)
    (oldValue newValue : Option String) : Call TicketActivityLog :=
  Program.attempt fun world =>
    if (world.db.findTicket ticketId).isSome && (world.db.findUser actorId).isSome then
      let activity : TicketActivityLog :=
        { id := world.db.nextId, ticketId, actorId, action, oldValue, newValue,
          createdAt := world.now }
      .ok (activity, world.withDb (logActivity activity))
    else .error .foreignKeyConstraint

def getTicketActivities (ticketId : Nat) : Call (List ActedActivity) :=
  Program.reads fun world =>
    (byCreatedAt (·.createdAt) (activitiesOf world.db ticketId)).map (acted world.db)

def getOrganizationAvailableAgents (organizationId : Nat) : Call (List OrganizationMembership) :=
  Program.reads fun world =>
    (byCreatedAt (·.createdAt) (world.db.memberships.filter fun membership =>
      membership.organizationId == organizationId && membership.isAvailable &&
        (world.db.findOrgRole membership.roleId).any (·.name == "AGENT"))).filterMap
      world.db.withRole

def getOrganizationAgentWorkloads (organizationId : Nat) : Call (List AgentWorkload) :=
  Program.reads fun world =>
    world.db.agentWorkloads.filter fun workload => workload.organizationId == organizationId

def isWorkloadOf (organizationId agentUserId : Nat) (workload : AgentWorkload) : Bool :=
  workload.userId == agentUserId && workload.organizationId == organizationId

def countOne (organizationId agentUserId : Nat) (db : Database) : Database :=
  -- The counters go up, and their dates stay.
  { db with
    agentWorkloads := changeWhere (isWorkloadOf organizationId agentUserId)
      (fun workload =>
        { workload with
          assignedToday := workload.assignedToday + 1
          assignedThisWeek := workload.assignedThisWeek + 1 })
      db.agentWorkloads }

def countFirst (now organizationId agentUserId : Nat) (db : Database) : Database :=
  { db with
    agentWorkloads := db.agentWorkloads ++
      [{ userId := agentUserId
         organizationId
         assignedToday := 1
         assignedThisWeek := 1
         lastDailyReset := now
         lastWeeklyReset := now }] }

/-- `agentWorkload.upsert`. -/
def countAssignment (organizationId agentUserId : Nat) : Call Unit :=
  Program.attempt fun world =>
    if world.db.agentWorkloads.any (isWorkloadOf organizationId agentUserId) then
      .ok ((), world.withDb (countOne organizationId agentUserId))
    else if (world.db.findUser agentUserId).isSome &&
        (world.db.findOrganization organizationId).isSome then
      .ok ((), world.withDb (countFirst world.now organizationId agentUserId))
    else .error .foreignKeyConstraint

def autoAssignTicket (showId : Nat → String) (ticketId organizationId agentUserId : Nat) :
    Call HydratedTicket :=
  Program.transaction do
    countAssignment organizationId agentUserId
    let _ ← createTicketActivityLog ticketId agentUserId .ticketAssigned none
      (some (showId agentUserId))
    writeTicket ticketId
      (fun ticket => { ticket with assignedToId := some agentUserId, status := .inProgress }) none

def newComment (world : World) (ticketId authorId : Nat) (data : CommentData) : TicketComment :=
  { id := world.db.nextId
    ticketId
    authorId := some authorId
    authorType := .user
    message := data.message
    isInternal := data.isInternal
    createdAt := world.now }

def insertComment (comment : TicketComment) (db : Database) : Database :=
  { db with ticketComments := db.ticketComments ++ [comment], nextId := db.nextId + 1 }

def createTicketComment (ticketId authorId : Nat) (data : CommentData) :
    Call (OnTicket AuthoredComment) :=
  Program.attempt fun world =>
    if (world.db.findTicket ticketId).isSome && (world.db.findUser authorId).isSome then
      let comment := newComment world ticketId authorId data
      .ok (onTicket world.db (authored world.db comment) ticketId,
        world.withDb (insertComment comment))
    else .error .foreignKeyConstraint

def getTicketComments (ticketId : Nat) : Call (List AuthoredComment) :=
  Program.reads fun world =>
    (byCreatedAt (·.createdAt) (commentsOf world.db ticketId)).map (authored world.db)

def findComment (db : Database) (commentId : Nat) : Option TicketComment :=
  db.ticketComments.find? fun comment => comment.id == commentId

def getTicketCommentById (commentId : Nat) : Call (Option (OnTicket AuthoredComment)) :=
  Program.reads fun world =>
    (findComment world.db commentId).map fun comment =>
      onTicket world.db (authored world.db comment) comment.ticketId

def dropComment (commentId : Nat) (db : Database) : Database :=
  { db with ticketComments := db.ticketComments.filter (·.id != commentId) }

def deleteTicketComment (commentId : Nat) : Call (OnTicket AuthoredComment) :=
  Program.attempt fun world =>
    match findComment world.db commentId with
    | none => .error .recordNotFound
    | some comment =>
      .ok (onTicket world.db (authored world.db comment) comment.ticketId,
        world.withDb (dropComment commentId))

def newAttachment (world : World) (ticketId uploadedBy : Nat) (data : AttachmentData) :
    TicketAttachment :=
  { id := world.db.nextId
    ticketId
    uploadedBy
    fileUrl := data.fileUrl
    fileType := data.fileType
    fileSize := data.fileSize
    createdAt := world.now }

def insertAttachment (attachment : TicketAttachment) (db : Database) : Database :=
  { db with ticketAttachments := db.ticketAttachments ++ [attachment], nextId := db.nextId + 1 }

def createTicketAttachment (ticketId uploadedBy : Nat) (data : AttachmentData) :
    Call (OnTicket UploadedAttachment) :=
  Program.attempt fun world =>
    if (world.db.findTicket ticketId).isSome && (world.db.findUser uploadedBy).isSome then
      let attachment := newAttachment world ticketId uploadedBy data
      .ok (onTicket world.db (uploaded world.db attachment) ticketId,
        world.withDb (insertAttachment attachment))
    else .error .foreignKeyConstraint

def getTicketAttachments (ticketId : Nat) : Call (List UploadedAttachment) :=
  Program.reads fun world =>
    (byCreatedAt (·.createdAt) (attachmentsOf world.db ticketId)).map (uploaded world.db)

def findAttachment (db : Database) (attachmentId : Nat) : Option TicketAttachment :=
  db.ticketAttachments.find? fun attachment => attachment.id == attachmentId

def getTicketAttachmentById (attachmentId : Nat) : Call (Option (OnTicket UploadedAttachment)) :=
  Program.reads fun world =>
    (findAttachment world.db attachmentId).map fun attachment =>
      onTicket world.db (uploaded world.db attachment) attachment.ticketId

def dropAttachment (attachmentId : Nat) (db : Database) : Database :=
  { db with ticketAttachments := db.ticketAttachments.filter (·.id != attachmentId) }

def deleteTicketAttachment (attachmentId : Nat) : Call (OnTicket UploadedAttachment) :=
  Program.attempt fun world =>
    match findAttachment world.db attachmentId with
    | none => .error .recordNotFound
    | some attachment =>
      .ok (onTicket world.db (uploaded world.db attachment) attachment.ticketId,
        world.withDb (dropAttachment attachmentId))

def getTagById (tagId : Nat) : Call (Option Tag) :=
  Program.reads fun world => world.db.tags.find? fun tag => tag.id == tagId

def getTagByName (organizationId : Nat) (name : String) : Call (Option Tag) :=
  Program.reads fun world =>
    world.db.tags.find? fun tag => tag.organizationId == organizationId && tag.name == name

def createTag (organizationId : Nat) (name : String) : Call Tag :=
  Program.attempt fun world =>
    if world.db.tags.any fun tag => tag.organizationId == organizationId && tag.name == name then
      .error .uniqueConstraint
    else if (world.db.findOrganization organizationId).isNone then .error .foreignKeyConstraint
    else
      let tag : Tag := { id := world.db.nextId, name, organizationId }
      .ok (tag, world.withDb fun db =>
        { db with tags := db.tags ++ [tag], nextId := db.nextId + 1 })

def getTags (organizationId : Nat) : Call (List Tag) :=
  Program.reads fun world =>
    (world.db.tags.filter fun tag => tag.organizationId == organizationId).insertionSort
      fun first second => first.name ≤ second.name

def hasTag (db : Database) (ticketId tagId : Nat) : Bool :=
  db.ticketTags.any fun ticketTag => ticketTag.ticketId == ticketId && ticketTag.tagId == tagId

def getTicketTagById (ticketId tagId : Nat) : Call (Option (OnTicket NamedTicketTag)) :=
  Program.reads fun world =>
    if hasTag world.db ticketId tagId then
      some (onTicket world.db (named world.db ⟨ticketId, tagId⟩) ticketId)
    else none

def addTagToTicket (ticketId tagId : Nat) : Call (OnTicket NamedTicketTag) :=
  Program.attempt fun world =>
    if hasTag world.db ticketId tagId then .error .uniqueConstraint
    else if (world.db.findTicket ticketId).isNone || !world.db.tags.any (·.id == tagId) then
      .error .foreignKeyConstraint
    else
      .ok (onTicket world.db (named world.db ⟨ticketId, tagId⟩) ticketId, world.withDb fun db =>
        { db with ticketTags := db.ticketTags ++ [⟨ticketId, tagId⟩] })

def deleteTicketTag (ticketId tagId : Nat) : Call (OnTicket NamedTicketTag) :=
  Program.attempt fun world =>
    if hasTag world.db ticketId tagId then
      .ok (onTicket world.db (named world.db ⟨ticketId, tagId⟩) ticketId, world.withDb fun db =>
        { db with ticketTags := db.ticketTags.filter (· != ⟨ticketId, tagId⟩) })
    else .error .recordNotFound

end HelpForge.Tickets
