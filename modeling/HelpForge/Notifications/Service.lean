import HelpForge.Lib.Keyed
import HelpForge.Tickets.Repo

set_option autoImplicit false

namespace HelpForge.Notifications

open Lib

/-- What is reported for a user without preferences. -/
def DEFAULT_NOTIFICATION_PREFERENCES (userId : Nat) : NotificationPreference where
  userId := userId
  inAppEnabled := true
  emailEnabled := false
  pushEnabled := false
  websocketEnabled := true
  suppressSelfNotifications := true
  disabledTypes := []

/-- What `createMany` is given for a row. -/
structure NewNotification where
  organizationId : Nat
  ticketId : Option Nat
  recipientId : Nat
  type : NotificationType
  title : String
  message : String
  metadata : Option EventMetadata
  deriving DecidableEq, Repr

def NewNotification.stored (id now : Nat) (new : NewNotification) : Notification where
  id := id
  organizationId := new.organizationId
  ticketId := new.ticketId
  recipientId := new.recipientId
  type := new.type
  title := new.title
  message := new.message
  metadata := new.metadata
  createdAt := now

def NewNotification.resolves (db : Database) (new : NewNotification) : Bool :=
  (db.findOrganization new.organizationId).isSome &&
    new.ticketId.all (fun ticketId => (db.findTicket ticketId).isSome) &&
    (db.findUser new.recipientId).isSome

def storeNotifications (now : Nat) (notifications : List NewNotification) (db : Database) :
    Database :=
  { db with
    notifications := db.notifications ++
      notifications.mapIdx fun place new => new.stored (db.nextId + place) now
    nextId := db.nextId + notifications.length }

def createNotifications (notifications : List NewNotification) : Call Nat :=
  -- All rows are written, or none of them is.
  if notifications = [] then pure 0
  else Program.attempt fun world =>
    if notifications.all (·.resolves world.db) then
      .ok (notifications.length, world.withDb (storeNotifications world.now notifications))
    else .error .foreignKeyConstraint

def getTicketNotificationContext (ticketId : Option Nat) : Call (Option Ticket) :=
  match ticketId with
  | none => pure none
  | some ticketId => Program.reads fun world => world.db.findTicket ticketId

def canViewAll (db : Database) (membership : Membership) : Bool :=
  -- Whether the role of the membership is one that sees all tickets.
  (db.findOrgRole membership.roleId).any fun role => role.permissions.contains .ticketViewAll

def getOrganizationStaffRecipientIds (organizationId : Nat) : Call (List Nat) :=
  Program.reads fun world =>
    (world.db.memberships.filter fun membership =>
      membership.organizationId == organizationId && canViewAll world.db membership).map (·.userId)

def getNotificationPreferencesForUsers (userIds : List Nat) : Call (List NotificationPreference) :=
  if userIds = [] then pure []
  else Program.reads fun world =>
    world.db.notificationPreferences.filter fun row => userIds.contains row.userId

def getNotificationPreferenceByUserId (userId : Nat) : Call (Option NotificationPreference) :=
  Program.reads fun world => world.db.notificationPreferences.find? fun row => row.userId = userId

/-- Whether there is a connection for the queue, and whether it takes a job. -/
inductive DeliveryQueue where
  | disabled
  | failing
  | ready
  deriving DecidableEq, Repr

def enqueueNotification (queue : DeliveryQueue) (notification : NotificationJob) : Call Bool :=
  match queue with
  | .disabled => pure false
  | .failing => Program.fail (.unavailable "notificationQueue.add")
  | .ready => do
    Program.modify fun world =>
      { world with notificationJobs := world.notificationJobs ++ [notification] }
    pure true

def dedupe (ids : List (Option Nat)) : List Nat := (ids.filterMap id).eraseDups

def toPreferenceMap (rows : List NotificationPreference) : Nat → Option NotificationPreference :=
  keyed (·.userId) rows

def isTypeDisabled (disabledTypes : List NotificationType) (type : Option NotificationType) :
    Bool :=
  match type with
  | none => false
  | some type => disabledTypes.contains type

def isNotified (preference : Option NotificationPreference) (actorId : Option Nat)
    (type : Option NotificationType) (recipientId : Nat) : Bool :=
  if preference.map (·.inAppEnabled) = some false then false
  else if preference.map (·.suppressSelfNotifications) ≠ some false ∧
      some recipientId = actorId then false
  else if isTypeDisabled ((preference.map (·.disabledTypes)).getD []) type then false
  else true

def applyRecipientPreferences (recipientIds : List (Option Nat)) (actorId : Option Nat)
    (type : Option NotificationType) : Call (List Nat) := do
  let dedupedRecipientIds := dedupe recipientIds
  if dedupedRecipientIds = [] then return []
  let preferenceRows ← getNotificationPreferencesForUsers dedupedRecipientIds
  let preferenceMap := toPreferenceMap preferenceRows
  return dedupedRecipientIds.filter fun recipientId =>
    isNotified (preferenceMap recipientId) actorId type recipientId

inductive Channel where
  | inApp
  | websocket
  | email
  | push
  deriving DecidableEq, Repr

def isReached (preference : Option NotificationPreference) (channel : Channel) : Bool :=
  match preference with
  | none => true
  | some preference =>
    match channel with
    | .websocket => preference.websocketEnabled
    | .email => preference.emailEnabled
    | .push => preference.pushEnabled
    | .inApp => true

def filterRecipientsByChannelPreference (recipientIds : List (Option Nat)) (channel : Channel) :
    Call (List Nat) := do
  let dedupedRecipientIds := dedupe recipientIds
  if dedupedRecipientIds = [] then return []
  let preferenceRows ← getNotificationPreferencesForUsers dedupedRecipientIds
  let preferenceMap := toPreferenceMap preferenceRows
  return dedupedRecipientIds.filter fun recipientId => isReached (preferenceMap recipientId) channel

inductive RecipientMode where
  | ticketWatchers
  | assignedAgent
  deriving DecidableEq, Repr

structure TicketEventPayload where
  ticketId : Option Nat
  organizationId : Option Nat
  actorId : Option Nat
  metadata : Option EventMetadata
  deriving DecidableEq, Repr

structure Recipients where
  organizationId : Option Nat := none
  recipientIds : List Nat := []
  deriving DecidableEq, Repr

def resolveRecipientsForTicketEvent (payload : Option TicketEventPayload)
    (recipientMode : RecipientMode) : Call Recipients := do
  match payload with
  | none => return {}
  | some payload =>
    match recipientMode with
    | .assignedAgent =>
      let assigneeId := payload.metadata.bind (·.assignedToId)
      return { organizationId := payload.organizationId, recipientIds := dedupe [assigneeId] }
    | .ticketWatchers =>
      match ← getTicketNotificationContext payload.ticketId with
      | none => return { organizationId := payload.organizationId }
      | some ticket =>
        let organizationId := payload.organizationId.getD ticket.organizationId
        let staffRecipientIds ← getOrganizationStaffRecipientIds organizationId
        return { organizationId := some organizationId
                 recipientIds := dedupe (some ticket.createdById :: ticket.assignedToId ::
                   staffRecipientIds.map some) }

def dedupeRecipients (recipientIds : List Nat) : List Nat := dedupe (recipientIds.map some)

def createInAppNotificationsService (organizationId ticketId : Option Nat) (recipientIds : List Nat)
    (type : Option NotificationType) (title message : String) (metadata : Option EventMetadata) :
    Call Nat := do
  let dedupedRecipientIds := dedupeRecipients recipientIds
  match organizationId with
  | none => Program.fail (.api 400 "Organization ID is required" "ORG_ID_REQUIRED")
  | some organizationId =>
    if dedupedRecipientIds = [] then return 0
    match type with
    | none =>
      Program.fail (.api 400 "Notification type, title, and message are required"
        "NOTIFICATION_FIELDS_REQUIRED")
    | some type =>
      Program.require (title ≠ "" ∧ message ≠ "")
        (.api 400 "Notification type, title, and message are required"
          "NOTIFICATION_FIELDS_REQUIRED")
      createNotifications (dedupedRecipientIds.map fun recipientId =>
        { organizationId, ticketId, recipientId, type, title, message, metadata })

def sendForTicketEventService (queue : DeliveryQueue) (notification : NotificationJob) :
    Call Unit := do
  let _ ← enqueueNotification queue notification

def createTicketEventNotificationService (queue : DeliveryQueue)
    (payload : Option TicketEventPayload) (type : Option NotificationType) (title message : String)
    (recipientMode : RecipientMode) : Call Nat := do
  let { organizationId, recipientIds } ← resolveRecipientsForTicketEvent payload recipientMode
  let payload ← Program.orFail payload
    (.javascript "TypeError" "Cannot read properties of undefined (reading 'actorId')")
  let filteredRecipientIds ←
    applyRecipientPreferences ((dedupeRecipients recipientIds).map some) payload.actorId type
  let notificationResult ← createInAppNotificationsService organizationId payload.ticketId
    filteredRecipientIds type title message payload.metadata
  sendForTicketEventService queue
    { type, ticketId := payload.ticketId, organizationId, actorId := payload.actorId,
      recipientIds := filteredRecipientIds }
  return notificationResult

def getMyNotificationPreferencesService (userId : Option Nat) : Call NotificationPreference := do
  match userId with
  | none => Program.fail (.api 400 "User ID is required" "USER_ID_REQUIRED")
  | some userId =>
    match ← getNotificationPreferenceByUserId userId with
    | none => return DEFAULT_NOTIFICATION_PREFERENCES userId
    | some preference => return preference

def handleTicketNotificationEvent (queue : DeliveryQueue) (payload : Option TicketEventPayload)
    (type : Option NotificationType) (title message : String) (recipientMode : RecipientMode) :
    Call Nat :=
  -- An event whose rows are gone by now is skipped.
  (createTicketEventNotificationService queue payload type title message recipientMode).recover
    fun error =>
      if error.code = some "P2003" then pure 0 else Program.fail error

structure TicketNotification where
  type : NotificationType
  title : String
  message : String
  recipientMode : RecipientMode := .ticketWatchers
  deriving DecidableEq, Repr

def ticketNotification : TicketEventName → Option TicketNotification
  -- The events that are registered, with what is sent for them.
  | .created => none
  | .assigned => some
    { type := .ticketAssigned, title := "Ticket assigned", message := "A ticket has been assigned."
      recipientMode := .assignedAgent }
  | .statusChanged => none
  | .commentAdded => some
    { type := .ticketCommentAdded, title := "Comment added"
      message := "A comment was added to the ticket." }
  | .commentDeleted => some
    { type := .ticketCommentDeleted, title := "Comment deleted"
      message := "A comment was deleted from the ticket." }
  | .tagAdded => some
    { type := .ticketTagAdded, title := "Tag added", message := "A tag was added to the ticket." }
  | .tagRemoved => some
    { type := .ticketTagRemoved, title := "Tag removed"
      message := "A tag was removed from the ticket." }
  | .attachmentAdded => some
    { type := .ticketAttachmentAdded, title := "Attachment added"
      message := "An attachment was added to the ticket." }
  | .attachmentDeleted => some
    { type := .ticketAttachmentDeleted, title := "Attachment deleted"
      message := "An attachment was removed from the ticket." }

def payloadOf (event : TicketEvent) : TicketEventPayload where
  ticketId := some event.ticketId
  organizationId := some event.organizationId
  actorId := some event.actorId
  metadata := some event.metadata

def notifyOf (queue : DeliveryQueue) (event : TicketEvent) : Call Unit :=
  -- The handler of an event that has been emitted; its failure is logged.
  match ticketNotification event.name with
  | none => pure ()
  | some config =>
    (do
      let _ ← handleTicketNotificationEvent queue (some (payloadOf event)) (some config.type)
        config.title config.message config.recipientMode
      return ()).recover fun _ => pure ()

end HelpForge.Notifications
