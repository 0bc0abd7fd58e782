import HelpForge.Notifications.Preferences

set_option autoImplicit false

namespace HelpForge.Notifications

open Lib
open Program (run_bind run_reads run_recover)

def preferenceOf (db : Database) (user : Nat) : NotificationPreference :=
  -- The preferences of the user, stored or not.
  (db.notificationPreferences.find? fun row => row.userId = user).getD
    (DEFAULT_NOTIFICATION_PREFERENCES user)

def Watches (db : Database) (ticket : Ticket) (organizationId user : Nat) : Prop :=
  -- The user has created the ticket, is assigned to it, or sees all tickets of the organisation.
  user = ticket.createdById ∨ ticket.assignedToId = some user ∨
    ∃ membership ∈ db.memberships, membership.userId = user ∧
      membership.organizationId = organizationId ∧
      ∃ role, db.findOrgRole membership.roleId = some role ∧ .ticketViewAll ∈ role.permissions

/-- The users who are to be notified. -/
structure Audience (db : Database) (ticket : Ticket) (organizationId : Nat) (actorId : Option Nat)
    (type : NotificationType) (user : Nat) : Prop where
  watches : Watches db ticket organizationId user
  enabled : (preferenceOf db user).inAppEnabled = true
  allowed : type ∉ (preferenceOf db user).disabledTypes
  unsuppressed : actorId = some user → (preferenceOf db user).suppressSelfNotifications = false

/-- The keys that the notifications of an event refer to have rows, and there is one row of
preferences for a user at most. -/
structure Referential (db : Database) (ticket : Ticket) (organizationId : Nat) : Prop where
  ticket : Tickets.keysResolve db ticket = true
  organization : (db.findOrganization organizationId).isSome = true
  members : ∀ membership ∈ db.memberships, (db.findUser membership.userId).isSome = true
  preferences : (db.notificationPreferences.map (·.userId)).Nodup

def TicketEventPayload.organization (payload : TicketEventPayload) (ticket : Ticket) : Nat :=
  payload.organizationId.getD ticket.organizationId

def newNotification (payload : TicketEventPayload) (organizationId : Nat) (type : NotificationType)
    (title message : String) (recipientId : Nat) : NewNotification where
  organizationId := organizationId
  ticketId := payload.ticketId
  recipientId := recipientId
  type := type
  title := title
  message := message
  metadata := payload.metadata

def deliveryJob (payload : TicketEventPayload) (organizationId : Nat) (type : NotificationType)
    (recipientIds : List Nat) : NotificationJob where
  type := type
  ticketId := payload.ticketId
  organizationId := organizationId
  actorId := payload.actorId
  recipientIds := recipientIds

variable {config : TicketNotification}

section Audience

variable {world : World} {payload : TicketEventPayload} {ticket : Ticket} {ticketId user : Nat}
  {organizationId : Nat} {type : NotificationType} {title message : String}

def watchers (db : Database) (ticket : Ticket) (organizationId : Nat) : List Nat :=
  -- The recipients before their preferences are looked at.
  dedupe (some ticket.createdById :: ticket.assignedToId ::
    ((db.memberships.filter fun membership =>
      membership.organizationId == organizationId && canViewAll db membership).map
        (·.userId)).map some)

theorem mem_watchers_iff (db : Database) (ticket : Ticket) (organizationId user : Nat) :
    user ∈ watchers db ticket organizationId ↔ Watches db ticket organizationId user := by
  have staff (membership : Membership) : canViewAll db membership = true ↔
      ∃ role, db.findOrgRole membership.roleId = some role ∧ .ticketViewAll ∈ role.permissions := by
    simp [canViewAll, Option.any_eq_true]
  simp only [watchers, mem_dedupe, List.mem_cons, Option.some.injEq, List.mem_map, List.mem_filter,
    Bool.and_eq_true, beq_iff_eq, exists_eq_right, Watches, staff]
  constructor
  · rintro (created | assigned | ⟨membership, ⟨among, own, views⟩, same⟩)
    · exact .inl created
    · exact .inr (.inl assigned.symm)
    · exact .inr (.inr ⟨membership, among, same, own, views⟩)
  · rintro (created | assigned | ⟨membership, among, same, own, views⟩)
    · exact .inl created
    · exact .inr (.inl assigned.symm)
    · exact .inr (.inr ⟨membership, ⟨among, own, views⟩, same⟩)

theorem run_resolveRecipientsForTicketEvent (named : payload.ticketId = some ticketId)
    (found : world.db.findTicket ticketId = some ticket) :
    (resolveRecipientsForTicketEvent (some payload) .ticketWatchers).run world =
      (.ok { organizationId := some (payload.organization ticket)
             recipientIds := watchers world.db ticket (payload.organization ticket) }, world) := by
  unfold resolveRecipientsForTicketEvent
  dsimp only
  have context : (getTicketNotificationContext payload.ticketId).run world =
      (.ok (some ticket), world) := by
    rw [named, getTicketNotificationContext, run_reads, found]
  rw [run_bind, context]
  dsimp only
  rw [run_bind, getOrganizationStaffRecipientIds, run_reads]
  rfl

theorem isNotified_some (preference : NotificationPreference) (actorId : Option Nat)
    (type : NotificationType) (user : Nat) :
    isNotified (some preference) actorId (some type) user = true ↔
      preference.inAppEnabled = true ∧ type ∉ preference.disabledTypes ∧
        (actorId = some user → preference.suppressSelfNotifications = false) := by
  simp only [isNotified, Option.map_some, Option.getD_some, isTypeDisabled, ne_eq,
    Option.some.injEq, List.contains_iff_mem]
  split_ifs with off own disabled
  · simp [off]
  · obtain ⟨suppressed, same⟩ := own
    simpa [← same] using fun _ _ => suppressed
  · simp [disabled]
  · have other : actorId = some user → preference.suppressSelfNotifications = false := by
      intro same
      by_contra suppressed
      exact own ⟨suppressed, same.symm⟩
    simpa [disabled, off] using other

theorem isNotified_iff (unique : (world.db.notificationPreferences.map (·.userId)).Nodup)
    (actorId : Option Nat) (type : NotificationType) (user : Nat) :
    isNotified (toPreferenceMap world.db.notificationPreferences user) actorId (some type) user =
        true ↔
      (preferenceOf world.db user).inAppEnabled = true ∧
        type ∉ (preferenceOf world.db user).disabledTypes ∧
        (actorId = some user →
          (preferenceOf world.db user).suppressSelfNotifications = false) := by
  -- A user is kept by the preferences as the audience has it.
  have looked : toPreferenceMap world.db.notificationPreferences user =
      world.db.notificationPreferences.find? fun row => decide (row.userId = user) :=
    keyed_eq_find? _ _ unique user
  rw [looked, preferenceOf]
  cases world.db.notificationPreferences.find? fun row => decide (row.userId = user) with
  | none => rw [isNotified_default, isNotified_some, Option.getD_none]
  | some preference => rw [isNotified_some, Option.getD_some]

theorem storeNotifications_nil (world : World) :
    world.withDb (storeNotifications world.now []) = world := by
  simp [World.withDb, storeNotifications]

theorem Referential.user_of_watches (keys : Referential world.db ticket organizationId)
    (watches : Watches world.db ticket organizationId user) :
    (world.db.findUser user).isSome = true := by
  have resolved := keys.ticket
  simp only [Tickets.keysResolve, Bool.and_eq_true, Option.all_eq_true] at resolved
  obtain ⟨⟨-, created⟩, assigned⟩ := resolved
  rcases watches with rfl | same | ⟨membership, among, rfl, -⟩
  · exact created
  · exact assigned user same
  · exact keys.members membership among

theorem run_createInAppNotificationsService {users : List Nat} (once : users.Nodup)
    (filled : title ≠ "" ∧ message ≠ "")
    (resolve : ∀ user ∈ users,
      (newNotification payload organizationId type title message user).resolves world.db = true) :
    (createInAppNotificationsService (some organizationId) payload.ticketId users (some type) title
        message payload.metadata).run world =
      (.ok users.length, world.withDb (storeNotifications world.now
        (users.map (newNotification payload organizationId type title message)))) := by
  -- The rows are written, once for each of the users.
  have same : dedupeRecipients users = users := by
    rw [dedupeRecipients, dedupe, List.filterMap_map]
    simpa using eraseDups_of_nodup once
  unfold createInAppNotificationsService
  simp only [same]
  by_cases none : users = []
  · subst none
    simp [storeNotifications_nil]
  · have written : (users.map (newNotification payload organizationId type title message)).all
        (·.resolves world.db) = true := by
      simpa using resolve
    have some_ : users.map (newNotification payload organizationId type title message) ≠ [] := by
      simpa using none
    rw [if_neg none, run_bind, Program.run_require, if_pos (by simpa using filled)]
    dsimp only
    have rows : (users.map fun recipientId =>
          ({ organizationId, ticketId := payload.ticketId, recipientId, type, title, message,
             metadata := payload.metadata } : NewNotification)) =
        users.map (newNotification payload organizationId type title message) := rfl
    rw [rows, createNotifications, if_neg some_, Program.run_attempt, if_pos written]
    simp

variable (queue : DeliveryQueue)

theorem run_delivery (job : NotificationJob) (count : Nat) (world : World) :
    ((do
      sendForTicketEventService queue job
      return count : Call Nat).run world).2 =
      { world with
        notificationJobs := world.notificationJobs ++ if queue = .ready then [job] else [] } := by
  -- The job is left if there is a queue that takes it.
  cases queue with
  | disabled => simp [sendForTicketEventService, enqueueNotification]
  | failing =>
    rw [run_bind, sendForTicketEventService, enqueueNotification, Program.fail_bind]
    simp
  | ready => rfl

variable (payload) in
/-- Each of the audience gets one row, nobody else gets any, and the job names the same users. -/
theorem audience_notified_once (named : payload.ticketId = some ticketId)
    (found : world.db.findTicket ticketId = some ticket)
    (keys : Referential world.db ticket (payload.organization ticket)) (queue : DeliveryQueue)
    (type : NotificationType) (filled : title ≠ "" ∧ message ≠ "") :
    ∃ users : List Nat, users.Nodup ∧
      (∀ user, user ∈ users ↔
        Audience world.db ticket (payload.organization ticket) payload.actorId type user) ∧
      let reached := ((createTicketEventNotificationService queue (some payload) (some type) title
        message .ticketWatchers).run world).2
      reached.db.notifications = world.db.notifications ++
          users.mapIdx (fun place user =>
            (newNotification payload (payload.organization ticket) type title message user).stored
              (world.db.nextId + place) world.now) ∧
        reached.notificationJobs = world.notificationJobs ++
          if queue = .ready then [deliveryJob payload (payload.organization ticket) type users]
          else [] := by
  let organizationId := payload.organization ticket
  let recipientIds := dedupeRecipients (watchers world.db ticket organizationId)
  let users := (dedupe (recipientIds.map some)).filter fun user =>
    isNotified (toPreferenceMap world.db.notificationPreferences user) payload.actorId (some type)
      user
  have once : users.Nodup := (nodup_dedupe _).filter _
  have members (user : Nat) : user ∈ users ↔
      Audience world.db ticket organizationId payload.actorId type user := by
    simp only [users, recipientIds, List.mem_filter, dedupeRecipients, mem_dedupe, List.mem_map,
      Option.some.injEq, exists_eq_right, mem_watchers_iff, isNotified_iff keys.preferences]
    constructor
    · rintro ⟨watches, enabled, allowed, unsuppressed⟩
      exact ⟨watches, enabled, allowed, unsuppressed⟩
    · rintro ⟨watches, enabled, allowed, unsuppressed⟩
      exact ⟨watches, enabled, allowed, unsuppressed⟩
  have resolve (user : Nat) (among : user ∈ users) :
      (newNotification payload organizationId type title message user).resolves world.db =
        true := by
    have there := keys.user_of_watches ((members user).mp among).watches
    simp [NewNotification.resolves, newNotification, keys.organization, organizationId, named,
      found, there]
  refine ⟨users, once, members, ?_⟩
  have ran : (createTicketEventNotificationService queue (some payload) (some type) title message
        .ticketWatchers).run world =
      (do
        sendForTicketEventService queue (deliveryJob payload organizationId type users)
        return users.length : Call Nat).run (world.withDb (storeNotifications world.now
          (users.map (newNotification payload organizationId type title message)))) := by
    unfold createTicketEventNotificationService
    rw [run_bind, run_resolveRecipientsForTicketEvent named found]
    dsimp only [Program.orFail]
    rw [Program.pure_bind, run_bind, run_applyRecipientPreferences]
    dsimp only
    rw [run_bind, run_createInAppNotificationsService once filled resolve]
    rfl
  have rows : (users.map (newNotification payload organizationId type title message)).mapIdx
        (fun place new => new.stored (world.db.nextId + place) world.now) =
      users.mapIdx fun place user => (newNotification payload organizationId type title message
        user).stored (world.db.nextId + place) world.now := by
    refine List.ext_getElem? fun place => ?_
    simp [List.getElem?_mapIdx, Option.map_map, Function.comp_def]
  dsimp only
  rw [ran, run_delivery]
  simp [World.withDb, storeNotifications, rows, organizationId]

theorem ticketNotification_filled {name : TicketEventName}
    (registered : ticketNotification name = some config) :
    config.title ≠ "" ∧ config.message ≠ "" := by
  -- What is sent for the events that are registered is not empty.
  cases name <;> cases registered <;> decide

theorem run_notifyOf {event : TicketEvent}
    (registered : ticketNotification event.name = some config) (world : World) :
    ((notifyOf queue event).run world).2 =
      ((createTicketEventNotificationService queue (some (payloadOf event)) (some config.type)
        config.title config.message config.recipientMode).run world).2 := by
  -- The handler of an event leaves what the service leaves.
  unfold notifyOf handleTicketNotificationEvent
  rw [registered]
  dsimp only
  rw [run_recover, run_bind, run_recover]
  rcases (createTicketEventNotificationService queue (some (payloadOf event)) (some config.type)
    config.title config.message config.recipientMode).run world with ⟨_ | _, reached⟩
  · dsimp only
    split_ifs <;> rfl
  · rfl

end Audience

def refund : Ticket where
  id := 7
  title := "Refund"
  organizationId := 1
  createdById := 1
  assignedToId := some 2

/-- A customer with a ticket, and three agents, of whom one has switched the notifications off. -/
def helpLine : World where
  db :=
    { users := (List.range 5).map fun id => { id, email := "user@example.com", password := "" }
      organizations := [{ id := 1, name := "Shop" }]
      orgRoles :=
        [{ id := 1, name := "AGENT", organizationId := 1, permissions := [.ticketViewAll]
           level := 50 }]
      memberships :=
        [{ id := 1, userId := 2, organizationId := 1, roleId := 1 },
         { id := 2, userId := 3, organizationId := 1, roleId := 1 },
         { id := 3, userId := 4, organizationId := 1, roleId := 1 }]
      tickets := [refund]
      notificationPreferences := [{ userId := 3, inAppEnabled := false }]
      nextId := 10 }

/-- The agent who is assigned has answered. -/
def answered : TicketEvent where
  name := .commentAdded
  ticketId := 7
  organizationId := 1
  actorId := 2
  metadata := {}

theorem helpLine_referential : Referential helpLine.db refund 1 where
  ticket := by decide
  organization := by decide
  members := by decide
  preferences := by decide

theorem audience_notified_once_answered : ∃ users : List Nat, users.Nodup ∧
    (∀ user, user ∈ users ↔
      Audience helpLine.db refund 1 (some 2) .ticketCommentAdded user) ∧
    ((notifyOf .ready answered).run helpLine).2.db.notifications.map (·.recipientId) = users := by
  have registered : ticketNotification answered.name = ticketNotification .commentAdded := rfl
  have found : helpLine.db.findTicket 7 = some refund := rfl
  obtain ⟨users, once, members, rows, -⟩ := audience_notified_once (payloadOf answered) rfl found
    helpLine_referential .ready .ticketCommentAdded (ticketNotification_filled registered)
  refine ⟨users, once, members, ?_⟩
  rw [run_notifyOf .ready registered, rows]
  refine List.ext_getElem? fun place => ?_
  simp [helpLine, List.getElem?_mapIdx, Option.map_map, Function.comp_def, NewNotification.stored,
    newNotification]

example : ((notifyOf .ready answered).run helpLine).2.db.notifications.map (·.recipientId) =
    [1, 4] := by decide +kernel

end HelpForge.Notifications
