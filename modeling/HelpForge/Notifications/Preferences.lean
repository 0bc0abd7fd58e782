import HelpForge.Notifications.Service

set_option autoImplicit false

namespace HelpForge.Notifications

open Lib

def Chosen (call : Call (List Nat)) (world : World) (user : Nat) : Prop :=
  -- The user is one of those that the call returns.
  ∃ users, (call.run world).1 = .ok users ∧ user ∈ users

def storing (world : World) (preference : NotificationPreference) : World :=
  -- The preferences are stored as well.
  world.withDb fun db =>
    { db with notificationPreferences := db.notificationPreferences ++ [preference] }

section Preferences

variable {world : World} {user : Nat} {recipientIds : List (Option Nat)}

@[simp] theorem mem_dedupe : user ∈ dedupe recipientIds ↔ some user ∈ recipientIds := by
  simp [dedupe]

theorem nodup_dedupe (recipientIds : List (Option Nat)) : (dedupe recipientIds).Nodup :=
  nodup_eraseDups _

theorem toPreferenceMap_selected (rows : List NotificationPreference) (userIds : List Nat)
    (among : user ∈ userIds) :
    toPreferenceMap (rows.filter fun row => userIds.contains row.userId) user =
      toPreferenceMap rows user := by
  -- The preferences that are looked up for some users are those that are stored for them.
  refine keyed_filter _ rows _ user fun row _ same => ?_
  simpa [same] using among

theorem run_selected (keep : Option NotificationPreference → Nat → Bool) (world : World) :
    (do
      if dedupe recipientIds = [] then return []
      let preferenceRows ← getNotificationPreferencesForUsers (dedupe recipientIds)
      return (dedupe recipientIds).filter fun recipientId =>
        keep (toPreferenceMap preferenceRows recipientId) recipientId : Call (List Nat)).run world =
      (.ok ((dedupe recipientIds).filter fun recipientId =>
        keep (toPreferenceMap world.db.notificationPreferences recipientId) recipientId),
        world) := by
  -- Both strategies select by the preferences of each user alone.
  by_cases none : dedupe recipientIds = []
  · simp [none]
  · simp only [none, if_false, getNotificationPreferencesForUsers]
    rw [Program.run_bind, Program.run_reads]
    simp only [Program.run_pure, Prod.mk.injEq, and_true, Except.ok.injEq]
    refine List.filter_congr fun recipientId among => ?_
    rw [toPreferenceMap_selected _ _ among]

theorem run_applyRecipientPreferences (recipientIds : List (Option Nat)) (actorId : Option Nat)
    (type : Option NotificationType) (world : World) :
    (applyRecipientPreferences recipientIds actorId type).run world =
      (.ok ((dedupe recipientIds).filter fun recipientId =>
        isNotified (toPreferenceMap world.db.notificationPreferences recipientId) actorId type
          recipientId), world) :=
  run_selected (fun preference => isNotified preference actorId type) world

theorem run_filterRecipientsByChannelPreference (recipientIds : List (Option Nat))
    (channel : Channel) (world : World) :
    (filterRecipientsByChannelPreference recipientIds channel).run world =
      (.ok ((dedupe recipientIds).filter fun recipientId =>
        isReached (toPreferenceMap world.db.notificationPreferences recipientId) channel), world) :=
  run_selected (fun preference _ => isReached preference channel) world

theorem chosen_iff {call : Call (List Nat)} {users : List Nat}
    (ran : call.run world = (.ok users, world)) : Chosen call world user ↔ user ∈ users := by
  simp [Chosen, ran]

theorem toPreferenceMap_absent
    (absent : ∀ row ∈ world.db.notificationPreferences, row.userId ≠ user) :
    toPreferenceMap world.db.notificationPreferences user = none :=
  (keyed_eq_none_iff _ _ _).mpr absent

theorem toPreferenceMap_storing (world : World) (preference : NotificationPreference) :
    toPreferenceMap (storing world preference).db.notificationPreferences preference.userId =
      some preference := by
  simp [storing, World.withDb, toPreferenceMap, keyed_append, keyed_cons, keyed_nil]

theorem isNotified_default (actorId : Option Nat) (type : Option NotificationType) (user : Nat) :
    isNotified none actorId type user =
      isNotified (some (DEFAULT_NOTIFICATION_PREFERENCES user)) actorId type user := by
  -- Nothing stored counts as the defaults.
  have allowed : isTypeDisabled [] type = false := by
    cases type <;> rfl
  simp [isNotified, DEFAULT_NOTIFICATION_PREFERENCES, allowed]

theorem isReached_default (user : Nat) (channel : Channel) :
    (isReached none channel = isReached (some (DEFAULT_NOTIFICATION_PREFERENCES user)) channel) ↔
      channel ≠ .email ∧ channel ≠ .push := by
  -- Nothing stored counts as a channel that is enabled, which two are not by default.
  cases channel <;> simp [isReached, DEFAULT_NOTIFICATION_PREFERENCES]

theorem getMyNotificationPreferencesService_absent
    (absent : ∀ row ∈ world.db.notificationPreferences, row.userId ≠ user) :
    (getMyNotificationPreferencesService (some user)).run world =
      (.ok (DEFAULT_NOTIFICATION_PREFERENCES user), world) := by
  have none : (world.db.notificationPreferences.find? fun row => decide (row.userId = user)) =
      none := by
    simpa using absent
  simp [getMyNotificationPreferencesService, getNotificationPreferenceByUserId, Program.run_bind,
    none]

/-- A recipient without preferences is chosen as if what is reported to the user were stored, for
every channel that is enabled by default. -/
theorem default_preferences_iff
    (absent : ∀ row ∈ world.db.notificationPreferences, row.userId ≠ user)
    (recipient : some user ∈ recipientIds) (reported : NotificationPreference)
    (asked : ((getMyNotificationPreferencesService (some user)).run world).1 = .ok reported)
    (actorId : Option Nat) (type : Option NotificationType) (channel : Channel) :
    ((Chosen (applyRecipientPreferences recipientIds actorId type) world user ↔
        Chosen (applyRecipientPreferences recipientIds actorId type)
          (storing world reported) user) ∧
      (Chosen (filterRecipientsByChannelPreference recipientIds channel) world user ↔
        Chosen (filterRecipientsByChannelPreference recipientIds channel)
          (storing world reported) user)) ↔
      channel ≠ .email ∧ channel ≠ .push := by
  rw [getMyNotificationPreferencesService_absent absent] at asked
  cases asked
  have before := toPreferenceMap_absent absent
  have after := toPreferenceMap_storing world (DEFAULT_NOTIFICATION_PREFERENCES user)
  rw [chosen_iff (run_applyRecipientPreferences _ _ _ _),
    chosen_iff (run_applyRecipientPreferences _ _ _ _),
    chosen_iff (run_filterRecipientsByChannelPreference _ _ _),
    chosen_iff (run_filterRecipientsByChannelPreference _ _ _)]
  have listed : user ∈ dedupe recipientIds := mem_dedupe.mpr recipient
  have same : (DEFAULT_NOTIFICATION_PREFERENCES user).userId = user := rfl
  rw [same] at after
  simp only [List.mem_filter, listed, true_and, before, after, ← Bool.eq_iff_iff]
  rw [isReached_default, ← isNotified_default]
  simp

end Preferences

theorem websocket_by_default :
    Chosen (filterRecipientsByChannelPreference [some 1] .websocket) {} 1 ↔
      Chosen (filterRecipientsByChannelPreference [some 1] .websocket)
        (storing {} (DEFAULT_NOTIFICATION_PREFERENCES 1)) 1 := by
  have absent : ∀ row ∈ ({} : World).db.notificationPreferences, row.userId ≠ 1 := nofun
  have asked := congrArg Prod.fst (getMyNotificationPreferencesService_absent absent)
  have kept : Channel.websocket ≠ .email ∧ Channel.websocket ≠ .push := ⟨nofun, nofun⟩
  exact ((default_preferences_iff absent (List.mem_singleton.mpr rfl) _ asked none none
    .websocket).mpr kept).2

/-- Somebody who has never asked for mails is chosen for one. -/
theorem mail_without_preferences :
    Chosen (filterRecipientsByChannelPreference [some 1] .email) {} 1 ∧
      ¬Chosen (filterRecipientsByChannelPreference [some 1] .email)
        (storing {} (DEFAULT_NOTIFICATION_PREFERENCES 1)) 1 := by
  rw [chosen_iff (run_filterRecipientsByChannelPreference _ _ _),
    chosen_iff (run_filterRecipientsByChannelPreference _ _ _)]
  decide

end HelpForge.Notifications
