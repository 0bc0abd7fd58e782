import HelpForge.Automation.Queue
import HelpForge.Notifications.Service
import HelpForge.Tickets.Discretion
import HelpForge.Tickets.Exposure

set_option autoImplicit false

namespace HelpForge.Tickets

open Lib.Program (run_bind run_reads)

open Lib Notifications
open Lib.Program (Related SameResult)
open Automation (QueueWorld Setup handleTicketCommentAdded)

inductive Listener where
  | activity
  | notification
  | automation
  deriving DecidableEq, Repr

/-- The state, with the events that handlers have not heard of yet. -/
structure Desk extends QueueWorld where
  deliveries : List (Listener × TicketEvent) := []

inductive Step where
  | request (userId : Nat) (call : TicketCall)
  | deliver (place : Nat) (queue : DeliveryQueue) (requestId : Option String)
  deriving DecidableEq

def listeners (event : TicketEvent) : List (Listener × TicketEvent) :=
  [(.activity, event)] ++
    (if (ticketNotification event.name).isSome then [(.notification, event)] else []) ++
    if event.name = .commentAdded then [(.automation, event)] else []

section Runs

variable (locale : Locale) (setup : Setup)

def Desk.hear (desk : Desk) (queue : DeliveryQueue) (requestId : Option String) :
    Listener × TicketEvent → Desk
  | (.activity, event) =>
    { desk with
      toWorld := ((createActivityLogForEvent locale.showId event).run desk.toWorld).2 }
  | (.notification, event) => { desk with toWorld := ((notifyOf queue event).run desk.toWorld).2 }
  | (.automation, event) =>
    { desk with
      toQueueWorld := ((handleTicketCommentAdded setup requestId (Automation.payloadOf event)).run
        desk.toQueueWorld).2 }

def Desk.perform (desk : Desk) : Step → Desk
  | .request userId call =>
    let world := ((call.service locale userId).run desk.toWorld).2
    { desk with
      toWorld := { world with events := [] }
      deliveries := desk.deliveries ++ world.events.flatMap listeners }
  | .deliver place queue requestId =>
    match desk.deliveries[place]? with
    | none => desk
    | some delivery =>
      { desk with deliveries := desk.deliveries.eraseIdx place }.hear locale setup queue requestId
        delivery

def Desk.after (desk : Desk) (steps : List Step) : Desk :=
  steps.foldl (Desk.perform locale setup) desk

/-- The texts of internal comments are blanked. -/
def Desk.veil (desk : Desk) : Desk := { desk with toWorld := Tickets.veil desk.toWorld }

inductive Alike : Step → Step → Prop
  | request (userId : Nat) {call call' : TicketCall} (alike : SameButText call call') :
    Alike (.request userId call) (.request userId call')
  | deliver (place : Nat) (queue : DeliveryQueue) (requestId : Option String) :
    Alike (.deliver place queue requestId) (.deliver place queue requestId)

def Step.Touches (desk : Desk) : Step → Prop
  -- The step adds an internal comment, or deletes one.
  | .request userId call => call.Touches desk.toWorld userId
  | .deliver .. => False

def Discreet : Desk → List Step → Prop
  -- No step of the run touches an internal comment.
  | _, [] => True
  | desk, step :: steps => ¬step.Touches desk ∧ Discreet (desk.perform locale setup step) steps

def LacksViewAll (db : Database) (organizationId userId : Nat) : Prop :=
  -- The role of the member does not see all tickets of the organisation.
  ∃ role, storedRole db organizationId userId = some role ∧
    canViewAllOrganizationTickets role = false

def TicketCall.Shows (db : Database) (organizationId : Nat) : TicketCall → Prop
  -- The calls that show tickets of the organisation, or a ticket of it.
  | .getTickets query => query.organizationId = some organizationId
  | .getTicketById ticketId | .getTicketComments ticketId | .getTicketActivities ticketId =>
    ∃ ticket, db.findTicket ticketId = some ticket ∧ ticket.organizationId = organizationId
  | _ => False

def notificationsOf (db : Database) (userId : Nat) : List Notification :=
  db.notifications.filter fun row => row.recipientId = userId

/-- What is returned to the user in the one state and in the other. -/
structure SameFor (userId : Nat) (reached reached' : World) : Prop where
  answers : ∀ organizationId, LacksViewAll reached.db organizationId userId →
    ∀ call : TicketCall, call.Shows reached.db organizationId →
      ((call.answer locale userId).run reached').1 = ((call.answer locale userId).run reached).1
  notifications : notificationsOf reached'.db userId = notificationsOf reached.db userId

end Runs

section Handlers

variable {stored : Nat → Nat → Option OrgRole}

theorem createActivityLogForEvent_veils (showId : Nat → String) (event : TicketEvent) :
    Veils stored (createActivityLogForEvent showId event) (createActivityLogForEvent showId event)
      Eq := by
  apply Related.bind (createTicketActivityLog_veils _ _ _ _ _)
  intro _ _ _
  exact Related.pure rfl

theorem applyRecipientPreferences_veils (recipientIds : List (Option Nat)) (actorId : Option Nat)
    (type : Option NotificationType) :
    Veils stored (applyRecipientPreferences recipientIds actorId type)
      (applyRecipientPreferences recipientIds actorId type) Eq := by
  have preferences (userIds : List Nat) :
      Veils stored (getNotificationPreferencesForUsers userIds)
        (getNotificationPreferencesForUsers userIds) Eq := by
    unfold getNotificationPreferencesForUsers
    split_ifs
    · exact Related.pure rfl
    · exact veils_looks _ fun _ => rfl
  unfold applyRecipientPreferences
  dsimp only
  split_ifs
  · exact Related.pure rfl
  · apply Related.bind (preferences _)
    rintro rows _ rfl
    exact Related.pure rfl

theorem resolveRecipientsForTicketEvent_veils (payload : Option TicketEventPayload)
    (recipientMode : RecipientMode) :
    Veils stored (resolveRecipientsForTicketEvent payload recipientMode)
      (resolveRecipientsForTicketEvent payload recipientMode) Eq := by
  have context (ticketId : Option Nat) : Veils stored (getTicketNotificationContext ticketId)
      (getTicketNotificationContext ticketId) Eq := by
    cases ticketId with
    | none => exact Related.pure rfl
    | some ticketId => exact veils_looks _ fun _ => rfl
  unfold resolveRecipientsForTicketEvent
  cases payload with
  | none => exact Related.pure rfl
  | some payload =>
    cases recipientMode with
    | assignedAgent => exact Related.pure rfl
    | ticketWatchers =>
      apply Related.bind (context payload.ticketId)
      rintro ticket _ rfl
      cases ticket with
      | none => exact Related.pure rfl
      | some ticket =>
        apply Related.bind (veils_looks _ fun _ => rfl)
        rintro staff _ rfl
        exact Related.pure rfl

theorem createNotifications_veils (notifications : List NewNotification) :
    Veils stored (createNotifications notifications) (createNotifications notifications)
      Eq := by
  unfold createNotifications
  split_ifs
  · exact Related.pure rfl
  · apply veils_writes
    · intro world
      have resolves (new : NewNotification) : new.resolves (Tickets.veil world).db =
          new.resolves world.db := rfl
      simp only [resolves]
      split_ifs <;> rfl
    · intro world value reached done
      split_ifs at done
      cases done
      exact ⟨rfl, rfl⟩

theorem createInAppNotificationsService_veils (organizationId ticketId : Option Nat)
    (recipientIds : List Nat) (type : Option NotificationType) (title message : String)
    (metadata : Option EventMetadata) :
    Veils stored
      (createInAppNotificationsService organizationId ticketId recipientIds type title message
        metadata)
      (createInAppNotificationsService organizationId ticketId recipientIds type title message
        metadata) Eq := by
  unfold createInAppNotificationsService
  cases organizationId with
  | none => exact Related.fail _
  | some organizationId =>
    dsimp only
    split_ifs
    · exact Related.pure rfl
    · cases type with
      | none => exact Related.fail _
      | some type =>
        apply Related.bind (Related.require rfl rfl : Related _ _ _ Eq)
        rintro _ _ rfl
        exact createNotifications_veils _

variable (queue : DeliveryQueue)

theorem sendForTicketEventService_veils (job : NotificationJob) :
    Veils stored (sendForTicketEventService queue job) (sendForTicketEventService queue job)
      Eq := by
  cases queue with
  | disabled => exact Related.pure rfl
  | failing => exact Related.fail _
  | ready =>
    apply Related.modify
    · rintro left right ⟨rfl, roles, current⟩
      exact ⟨rfl, roles, current⟩
    · rfl

theorem notifyOf_veils (event : TicketEvent) :
    Veils stored (notifyOf queue event) (notifyOf queue event) Eq := by
  unfold notifyOf
  cases ticketNotification event.name with
  | none => exact Related.pure rfl
  | some config =>
    have handled : Veils stored
        (handleTicketNotificationEvent queue (some (payloadOf event)) (some config.type)
          config.title config.message config.recipientMode)
        (handleTicketNotificationEvent queue (some (payloadOf event)) (some config.type)
          config.title config.message config.recipientMode) whatever := by
      apply Related.recover
      · apply Related.bind (resolveRecipientsForTicketEvent_veils _ _)
        rintro recipients _ rfl
        apply Related.bind (applyRecipientPreferences_veils _ _ _)
        rintro users _ rfl
        apply Related.bind (createInAppNotificationsService_veils _ _ _ _ _ _ _)
        rintro _ count rfl
        apply Related.bind (sendForTicketEventService_veils queue _)
        rintro _ _ rfl
        exact Related.pure trivial
      · intro failure
        split_ifs
        · exact Related.pure trivial
        · exact Related.fail failure
    apply Related.recover
    · apply Related.bind handled
      intro _ _ _
      exact Related.pure rfl
    · intro _
      exact Related.pure rfl

theorem run_enqueueAICommentProcessing (requestId : Option String) (payload : Automation.Payload)
    (state : QueueWorld) :
    let job : Automation.AutomationJob :=
      { data := Automation.withRequestId requestId payload
        id := toString payload.ticketId ++ ":" ++ Automation.interpolated payload.commentId }
    (Automation.enqueueAICommentProcessing requestId payload).run state =
      if state.queueConnection then
        (if state.refuses job then .error (.unavailable "queue") else .ok (some job.id),
          { state with offered := state.offered ++ [job] })
      else (.ok none, state) := by
  unfold Automation.enqueueAICommentProcessing
  rw [run_bind, run_reads]
  obtain ⟨world, connected, refuses, offered⟩ := state
  cases connected with
  | false => rfl
  | true =>
    simp only [Bool.not_true, Bool.false_eq_true, if_false, if_true]
    rw [run_bind, Program.run_modify]
    dsimp only
    rw [run_bind, run_reads]
    dsimp only
    rw [run_bind, Program.run_require]
    generalize refuses _ = refused
    cases refused <;> rfl

theorem run_handleTicketCommentAdded (setup : Setup) (requestId : Option String)
    (event : TicketEvent) :
    ∃ jobs : Bool → List Automation.AutomationJob, ∀ state : QueueWorld,
      ((handleTicketCommentAdded setup requestId (Automation.payloadOf event)).run state).2 =
        { state with offered := state.offered ++ jobs state.queueConnection } := by
  -- The automation makes nothing of an event: at most a job is offered to its queue.
  let payload := Automation.payloadOf event
  let job : Automation.AutomationJob :=
    { data := Automation.withRequestId requestId payload
      id := toString payload.ticketId ++ ":" ++ Automation.interpolated payload.commentId }
  have idle :
      Automation.handleCommentAdded setup (Automation.commentPayload payload) = pure () := by
    have unnamed : (Automation.commentPayload payload).commentId = none :=
      Automation.commentId_payloadOf event
    rw [Automation.handleCommentAdded, unnamed]
  refine ⟨fun connected => if connected then [job] else [], fun state => ?_⟩
  unfold handleTicketCommentAdded
  rw [Program.run_recover, run_bind, run_enqueueAICommentProcessing]
  obtain ⟨world, connected, refuses, offered⟩ := state
  cases connected with
  | false =>
    dsimp only
    rw [if_neg Bool.false_ne_true, if_neg Bool.false_ne_true, List.append_nil]
    dsimp only
    rw [idle]
    rfl
  | true =>
    dsimp only
    rw [if_pos rfl, if_pos rfl]
    split_ifs <;> rfl

end Handlers

section Steps

variable (locale : Locale) (setup : Setup) {desk : Desk}

theorem hear_veil (current : Current desk.toWorld) (queue : DeliveryQueue)
    (requestId : Option String) (delivery : Listener × TicketEvent) :
    desk.veil.hear locale setup queue requestId delivery =
      (desk.hear locale setup queue requestId delivery).veil ∧
      Current (desk.hear locale setup queue requestId delivery).toWorld ∧
      storedRole (desk.hear locale setup queue requestId delivery).db = storedRole desk.db := by
  obtain ⟨listener, event⟩ := delivery
  have beside : Veiled (storedRole desk.db) desk.toWorld (Tickets.veil desk.toWorld) :=
    ⟨rfl, rfl, current⟩
  cases listener with
  | activity =>
    have ⟨hidden, roles, kept⟩ :=
      (createActivityLogForEvent_veils locale.showId event _ _ beside).2
    exact ⟨congrArg (fun world => { desk with toWorld := world }) hidden, kept, roles⟩
  | notification =>
    have ⟨hidden, roles, kept⟩ := (notifyOf_veils queue event _ _ beside).2
    exact ⟨congrArg (fun world => { desk with toWorld := world }) hidden, kept, roles⟩
  | automation =>
    -- What the handler does depends on the queue alone, and goes to the queue alone.
    obtain ⟨jobs, ran⟩ := run_handleTicketCommentAdded setup requestId event
    have heard : (desk.hear locale setup queue requestId (.automation, event)) =
        { desk with offered := desk.offered ++ jobs desk.queueConnection } :=
      congrArg (fun state => { desk with toQueueWorld := state }) (ran desk.toQueueWorld)
    have veiled : (desk.veil.hear locale setup queue requestId (.automation, event)) =
        { desk.veil with offered := desk.offered ++ jobs desk.queueConnection } :=
      congrArg (fun state => { desk.veil with toQueueWorld := state }) (ran desk.veil.toQueueWorld)
    rw [heard, veiled]
    exact ⟨rfl, current, rfl⟩

theorem perform_veil (current : Current desk.toWorld) {step step' : Step} (alike : Alike step step')
    (discreet : ¬step.Touches desk) :
    desk.veil.perform locale setup step' = (desk.perform locale setup step).veil ∧
      Current (desk.perform locale setup step).toWorld ∧
      storedRole (desk.perform locale setup step).db = storedRole desk.db := by
  have beside : Veiled (storedRole desk.db) desk.toWorld (Tickets.veil desk.toWorld) :=
    ⟨rfl, rfl, current⟩
  cases alike with
  | request userId alike =>
    have ⟨hidden, roles, kept⟩ := service_discreet beside userId locale alike discreet
    refine ⟨?_, kept, roles⟩
    exact congrArg (fun world : World => ({ desk with
      toWorld := { world with events := [] }
      deliveries := desk.deliveries ++ world.events.flatMap listeners } : Desk)) hidden
  | deliver place queue requestId =>
    unfold Desk.perform
    dsimp only
    have same : desk.veil.deliveries[place]? = desk.deliveries[place]? := rfl
    rw [same]
    cases desk.deliveries[place]? with
    | none => exact ⟨rfl, current, rfl⟩
    | some delivery =>
      let left := { desk with deliveries := desk.deliveries.eraseIdx place }
      have still : Current left.toWorld := current
      exact hear_veil locale setup still queue requestId delivery

theorem touches_alike {desk' : Desk} (same : desk.veil = desk'.veil) {step step' : Step}
    (alike : Alike step step') : step.Touches desk ↔ step'.Touches desk' := by
  cases alike with
  | request userId alike =>
    have veils : Tickets.veil desk.toWorld = Tickets.veil desk'.toWorld :=
      congrArg (fun desk : Desk => desk.toWorld) same
    have text : ∀ call call', SameButText call call' →
        (call.Touches (Tickets.veil desk.toWorld) userId ↔
          call'.Touches (Tickets.veil desk'.toWorld) userId) := by
      rintro _ _ (call | ⟨ticketId, message, message'⟩)
      · rw [veils]
      · rw [veils]
        exact Iff.rfl
    exact (touches_veil _ _ _).symm.trans ((text _ _ alike).trans (touches_veil _ _ _))
  | deliver => exact Iff.rfl

theorem runs_alike {steps steps' : List Step} (alike : List.Forall₂ Alike steps steps')
    (desk desk' : Desk) (same : desk.veil = desk'.veil) (current : Current desk.toWorld)
    (discreet : Discreet locale setup desk steps) :
    (desk.after locale setup steps).veil = (desk'.after locale setup steps').veil ∧
      Current (desk.after locale setup steps).toWorld := by
  -- After each step the veiled states agree, and the second run meets the condition as well.
  induction alike generalizing desk desk' with
  | nil => exact ⟨same, current⟩
  | @cons step step' steps steps' one rest ih =>
    obtain ⟨aside, discreet⟩ := discreet
    have current' : Current desk'.toWorld := by
      have copied : Current desk'.veil.toWorld := same ▸ current
      exact copied
    have again : Alike step' step' := by
      cases one with
      | request userId => exact .request userId (.same _)
      | deliver => exact .deliver _ _ _
    have aside' : ¬step'.Touches desk' := fun touches =>
      aside ((touches_alike same one).mpr touches)
    obtain ⟨first, next, -⟩ := perform_veil locale setup current one aside
    obtain ⟨second, -, -⟩ := perform_veil locale setup current' again aside'
    exact ih _ _ (by rw [← first, ← second, same]) next discreet

end Steps

section Shown

variable {world : World} {organizationId userId : Nat}

theorem LacksViewAll.seen (current : Current world)
    (lacks : LacksViewAll world.db organizationId userId) :
    ∃ membership, seenMembership world organizationId userId = some membership ∧
      canViewAllOrganizationTickets membership.role = false := by
  obtain ⟨role, known, lacks⟩ := lacks
  have there : (seenMembership world organizationId userId).isSome = true := by
    unfold seenMembership
    obtain ⟨row, found, view⟩ := Option.bind_eq_some_iff.mp known
    have joined : ((world.db.findMembership organizationId userId).bind world.db.withRole).isSome =
        true := by
      rw [found]
      simp [Database.withRole, view]
    simp [joined]
  obtain ⟨membership, seen⟩ := Option.isSome_iff_exists.mp there
  have own := current.seen seen
  rw [known, Option.some.injEq] at own
  exact ⟨membership, seen, own ▸ lacks⟩

theorem run_getTicketCommentsService (ticket : Ticket) (userId : Nat) (world : World)
    (membership : OrganizationMembership)
    (found : world.db.findTicket ticket.id = some ticket)
    (member : seenMembership world ticket.organizationId userId = some membership) :
    ((getTicketCommentsService ticket.id userId).run world).1 =
      if canSee membership.role ticket userId then
        .ok (filterCommentsForRole
          ((byCreatedAt (·.createdAt) (commentsOf world.db ticket.id)).map (authored world.db))
          membership.role)
      else .error (forbidden "You do not have permission to view comments on this ticket") := by
  unfold getTicketCommentsService
  rw [run_bind, run_admitted ticket userId world membership found member]
  by_cases permitted : canSee membership.role ticket userId = true
  · rw [if_pos permitted, if_pos permitted]
    dsimp only
    rw [run_bind, getTicketComments, run_reads, afterLooking_db]
    rfl
  · rw [if_neg permitted, if_neg permitted]

theorem sameResult_eq {α : Type} {one other : Except ServiceError α}
    (alike : SameResult Eq one other) : other = one := by
  rcases one with failure | value <;> rcases other with failure' | value'
  · exact congrArg Except.error (Eq.symm alike)
  · exact alike.elim
  · exact alike.elim
  · exact congrArg Except.ok (Eq.symm alike)

theorem answer_veil (locale : Locale) (current : Current world)
    (lacks : LacksViewAll world.db organizationId userId) (call : TicketCall)
    (shows_ : call.Shows world.db organizationId) :
    ((call.answer locale userId).run (veil world)).1 =
      ((call.answer locale userId).run world).1 := by
  -- Nothing that is shown to the member is lost behind the veil.
  have beside : Veiled (storedRole world.db) world (veil world) := ⟨rfl, rfl, current⟩
  have uniform := veils_uniform (storedRole world.db)
  cases call with
  | getTickets query =>
    exact sameResult_eq (uniform.getTicketsService userId query world (veil world) beside).1
  | getTicketActivities ticketId =>
    exact sameResult_eq
      (uniform.getTicketActivitiesService ticketId userId world (veil world) beside).1
  | getTicketById ticketId =>
    obtain ⟨ticket, found, rfl⟩ := shows_
    obtain ⟨membership, seen, denied⟩ := lacks.seen current
    obtain rfl := findTicket_id _ _ _ found
    have row : hydrated (veil world).db ticket = (hydrated world.db ticket).veiled :=
      hydrated_veilDb world.db ticket
    rw [TicketCall.answer,
      run_getTicketByIdService ticket userId (veil world) membership found seen,
      run_getTicketByIdService ticket userId world membership found seen, row,
      filterInternalCommentsForRole_veiled, filterInternalCommentsForRole_hides denied]
  | getTicketComments ticketId =>
    obtain ⟨ticket, found, rfl⟩ := shows_
    obtain ⟨membership, seen, denied⟩ := lacks.seen current
    obtain rfl := findTicket_id _ _ _ found
    have rows : (byCreatedAt (·.createdAt) (commentsOf (veil world).db ticket.id)).map
          (authored (veil world).db) =
        ((byCreatedAt (·.createdAt) (commentsOf world.db ticket.id)).map
          (authored world.db)).map AuthoredComment.veiled := listed_veilDb world.db ticket.id
    rw [TicketCall.answer,
      run_getTicketCommentsService ticket userId (veil world) membership found seen,
      run_getTicketCommentsService ticket userId world membership found seen, rows,
      filterCommentsForRole_veiled, filterCommentsForRole_hides denied]
  | _ => exact shows_.elim

end Shown

/-- In every run in which no internal comment is added or deleted, what is returned to a member
who does not see all tickets is the same whatever the internal comments say. -/
theorem internal_texts_hidden (locale : Locale) (setup : Setup) {start start' : Desk}
    (same : start.veil = start'.veil) (current : Current start.toWorld) {steps steps' : List Step}
    (alike : List.Forall₂ Alike steps steps') (discreet : Discreet locale setup start steps)
    (userId : Nat) :
    SameFor locale userId (start.after locale setup steps).toWorld
      (start'.after locale setup steps').toWorld := by
  obtain ⟨reached, kept⟩ := runs_alike locale setup alike start start' same current discreet
  have veils : veil (start.after locale setup steps).toWorld =
      veil (start'.after locale setup steps').toWorld :=
    congrArg (fun desk : Desk => desk.toWorld) reached
  generalize (start.after locale setup steps).toWorld = left at *
  generalize (start'.after locale setup steps').toWorld = right at *
  have kept' : Current right := by
    have copied : Current (veil right) := veils ▸ kept
    exact copied
  constructor
  · -- The answers are compared through the veiled state, which is the same for both.
    intro organizationId lacks call shown
    have lacks' : LacksViewAll right.db organizationId userId := by
      have copied : LacksViewAll (veil right).db organizationId userId := veils ▸ lacks
      exact copied
    have shown' : call.Shows right.db organizationId := by
      have copied : call.Shows (veil right).db organizationId := by
        rw [← veils]
        cases call <;> exact shown
      cases call <;> exact copied
    rw [← answer_veil locale kept' lacks' call shown', ← veils,
      answer_veil locale kept lacks call shown]
  · have rows := congrArg (fun world : World => notificationsOf world.db userId) veils
    exact rows.symm

def agentRole : OrgRole where
  id := 1
  name := "AGENT"
  organizationId := 1
  permissions := [.ticketViewAll, .ticketCreateInternalComment]
  level := 50

def customerRole : OrgRole where
  id := 2
  name := "CUSTOMER"
  organizationId := 1
  permissions := []
  level := 10

/-- The customer has a ticket, on which there is an internal comment. -/
def noteDesk (note : String) : Desk where
  db :=
    { users := [{ id := 1, email := "customer@a.example", password := "" },
        { id := 2, email := "agent@a.example", password := "" }]
      organizations := [{ id := 1, name := "Shop" }]
      orgRoles := [agentRole, customerRole]
      memberships := [{ id := 3, userId := 1, organizationId := 1, roleId := 2 },
        { id := 4, userId := 2, organizationId := 1, roleId := 1 }]
      tickets := [{ id := 7, title := "Refund", organizationId := 1, createdById := 1 }]
      ticketComments := [{ id := 8, ticketId := 7, authorId := some 2, authorType := .user
                           message := note, isInternal := true }]
      nextId := 9 }

theorem noteDesk_current (note : String) : Current (noteDesk note).toWorld :=
  fun _ _ _ there => nomatch there

def answering (userId : Nat) (commentData : CommentData) : List Step :=
  -- A comment, and its handlers.
  [.request userId (.createTicketComment 7 commentData), .deliver 0 .ready none,
    .deliver 0 .ready none, .deliver 0 .ready none]

theorem answering_alike (userId : Nat) (message message' : String) :
    List.Forall₂ Alike (answering userId ⟨message, true⟩) (answering userId ⟨message', true⟩) :=
  .cons (.request userId (.text 7 message message')) (.cons (.deliver _ _ _)
    (.cons (.deliver _ _ _) (.cons (.deliver _ _ _) .nil)))

/-- The customer is told the same, whatever the agents have noted before. -/
theorem notes_hidden :
    SameFor deskLocale 1
      ((noteDesk "Regular").after deskLocale Automation.anySetup
        (answering 1 ⟨"Any news?", false⟩)).toWorld
      ((noteDesk "Nuisance").after deskLocale Automation.anySetup
        (answering 1 ⟨"Any news?", false⟩)).toWorld := by
  have same : (noteDesk "Regular").veil = (noteDesk "Nuisance").veil := rfl
  apply internal_texts_hidden deskLocale Automation.anySetup same (noteDesk_current "Regular")
  · exact .cons (.request 1 (.same _)) (.cons (.deliver _ _ _) (.cons (.deliver _ _ _)
      (.cons (.deliver _ _ _) .nil)))
  · exact ⟨fun touches => absurd touches.1 (by decide), id, id, id, trivial⟩

/-- The text of an internal comment is in the activities that the customer reads. -/
theorem note_overheard :
    ¬∀ (locale : Locale) (setup : Setup) (start start' : Desk) (steps steps' : List Step)
      (userId : Nat), start.veil = start'.veil → Current start.toWorld →
        List.Forall₂ Alike steps steps' →
          SameFor locale userId (start.after locale setup steps).toWorld
            (start'.after locale setup steps').toWorld := by
  intro hidden
  have same := hidden deskLocale Automation.anySetup (noteDesk "") (noteDesk "")
    (answering 2 ⟨"Refuse", true⟩) (answering 2 ⟨"Grant", true⟩) 1 rfl (noteDesk_current _)
    (answering_alike 2 "Refuse" "Grant")
  have read := same.answers 1 ⟨customerRole, by decide +kernel, rfl⟩ (.getTicketActivities 7)
    ⟨{ id := 7, title := "Refund", organizationId := 1, createdById := 1 }, by decide +kernel, rfl⟩
  have texts := congrArg (fun answer => answer.toOption.map (List.map fun row => row.newValue)) read
  exact absurd texts (by decide +kernel)

end HelpForge.Tickets
