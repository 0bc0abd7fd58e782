import HelpForge.Lib.Runs
import HelpForge.Notifications.Preferences

set_option autoImplicit false

namespace HelpForge.Notifications

open Lib Machine

structure RealtimePayload where
  type : Option NotificationType
  ticketId : Option Nat
  organizationId : Option Nat
  actorId : Option Nat
  deriving DecidableEq

structure Socket where
  id : Nat
  userId : Nat
  deriving DecidableEq

/-- `ioInstance` with the sockets in their rooms, and what has been emitted to which socket. -/
structure Gateway where
  ioInstance : Option (List Socket) := none
  delivered : List (Nat × RealtimePayload) := []

def initializeWebsocketGateway (gateway : Gateway) : Gateway :=
  { gateway with ioInstance := gateway.ioInstance.or (some []) }

def emitNotificationToUser (userId : Nat) (payload : RealtimePayload) (gateway : Gateway) :
    Bool × Gateway :=
  match gateway.ioInstance with
  | none => (false, gateway)
  | some sockets =>
    (true, { gateway with
      delivered := gateway.delivered ++
        (sockets.filter (·.userId == userId)).map fun socket => (socket.id, payload) })

def Gateway.connection (socketId : Nat) (user : Option Nat) (gateway : Gateway) : Gateway :=
  match gateway.ioInstance, user with
  | some sockets, some userId =>
    { gateway with ioInstance := some (sockets ++ [⟨socketId, userId⟩]) }
  | _, _ => gateway

def Gateway.disconnect (socketId : Nat) (gateway : Gateway) : Gateway :=
  { gateway with ioInstance := gateway.ioInstance.map (·.filter (·.id != socketId)) }

def sendWebsocketChannel (notification : NotificationJob) (world : World) (gateway : Gateway) :
    Except ServiceError Bool × Gateway :=
  let recipients := filterRecipientsByChannelPreference (notification.recipientIds.map some)
    .websocket
  match (recipients.run world).1 with
  | .error failure => (.error failure, gateway)
  | .ok recipientIds =>
    let payload : RealtimePayload :=
      ⟨notification.type, notification.ticketId, notification.organizationId, notification.actorId⟩
    (.ok (!recipientIds.isEmpty), recipientIds.foldl
      (fun gateway recipientId => (emitNotificationToUser recipientId payload gateway).2) gateway)

def sendNotification (notification : NotificationJob) (world : World) (gateway : Gateway) :
    Except ServiceError Bool × Gateway :=
  let (websocket, reached) := sendWebsocketChannel notification world gateway
  -- The channels for mail and push are placeholders that deliver nothing.
  (websocket.map fun delivered => [false, false, delivered].any id, reached)

/-- The two processes: `server.js` initialises the gateway of its sockets, and `worker.js`, which
takes the jobs, does not. `reports` is what `sendNotification` has returned for them. -/
structure Deployment where
  world : World
  server : Gateway := initializeWebsocketGateway {}
  worker : Gateway := {}
  reports : List (Except ServiceError Bool) := []

inductive DeploymentEvent where
  | connect (socketId now : Nat) (token : Option String)
  | disconnect (socketId : Nat)
  | serve (change : World → World)
  | work

def Deployment.work (deployment : Deployment) : Deployment :=
  match deployment.world.notificationJobs with
  | [] => deployment
  | job :: rest =>
    let (report, worker) := sendNotification job deployment.world deployment.worker
    { deployment with
      world := { deployment.world with notificationJobs := rest }
      worker
      reports := deployment.reports ++ [report] }

def Deployment.step (verifyAccessToken : Nat → String → Option Nat) (deployment : Deployment) :
    DeploymentEvent → Deployment
  | .connect socketId now token =>
    { deployment with
      server := deployment.server.connection socketId (token.bind (verifyAccessToken now)) }
  | .disconnect socketId => { deployment with server := deployment.server.disconnect socketId }
  | .serve change => { deployment with world := change deployment.world }
  | .work => deployment.work

/-- Whether the notification has a recipient who has not switched the channel off. -/
def Reaching (world : World) (notification : NotificationJob) : Bool :=
  notification.recipientIds.any fun user =>
    isReached (toPreferenceMap world.db.notificationPreferences user) .websocket

theorem emitted_nowhere (recipientIds : List Nat) (payload : RealtimePayload) (gateway : Gateway)
    (off : gateway.ioInstance = none) :
    recipientIds.foldl (fun gateway recipientId =>
      (emitNotificationToUser recipientId payload gateway).2) gateway = gateway := by
  induction recipientIds with
  | nil => rfl
  | cons recipientId rest ih => simpa [emitNotificationToUser, off] using ih

theorem sendNotification_off (job : NotificationJob) (world : World) (gateway : Gateway)
    (off : gateway.ioInstance = none) :
    sendNotification job world gateway = (.ok (Reaching world job), gateway) := by
  simp only [sendNotification, sendWebsocketChannel, run_filterRecipientsByChannelPreference,
    emitted_nowhere _ _ gateway off]
  have among : ∀ user, user ∈ dedupe (job.recipientIds.map some) ↔ user ∈ job.recipientIds := by
    simp [dedupe]
  refine Prod.ext (congrArg Except.ok ?_) rfl
  rw [Bool.eq_iff_iff]
  simp [Reaching, among]

structure Undelivered (deployment : Deployment) : Prop where
  server : deployment.server.delivered = []
  off : deployment.worker.ioInstance = none
  worker : deployment.worker.delivered = []

theorem Undelivered.step (verifyAccessToken : Nat → String → Option Nat)
    {deployment : Deployment} (quiet : Undelivered deployment) (event : DeploymentEvent) :
    Undelivered (deployment.step verifyAccessToken event) := by
  cases event with
  | connect socketId now token =>
    refine { quiet with server := ?_ }
    simp only [Deployment.step, Gateway.connection]
    split <;> exact quiet.server
  | disconnect socketId => exact { quiet with }
  | serve change => exact { quiet with }
  | work =>
    change Undelivered deployment.work
    unfold Deployment.work
    split
    · exact quiet
    · rw [sendNotification_off _ _ _ quiet.off]
      exact { quiet with }

/-- In every run no socket ever gets a notification, whoever is connected; but the worker reports
of every job that has a recipient with the channel on that it was delivered. -/
theorem worker_reports_without_delivering (verifyAccessToken : Nat → String → Option Nat)
    (start : World) (events : List DeploymentEvent) :
    let final := run (Deployment.step verifyAccessToken) { world := start } events
    final.server.delivered = [] ∧ final.worker.delivered = [] ∧
      ∀ job rest, final.world.notificationJobs = job :: rest →
        (final.step verifyAccessToken .work).reports =
          final.reports ++ [.ok (Reaching final.world job)] := by
  intro final
  have begins : Undelivered { world := start } := ⟨rfl, rfl, rfl⟩
  have quiet : Undelivered final :=
    run_of_invariant (fun _ event quiet => quiet.step verifyAccessToken event) begins events
  refine ⟨quiet.server, quiet.worker, fun job rest next => ?_⟩
  simp only [Deployment.step, Deployment.work, next, sendNotification_off _ _ _ quiet.off]

end HelpForge.Notifications
