import HelpForge.Lib.Runs
import Mathlib.Tactic.Common
import Mathlib.Data.List.Infix

set_option autoImplicit false

/-!
# The circuit breakers of the database and of Redis

A command that started before the breaker opened may end at any time after it.
-/

namespace HelpForge.Config

open Lib Machine

inductive Backend where
  | database
  | redis
  deriving DecidableEq, Repr

structure CommandError where
  code : Option String
  message : Option String
  deriving DecidableEq, Repr

def includes (text word : String) : Bool := decide (word.toList <:+: text.toList)

-- Lower case is that of ASCII letters: no other letter's lower case is one of the words' letters.
def isInfrastructureError (backend : Backend) (error : CommandError) : Bool :=
  let code := error.code.getD ""
  let msg := String.ofList ((error.message.getD "").toList.map Char.toLower)
  match backend with
  | .database =>
    code == "P1001" || code == "P1002" || code == "P1008" || code == "P1017" ||
      includes msg "connection" || includes msg "timeout" || includes msg "econnrefused" ||
      includes msg "enotfound"
  | .redis =>
    includes msg "connection" || includes msg "timeout" || includes msg "econnrefused" ||
      includes msg "enotfound" || includes msg "econnreset" || includes msg "closed"

inductive BreakerState where
  | closed
  | opened
  | halfOpen
  deriving DecidableEq, Repr

structure BreakerSettings where
  backend : Backend
  failureThreshold : Nat := 5
  resetTimeoutMs : Nat := 30000

structure Breaker where
  state : BreakerState := .closed
  failures : Nat := 0
  lastFailureTime : Nat := 0
  deriving DecidableEq, Repr

namespace Breaker

variable (settings : BreakerSettings) (breaker : Breaker) (now : Nat)

def Elapsed : Prop :=
  (settings.resetTimeoutMs : Int) ≤ (now : Int) - breaker.lastFailureTime

instance : Decidable (breaker.Elapsed settings now) := inferInstanceAs (Decidable (_ ≤ _))

def canExecute : Bool × Breaker :=
  -- The answer, with what asking makes of the breaker.
  match breaker.state with
  | .closed => (true, breaker)
  | .opened =>
    if breaker.Elapsed settings now then (true, { breaker with state := .halfOpen })
    else (false, breaker)
  | .halfOpen => (true, breaker)

-- Whatever the state is: also a success that comes while the breaker is open closes it.
def recordSuccess : Breaker := { breaker with state := .closed, failures := 0 }

def recordFailure (error : CommandError) : Breaker :=
  if isInfrastructureError settings.backend error = false then breaker
  else
    { state :=
        if settings.failureThreshold ≤ breaker.failures + 1 ∧ breaker.state ≠ .opened then .opened
        else breaker.state
      failures := breaker.failures + 1
      lastFailureTime := now }

end Breaker

inductive Completion where
  | resolved
  | rejected (error : CommandError)
  | returned
  deriving DecidableEq, Repr

/-- A client's breaker with its commands, by whatever they are known. -/
structure Client (κ : Type) where
  breaker : Breaker := {}
  now : Nat := 0
  inFlight : List κ := []
  -- When the last infrastructure failure was recorded that left the breaker open.
  paused : Option Nat := none
  deriving DecidableEq

inductive Event (κ : Type) where
  | tick (ms : Nat)
  | issue (command : κ)
  | complete (command : κ) (completion : Completion)
  deriving DecidableEq

namespace Client

variable {κ : Type} [DecidableEq κ] (settings : BreakerSettings) (client : Client κ)

def start (command : κ) : Client κ :=
  { client with
    breaker := (client.breaker.canExecute settings client.now).2
    inFlight := command :: client.inFlight }

def record : Completion → Breaker
  | .resolved => client.breaker.recordSuccess
  | .rejected error => client.breaker.recordFailure settings client.now error
  | .returned => client.breaker

def pause : Completion → Option Nat
  | .rejected error =>
    if isInfrastructureError settings.backend error ∧
        (client.breaker.recordFailure settings client.now error).state = .opened then
      some client.now
    else client.paused
  | _ => client.paused

def finish (command : κ) (completion : Completion) : Client κ :=
  { client with
    breaker := client.record settings completion
    inFlight := client.inFlight.erase command
    paused := client.pause settings completion }

def Starts (command : κ) : Prop :=
  command ∉ client.inFlight ∧ (client.breaker.canExecute settings client.now).1 = true

instance (command : κ) : Decidable (client.Starts settings command) :=
  inferInstanceAs (Decidable (_ ∧ _))

def step : Event κ → Client κ
  -- A command that is running is not issued again, and only running commands end.
  | .tick ms => { client with now := client.now + ms }
  | .issue command => if client.Starts settings command then client.start settings command else client
  | .complete command completion =>
    if command ∈ client.inFlight then client.finish settings command completion else client

def Over : Prop := ∀ failure ∈ client.paused, failure + settings.resetTimeoutMs ≤ client.now

instance : Decidable (client.Over settings) :=
  inferInstanceAs (Decidable (∀ failure ∈ client.paused, _))

def Pauses : Event κ → Prop
  -- A command starts only when the pause is over.
  | .issue command => client.Starts settings command → client.Over settings
  | _ => True

instance : (event : Event κ) → Decidable (client.Pauses settings event)
  | .tick _ => .isTrue trivial
  | .issue _ => inferInstanceAs (Decidable (_ → _))
  | .complete _ _ => .isTrue trivial

def EarlySuccess : Event κ → Prop
  -- A command succeeds while the breaker is open and its reset timeout has not passed.
  | .complete command completion =>
    command ∈ client.inFlight ∧ completion = .resolved ∧ client.breaker.state = .opened ∧
      ¬client.breaker.Elapsed settings client.now
  | _ => False

instance : (event : Event κ) → Decidable (client.EarlySuccess settings event)
  | .tick _ => .isFalse id
  | .issue _ => .isFalse id
  | .complete _ _ => inferInstanceAs (Decidable (_ ∧ _))

def Timely (event : Event κ) : Prop := ¬client.EarlySuccess settings event

instance (event : Event κ) : Decidable (client.Timely settings event) :=
  inferInstanceAs (Decidable (¬_))

end Client

section Runs

variable {κ : Type} [DecidableEq κ]

def reached (settings : BreakerSettings) (start : Nat) (events : List (Event κ)) : Client κ :=
  run (Client.step settings) { now := start } events

end Runs

namespace Breaker

variable {settings : BreakerSettings} {breaker : Breaker}

def Counts (settings : BreakerSettings) (breaker : Breaker) : Prop :=
  -- The counter is below the threshold exactly while the breaker is closed.
  breaker.state = .closed ↔ breaker.failures < settings.failureThreshold

theorem Counts.canExecute (counts : breaker.Counts settings) (now : Nat) :
    (breaker.canExecute settings now).2.Counts settings := by
  unfold Breaker.canExecute
  cases state : breaker.state with
  | closed => exact counts
  | halfOpen => exact counts
  | opened =>
    by_cases elapsed : breaker.Elapsed settings now
    · simpa [elapsed, Counts, state] using counts
    · simpa [elapsed] using counts

theorem Counts.recordSuccess (positive : 0 < settings.failureThreshold) :
    breaker.recordSuccess.Counts settings := by
  simp [Breaker.recordSuccess, Counts, positive]

theorem Counts.recordFailure (counts : breaker.Counts settings) (now : Nat)
    (error : CommandError) : (breaker.recordFailure settings now error).Counts settings := by
  unfold Breaker.recordFailure
  by_cases other : isInfrastructureError settings.backend error = false
  · rwa [if_pos other]
  · rw [if_neg other]
    simp only [Counts] at counts ⊢
    by_cases enough : settings.failureThreshold ≤ breaker.failures + 1
    · by_cases opened : breaker.state = .opened <;> simp [enough, opened]
    · have below : breaker.failures < settings.failureThreshold := by omega
      simp [enough, counts.mpr below]
      omega

end Breaker

namespace Client

variable {κ : Type} [DecidableEq κ] {settings : BreakerSettings} {client : Client κ}

structure Known (settings : BreakerSettings) (client : Client κ) : Prop where
  counts : client.breaker.Counts settings
  opened : client.breaker.state = .opened → client.paused = some client.breaker.lastFailureTime

def Rests (settings : BreakerSettings) (client : Client κ) : Prop :=
  -- Where no success has come early, the pause is over in any other state.
  client.breaker.state ≠ .opened → client.Over settings

omit [DecidableEq κ] in
theorem Known.over_iff (known : client.Known settings) (opened : client.breaker.state = .opened) :
    client.Over settings ↔ client.breaker.Elapsed settings client.now := by
  simp only [Over, known.opened opened, Option.mem_some_iff, forall_eq', Breaker.Elapsed]
  omega

omit [DecidableEq κ] in
theorem Known.start (known : client.Known settings) (command : κ) :
    (client.start settings command).Known settings := by
  refine ⟨known.counts.canExecute client.now, fun opened => ?_⟩
  simp only [Client.start, Breaker.canExecute] at opened ⊢
  cases state : client.breaker.state with
  | closed => simp [state] at opened
  | halfOpen => simp [state] at opened
  | opened =>
    by_cases elapsed : client.breaker.Elapsed settings client.now
    · simp [state, elapsed] at opened
    · simpa [elapsed] using known.opened state

theorem Known.finish (known : client.Known settings) (positive : 0 < settings.failureThreshold)
    (command : κ) (completion : Completion) :
    (client.finish settings command completion).Known settings := by
  cases completion with
  | returned => exact ⟨known.counts, known.opened⟩
  | resolved =>
    exact ⟨.recordSuccess positive, by simp [Client.finish, record, Breaker.recordSuccess]⟩
  | rejected error =>
    refine ⟨known.counts.recordFailure client.now error, fun opened => ?_⟩
    have recorded :
        (client.breaker.recordFailure settings client.now error).state = .opened := opened
    by_cases infrastructure : isInfrastructureError settings.backend error = true
    · have latest : (client.breaker.recordFailure settings client.now error).lastFailureTime =
          client.now := by
        simp [Breaker.recordFailure, infrastructure]
      simp [Client.finish, pause, record, infrastructure, recorded, latest]
    · have same : client.breaker.recordFailure settings client.now error = client.breaker := by
        simp [Breaker.recordFailure, infrastructure]
      rw [same] at recorded
      simpa [Client.finish, pause, record, infrastructure, same] using known.opened recorded

theorem Known.step (positive : 0 < settings.failureThreshold) (client : Client κ)
    (event : Event κ) (known : client.Known settings) :
    (client.step settings event).Known settings := by
  cases event with
  | tick ms => exact ⟨known.counts, known.opened⟩
  | issue command =>
    by_cases starts : client.Starts settings command
    · rw [Client.step, if_pos starts]
      exact known.start command
    · rwa [Client.step, if_neg starts]
  | complete command completion =>
    by_cases running : command ∈ client.inFlight
    · rw [Client.step, if_pos running]
      exact known.finish positive command completion
    · rwa [Client.step, if_neg running]

omit [DecidableEq κ] in
theorem Rests.pauses (rests : client.Rests settings) (known : client.Known settings)
    (event : Event κ) : client.Pauses settings event := by
  cases event with
  | tick ms => trivial
  | complete command completion => trivial
  | issue command =>
    intro starts
    by_cases opened : client.breaker.state = .opened
    · have answered : (client.breaker.canExecute settings client.now).1 = true := starts.2
      rw [known.over_iff opened]
      by_contra early
      simp [Breaker.canExecute, opened, early] at answered
    · exact rests opened

theorem Rests.finish (rests : client.Rests settings) (known : client.Known settings)
    (command : κ) {completion : Completion}
    (timely : completion = .resolved → client.breaker.state = .opened →
      client.breaker.Elapsed settings client.now) :
    (client.finish settings command completion).Rests settings := by
  intro stays
  cases completion with
  | returned => exact rests stays
  | resolved =>
    have elapsed : client.Over settings := by
      by_cases opened : client.breaker.state = .opened
      · exact (known.over_iff opened).mpr (timely rfl opened)
      · exact rests opened
    exact elapsed
  | rejected error =>
    have recorded :
        (client.breaker.recordFailure settings client.now error).state ≠ .opened := stays
    have before : client.breaker.state ≠ .opened := by
      intro opened
      apply recorded
      unfold Breaker.recordFailure
      split_ifs <;> simp [opened]
    simpa [Over, Client.finish, pause, recorded] using rests before

theorem Rests.step (client : Client κ) (event : Event κ) (known : client.Known settings)
    (rests : client.Rests settings) (timely : client.Timely settings event) :
    (client.step settings event).Rests settings := by
  cases event with
  | tick ms =>
    intro stays failure paused
    have before : failure + settings.resetTimeoutMs ≤ client.now := rests stays failure paused
    simp only [Client.step]
    omega
  | issue command =>
    by_cases starts : client.Starts settings command
    · rw [Client.step, if_pos starts]
      have elapsed : client.Over settings := rests.pauses known (.issue command) starts
      exact fun _ => elapsed
    · rwa [Client.step, if_neg starts]
  | complete command completion =>
    by_cases running : command ∈ client.inFlight
    · rw [Client.step, if_pos running]
      refine rests.finish known command fun resolved opened => ?_
      by_contra early
      exact timely ⟨running, resolved, opened, early⟩
    · rwa [Client.step, if_neg running]

theorem Known.hurried (known : client.Known settings) {finishing next : κ}
    (early : client.EarlySuccess settings (.complete finishing .resolved))
    (fresh : next ∉ client.inFlight) :
    ¬(client.step settings (.complete finishing .resolved)).Pauses settings (.issue next) := by
  -- After an early success the next command starts at once.
  obtain ⟨running, -, opened, notElapsed⟩ := early
  rw [Client.step, if_pos running]
  intro pauses
  have starts : (client.finish settings finishing .resolved).Starts settings next := by
    refine ⟨fun again => fresh (List.mem_of_mem_erase again), ?_⟩
    simp [Client.finish, record, Breaker.recordSuccess, Breaker.canExecute]
  exact notElapsed ((known.over_iff opened).mp (pauses starts))

end Client

section Pause

variable {κ : Type} [DecidableEq κ]

theorem reached_known {settings : BreakerSettings} (positive : 0 < settings.failureThreshold)
    (start : Nat) (events : List (Event κ)) : (reached settings start events).Known settings :=
  run_of_invariant (Client.Known.step positive)
    ⟨by simpa [Breaker.Counts] using positive, by simp⟩ events

theorem breaker_pauses (settings : BreakerSettings) (positive : 0 < settings.failureThreshold)
    (start : Nat) (events : List (Event κ)) :
    ((reached settings start events).breaker.state = .closed →
        (reached settings start events).breaker.failures < settings.failureThreshold) ∧
      (Throughout (Client.step settings) (Client.Timely settings) { now := start } events →
        Throughout (Client.step settings) (Client.Pauses settings) { now := start } events) ∧
      ∀ finishing next,
        (reached settings start events).EarlySuccess settings (.complete finishing .resolved) →
        next ∉ (reached settings start events).inFlight →
        ¬Throughout (Client.step settings) (Client.Pauses settings) { now := start }
          (events ++ [.complete finishing .resolved, .issue next]) := by
  have known := reached_known positive start events
  refine ⟨known.counts.mp, fun timely => ?_, fun finishing next early fresh pauses => ?_⟩
  · have first : Client.Known settings { now := start } ∧
        Client.Rests settings ({ now := start } : Client κ) :=
      ⟨reached_known positive start ([] : List (Event κ)), by simp [Client.Rests, Client.Over]⟩
    have kept : ∀ (client : Client κ) event, client.Known settings ∧ client.Rests settings →
        client.Timely settings event → client.Pauses settings event ∧
          (client.step settings event).Known settings ∧
          (client.step settings event).Rests settings := by
      rintro client event ⟨known, rests⟩ timely
      exact ⟨rests.pauses known event, known.step positive client event,
        Client.Rests.step client event known rests timely⟩
    exact timely.of_invariant kept first
  · have last := ((throughout_append _ events _).mp pauses).2
    exact known.hurried early fresh last.2.1

def unreachable : List (Event Nat) :=
  -- Five queries do not reach the database.
  (0 :: [1, 2, 3, 4, 5]).map .issue ++
    [1, 2, 3, 4, 5].map (.complete · (.rejected ⟨some "P1001", some "Can't reach database server"⟩))

/-- The query that has come through late closes the breaker, and another one starts. -/
theorem late_success_reopens :
    ¬Throughout (Client.step ⟨.database, 5, 30000⟩) (Client.Pauses ⟨.database, 5, 30000⟩)
        ({ now := 1000 } : Client Nat) (unreachable ++ [.complete 0 .resolved, .issue 6]) := by
  decide +kernel

theorem breaker_pauses_unreachable :
    Throughout (Client.step ⟨.database, 5, 30000⟩) (Client.Pauses ⟨.database, 5, 30000⟩)
        ({ now := 1000 } : Client Nat)
        (unreachable ++ [.tick 30000, .complete 0 .resolved, .issue 6]) :=
  (breaker_pauses ⟨.database, 5, 30000⟩ (by decide) 1000
    (unreachable ++ [.tick 30000, .complete 0 .resolved, .issue 6])).2.1 (by decide +kernel)

end Pause

end HelpForge.Config
