import HelpForge.Lib.Runs
import Mathlib.Tactic.Common

set_option autoImplicit false

/-!
# The circuit of the chatbot bridge

Calls that start in one state of the circuit complete in another.
-/

namespace HelpForge.Bridge

open Lib Machine

inductive CircuitState where
  | closed
  | opened
  | halfOpen
  deriving DecidableEq, Repr

structure Settings where
  failureThreshold : Nat := 5
  successThreshold : Nat := 2
  recoveryTimeout : Nat := 30000
  deriving DecidableEq, Repr

def chatbotCircuit : Settings where
  failureThreshold := 5
  successThreshold := 2
  recoveryTimeout := 30000

structure CircuitBreaker where
  state : CircuitState := .closed
  failures : Nat := 0
  successes : Nat := 0
  lastFailureTime : Nat := 0
  deriving DecidableEq, Repr

structure CircuitOpenError where
  remainingMs : Nat
  deriving DecidableEq, Repr

/-- How the protected function settles. A `CircuitOpenError` of its own is no failure of the
circuit. -/
inductive Outcome where
  | success
  | failure
  | circuitOpen
  deriving DecidableEq, Repr

namespace CircuitBreaker

section Fire

variable (settings : Settings) (breaker : CircuitBreaker) (now : Nat)

def remainingOpenMs : Nat :=
  if breaker.state = .opened then
    (max 0 ((settings.recoveryTimeout : Int) - ((now : Int) - breaker.lastFailureTime))).toNat
  else 0

/-- `fire` up to the call of the protected function. -/
def enter : Except CircuitOpenError CircuitBreaker :=
  if breaker.state = .opened then
    if 0 < breaker.remainingOpenMs settings now then
      .error ⟨breaker.remainingOpenMs settings now⟩
    else .ok { breaker with state := .halfOpen, successes := 0 }
  else .ok breaker

def onSuccess : CircuitBreaker :=
  if breaker.state = .halfOpen then
    if settings.successThreshold ≤ breaker.successes + 1 then
      { breaker with state := .closed, failures := 0, successes := 0 }
    else { breaker with failures := 0, successes := breaker.successes + 1 }
  else { breaker with failures := 0 }

def onFailure : CircuitBreaker :=
  if breaker.state = .halfOpen then
    { breaker with state := .opened, successes := 0, lastFailureTime := now }
  else if settings.failureThreshold ≤ breaker.failures + 1 then
    { breaker with
      state := .opened, failures := breaker.failures + 1, lastFailureTime := now }
  else { breaker with failures := breaker.failures + 1, lastFailureTime := now }

/-- `fire` once the protected function has settled. -/
def conclude : Outcome → CircuitBreaker
  | .success => breaker.onSuccess settings
  | .failure => breaker.onFailure settings now
  | .circuitOpen => breaker

end Fire

end CircuitBreaker

/-- The circuit with its calls, by whatever they are known. -/
structure Circuit (κ : Type) where
  breaker : CircuitBreaker := {}
  now : Nat := 0
  -- The calls whose protected function is running.
  inFlight : List κ := []
  -- Those of them that have started since the circuit last left the open state.
  probes : List κ := []
  -- When failures were recorded.
  failed : List Nat := []
  deriving DecidableEq

inductive Event (κ : Type) where
  | tick (ms : Nat)
  | fire (call : κ)
  | settle (call : κ) (outcome : Outcome)
  deriving DecidableEq

section Calls

variable {κ : Type} [DecidableEq κ] (settings : Settings)

namespace Circuit

variable (circuit : Circuit κ)

def Starts (call : κ) : Prop :=
  -- The call is one that may come, and the circuit admits it.
  call ∉ circuit.inFlight ∧ ∃ breaker, circuit.breaker.enter settings circuit.now = .ok breaker

def start (call : κ) (breaker : CircuitBreaker) : Circuit κ :=
  { circuit with
    breaker
    inFlight := call :: circuit.inFlight
    probes := if circuit.breaker.state = .opened then [call] else call :: circuit.probes }

def settle (call : κ) (outcome : Outcome) : Circuit κ :=
  { circuit with
    breaker := circuit.breaker.conclude settings circuit.now outcome
    inFlight := circuit.inFlight.erase call
    probes := circuit.probes.erase call
    failed := if outcome = .failure then circuit.now :: circuit.failed else circuit.failed }

def step : Event κ → Circuit κ
  -- A call that is running is not made again, and only running calls settle.
  | .tick ms => { circuit with now := circuit.now + ms }
  | .fire call =>
    if call ∈ circuit.inFlight then circuit
    else
      match circuit.breaker.enter settings circuit.now with
      | .error _ => circuit
      | .ok breaker => circuit.start call breaker
  | .settle call outcome =>
    if call ∈ circuit.inFlight then circuit.settle settings call outcome else circuit

end Circuit

def reached (start : Nat) (events : List (Event κ)) : Circuit κ :=
  -- The states that a circuit goes through, from any time on.
  run (Circuit.step settings) { now := start } events

end Calls

/-- The arrows of the state machine. -/
inductive Arrow : CircuitState → CircuitState → Prop where
  | stay (state : CircuitState) : Arrow state state
  | trip : Arrow .closed .opened
  | probe : Arrow .opened .halfOpen
  | recover : Arrow .halfOpen .closed
  | relapse : Arrow .halfOpen .opened

namespace CircuitBreaker

/-- The counters are below their thresholds where these end a state. -/
structure Counts (settings : Settings) (breaker : CircuitBreaker) : Prop where
  closed : breaker.state = .closed → breaker.failures < settings.failureThreshold
  halfOpen : breaker.state = .halfOpen → breaker.successes < settings.successThreshold

variable {settings : Settings} {breaker after : CircuitBreaker} {now : Nat}

theorem enter_cases (admitted : breaker.enter settings now = .ok after) :
    breaker.state ≠ .opened ∧ after = breaker ∨
      breaker.state = .opened ∧ breaker.lastFailureTime + settings.recoveryTimeout ≤ now ∧
        after = { breaker with state := .halfOpen, successes := 0 } := by
  unfold enter at admitted
  by_cases opened : breaker.state = .opened
  · rw [if_pos opened] at admitted
    split_ifs at admitted with early
    have waited : ¬0 < breaker.remainingOpenMs settings now := early
    rw [remainingOpenMs, if_pos opened] at waited
    cases admitted
    exact .inr ⟨opened, by omega, rfl⟩
  · rw [if_neg opened] at admitted
    cases admitted
    exact .inl ⟨opened, rfl⟩

theorem enter_arrow (admitted : breaker.enter settings now = .ok after) :
    Arrow breaker.state after.state := by
  rcases enter_cases admitted with ⟨-, rfl⟩ | ⟨opened, -, rfl⟩
  · exact .stay _
  · rw [opened]
    exact .probe

theorem conclude_arrow (outcome : Outcome) :
    Arrow breaker.state (breaker.conclude settings now outcome).state := by
  cases outcome with
  | circuitOpen => exact .stay _
  | success =>
    simp only [conclude, onSuccess]
    split_ifs with half enough
    · rw [half]
      exact .recover
    · exact .stay _
    · exact .stay _
  | failure =>
    simp only [conclude, onFailure]
    cases state : breaker.state with
    | halfOpen => exact .relapse
    | closed =>
      simp only [reduceCtorEq, if_false]
      by_cases enough : settings.failureThreshold ≤ breaker.failures + 1
      · rw [if_pos enough]
        exact .trip
      · rw [if_neg enough]
        exact .stay _
    | opened =>
      simp only [reduceCtorEq, if_false]
      by_cases enough : settings.failureThreshold ≤ breaker.failures + 1
      · rw [if_pos enough]
        exact .stay _
      · rw [if_neg enough]
        exact .stay _

theorem Counts.enter (counts : breaker.Counts settings)
    (successes : 0 < settings.successThreshold)
    (admitted : breaker.enter settings now = .ok after) : after.Counts settings := by
  rcases enter_cases admitted with ⟨-, rfl⟩ | ⟨-, -, rfl⟩
  · exact counts
  · exact ⟨by simp, fun _ => successes⟩

theorem Counts.conclude (counts : breaker.Counts settings)
    (failures : 0 < settings.failureThreshold) (outcome : Outcome) :
    (breaker.conclude settings now outcome).Counts settings := by
  cases outcome with
  | circuitOpen => exact counts
  | success =>
    simp only [CircuitBreaker.conclude, onSuccess]
    split_ifs with half enough
    · exact ⟨fun _ => failures, by simp⟩
    · exact ⟨fun _ => failures, fun _ => by simpa using enough⟩
    · exact ⟨fun _ => failures, counts.halfOpen⟩
  | failure =>
    simp only [CircuitBreaker.conclude, onFailure]
    split_ifs with half enough
    · exact ⟨by simp, by simp⟩
    · exact ⟨by simp, by simp⟩
    · exact ⟨fun _ => by simpa using enough, counts.halfOpen⟩

end CircuitBreaker

namespace Circuit

variable {κ : Type} [DecidableEq κ] {settings : Settings} {circuit : Circuit κ}

/-- What is true at all times: the clock has not gone back behind a failure, and the last one is
known to the breaker. -/
structure Safe (settings : Settings) (circuit : Circuit κ) : Prop where
  counts : circuit.breaker.Counts settings
  last : ∀ time ∈ circuit.failed, time ≤ circuit.breaker.lastFailureTime
  past : ∀ time ∈ circuit.failed, time ≤ circuit.now

theorem Safe.settle (safe : circuit.Safe settings) (failures : 0 < settings.failureThreshold)
    (call : κ) (outcome : Outcome) : (circuit.settle settings call outcome).Safe settings where
  counts := safe.counts.conclude failures outcome
  last := by
    intro time failed
    cases outcome with
    | failure =>
      have latest : (circuit.breaker.onFailure settings circuit.now).lastFailureTime =
          circuit.now := by
        unfold CircuitBreaker.onFailure
        split_ifs <;> rfl
      have known : time = circuit.now ∨ time ∈ circuit.failed := by simpa [Circuit.settle] using failed
      simp only [Circuit.settle, CircuitBreaker.conclude, latest]
      rcases known with rfl | before
      · exact Nat.le_refl _
      · exact safe.past time before
    | success =>
      have same : (circuit.breaker.onSuccess settings).lastFailureTime =
          circuit.breaker.lastFailureTime := by
        unfold CircuitBreaker.onSuccess
        split_ifs <;> rfl
      simp only [Circuit.settle, CircuitBreaker.conclude, same]
      exact safe.last time (by simpa [Circuit.settle] using failed)
    | circuitOpen => exact safe.last time (by simpa [Circuit.settle] using failed)
  past := by
    intro time failed
    by_cases failing : outcome = .failure
    · have known : time = circuit.now ∨ time ∈ circuit.failed := by
        simpa [Circuit.settle, failing] using failed
      rcases known with rfl | before
      · exact Nat.le_refl _
      · exact safe.past time before
    · exact safe.past time (by simpa [Circuit.settle, failing] using failed)

omit [DecidableEq κ] in
theorem Safe.start (safe : circuit.Safe settings) (successes : 0 < settings.successThreshold)
    {call : κ} {breaker : CircuitBreaker}
    (entered : circuit.breaker.enter settings circuit.now = .ok breaker) :
    (circuit.start call breaker).Safe settings where
  counts := safe.counts.enter successes entered
  last := by
    have same : breaker.lastFailureTime = circuit.breaker.lastFailureTime := by
      rcases CircuitBreaker.enter_cases entered with ⟨-, rfl⟩ | ⟨-, -, rfl⟩ <;> rfl
    simpa only [Circuit.start, same] using safe.last
  past := safe.past

theorem step_fire_cases (circuit : Circuit κ) (call : κ) :
    circuit.step settings (.fire call) = circuit ∧ ¬circuit.Starts settings call ∨
      ∃ breaker, circuit.breaker.enter settings circuit.now = .ok breaker ∧
        circuit.step settings (.fire call) = circuit.start call breaker ∧
        circuit.Starts settings call := by
  by_cases running : call ∈ circuit.inFlight
  · exact .inl ⟨by simp [step, running], fun starts => starts.1 running⟩
  · cases entered : circuit.breaker.enter settings circuit.now with
    | error failure => exact .inl ⟨by simp [step, running, entered], by simp [Starts, entered]⟩
    | ok breaker =>
      exact .inr ⟨breaker, rfl, by simp [step, running, entered], running, breaker, entered⟩

theorem Safe.step (safe : circuit.Safe settings) (failures : 0 < settings.failureThreshold)
    (successes : 0 < settings.successThreshold) (event : Event κ) :
    (circuit.step settings event).Safe settings := by
  cases event with
  | tick ms =>
    have past : ∀ time ∈ circuit.failed, time ≤ circuit.now + ms := by
      intro time failed
      have := safe.past time failed
      omega
    exact ⟨safe.counts, safe.last, past⟩
  | fire call =>
    rcases step_fire_cases circuit call with ⟨same, -⟩ | ⟨breaker, entered, started, -⟩
    · rwa [same]
    · rw [started]
      exact safe.start successes entered
  | settle call outcome =>
    by_cases running : call ∈ circuit.inFlight
    · rw [Circuit.step, if_pos running]
      exact safe.settle failures call outcome
    · rwa [Circuit.step, if_neg running]

theorem step_arrow (circuit : Circuit κ) (event : Event κ) :
    Arrow circuit.breaker.state (circuit.step settings event).breaker.state := by
  cases event with
  | tick ms => exact .stay _
  | fire call =>
    rcases step_fire_cases circuit call with ⟨same, -⟩ | ⟨breaker, entered, started, -⟩
    · rw [same]
      exact .stay _
    · rw [started]
      exact CircuitBreaker.enter_arrow entered
  | settle call outcome =>
    by_cases running : call ∈ circuit.inFlight
    · rw [Circuit.step, if_pos running]
      exact CircuitBreaker.conclude_arrow outcome
    · rw [Circuit.step, if_neg running]
      exact .stay _

omit [DecidableEq κ] in
theorem Safe.waited (safe : circuit.Safe settings) {call : κ} (starts : circuit.Starts settings call)
    (opened : circuit.breaker.state = .opened) :
    ∀ time ∈ circuit.failed, time + settings.recoveryTimeout ≤ circuit.now := by
  -- What a call that is let through an open circuit has waited for.
  intro time failed
  obtain ⟨-, breaker, entered⟩ := starts
  have last := safe.last time failed
  rcases CircuitBreaker.enter_cases entered with ⟨other, -⟩ | ⟨-, waited, -⟩
  · exact absurd opened other
  · omega

end Circuit

section Safety

variable {κ : Type} [DecidableEq κ]

theorem reached_safe {settings : Settings} (failures : 0 < settings.failureThreshold)
    (successes : 0 < settings.successThreshold) (start : Nat) (events : List (Event κ)) :
    (reached settings start events).Safe settings :=
  run_of_invariant (fun _ event safe => safe.step failures successes event)
    ⟨⟨fun _ => failures, by simp⟩, by simp, by simp⟩ events

theorem circuit_safe (settings : Settings) (failures : 0 < settings.failureThreshold)
    (successes : 0 < settings.successThreshold) (start : Nat) (events : List (Event κ)) :
    (reached settings start events).breaker.Counts settings ∧
      (∀ event : Event κ,
        Arrow (reached settings start events).breaker.state
          (reached settings start (events ++ [event])).breaker.state) ∧
      ∀ call, (reached settings start events).Starts settings call →
        (reached settings start events).breaker.state = .opened →
        ∀ time ∈ (reached settings start events).failed,
          time + settings.recoveryTimeout ≤ (reached settings start events).now := by
  have safe := reached_safe failures successes start events
  refine ⟨safe.counts, ?_, ?_⟩
  · intro event
    simp only [reached, run_append, run_cons, run_nil]
    exact Circuit.step_arrow _ event
  · intro call starts opened
    exact safe.waited starts opened

def tripped : List (Event Nat) :=
  -- The chatbot's circuit after five calls that fail and half a minute of waiting.
  [1, 2, 3, 4, 5].flatMap (fun call => [.fire call, .settle call .failure]) ++ [.tick 30000]

theorem circuit_safe_tripped :
    (reached chatbotCircuit 1000 tripped).Starts chatbotCircuit 6 ∧
      (reached chatbotCircuit 1000 tripped).failed ≠ [] ∧
      ∀ time ∈ (reached chatbotCircuit 1000 tripped).failed,
        time + chatbotCircuit.recoveryTimeout ≤ (reached chatbotCircuit 1000 tripped).now := by
  have starts : (reached chatbotCircuit 1000 tripped).Starts chatbotCircuit 6 :=
    ⟨by decide, _, rfl⟩
  have safe := circuit_safe chatbotCircuit (by decide) (by decide) 1000 tripped
  exact ⟨starts, by decide, safe.2.2 6 starts (by decide)⟩

end Safety

section Probes

variable {κ : Type} [DecidableEq κ] (settings : Settings) {event : Event κ}

namespace Circuit

def Refuses (circuit : Circuit κ) : Prop :=
  -- The circuit fails the call fast.
  ∃ failure : CircuitOpenError, circuit.breaker.enter settings circuit.now = .error failure

instance (circuit : Circuit κ) : Decidable (circuit.Refuses settings) :=
  match entered : circuit.breaker.enter settings circuit.now with
  | .error failure => .isTrue ⟨failure, entered⟩
  | .ok breaker => .isFalse fun ⟨failure, refused⟩ => by cases entered.symm.trans refused

def Joins (circuit : Circuit κ) : Event κ → Prop
  -- The call comes while the circuit is half open and a probe of it is running.
  | .fire call =>
    call ∉ circuit.inFlight ∧ circuit.breaker.state = .halfOpen ∧ circuit.probes ≠ []
  | _ => False

instance (circuit : Circuit κ) : (event : Event κ) → Decidable (circuit.Joins event)
  | .fire _ => inferInstanceAs (Decidable (_ ∧ _))
  | .tick _ => .isFalse id
  | .settle _ _ => .isFalse id

def SingleProbe (circuit : Circuit κ) (event : Event κ) : Prop :=
  -- What the event leaves is one probe at most, and a call beside that probe is refused.
  ((circuit.step settings event).breaker.state = .halfOpen →
      (circuit.step settings event).probes.length ≤ 1) ∧
    (circuit.Joins event → circuit.Refuses settings)

instance (circuit : Circuit κ) (event : Event κ) :
    Decidable (circuit.SingleProbe settings event) :=
  inferInstanceAs (Decidable (_ ∧ _))

def ProbesApart (circuit : Circuit κ) (event : Event κ) : Prop := ¬circuit.Joins event

variable {settings} {circuit : Circuit κ}

omit [DecidableEq κ] in
theorem admits_halfOpen (half : circuit.breaker.state = .halfOpen) :
    ¬circuit.Refuses settings := by
  rintro ⟨failure, refused⟩
  simp [CircuitBreaker.enter, half] at refused

theorem SingleProbe.apart (single : circuit.SingleProbe settings event) :
    circuit.ProbesApart event := by
  intro joins
  cases event with
  | fire call => exact admits_halfOpen joins.2.1 (single.2 joins)
  | tick ms => exact joins
  | settle call outcome => exact joins

omit [DecidableEq κ] in
theorem probes_start {call : κ} {breaker : CircuitBreaker}
    (entered : circuit.breaker.enter settings circuit.now = .ok breaker)
    (alone : circuit.breaker.state = .halfOpen → circuit.probes = [])
    (half : breaker.state = .halfOpen) : (circuit.start call breaker).probes.length ≤ 1 := by
  rcases CircuitBreaker.enter_cases entered with ⟨notOpen, rfl⟩ | ⟨opened, -, -⟩
  · simp [Circuit.start, notOpen, alone half]
  · simp [Circuit.start, opened]

theorem settle_halfOpen {call : κ} {outcome : Outcome}
    (half : (circuit.settle settings call outcome).breaker.state = .halfOpen) :
    circuit.breaker.state = .halfOpen := by
  have arrow : Arrow circuit.breaker.state
      (circuit.settle settings call outcome).breaker.state :=
    CircuitBreaker.conclude_arrow outcome
  rw [half] at arrow
  cases state : circuit.breaker.state with
  | halfOpen => rfl
  | closed =>
    rw [state] at arrow
    cases arrow
  | opened =>
    cases outcome <;>
      simp [Circuit.settle, CircuitBreaker.conclude, CircuitBreaker.onSuccess,
        CircuitBreaker.onFailure, state] at half

theorem ProbesApart.single (few : circuit.breaker.state = .halfOpen → circuit.probes.length ≤ 1)
    (apart : circuit.ProbesApart event) : circuit.SingleProbe settings event := by
  refine ⟨fun half => ?_, fun joins => absurd joins apart⟩
  cases event with
  | tick ms => exact few half
  | fire call =>
    rcases step_fire_cases circuit call with ⟨same, -⟩ | ⟨breaker, entered, started, fresh, -⟩
    · rw [same] at half ⊢
      exact few half
    · have alone : circuit.breaker.state = .halfOpen → circuit.probes = [] := by
        intro halfOpen
        by_contra running
        exact apart ⟨fresh, halfOpen, running⟩
      rw [started] at half ⊢
      exact probes_start entered alone half
  | settle call outcome =>
    by_cases running : call ∈ circuit.inFlight
    · rw [step, if_pos running] at half ⊢
      have before := few (settle_halfOpen half)
      have fewer : (circuit.probes.erase call).length ≤ circuit.probes.length :=
        List.length_erase_le
      simp only [Circuit.settle]
      omega
    · rw [step, if_neg running] at half ⊢
      exact few half

end Circuit

theorem single_probe_iff (settings : Settings) (start : Nat) (events : List (Event κ)) :
    Throughout (Circuit.step settings) (Circuit.SingleProbe settings)
        ({ now := start } : Circuit κ) events ↔
      Throughout (Circuit.step settings) Circuit.ProbesApart
        ({ now := start } : Circuit κ) events := by
  let few (circuit : Circuit κ) : Prop :=
    circuit.breaker.state = .halfOpen → circuit.probes.length ≤ 1
  have none : few { now := start } := by simp [few]
  constructor
  · exact Throughout.weaken fun circuit event single => single.apart
  · intro apart
    have kept : ∀ circuit event, few circuit → circuit.ProbesApart event →
        circuit.SingleProbe settings event ∧ few (circuit.step settings event) := by
      intro circuit event before apart
      have single : circuit.SingleProbe settings event := apart.single before
      exact ⟨single, single.1⟩
    exact apart.of_invariant kept none

/-- Two calls come when half a minute is over, and both are let through. -/
theorem two_probes :
    ¬Throughout (Circuit.step chatbotCircuit) (Circuit.SingleProbe chatbotCircuit)
        ({ now := 1000 } : Circuit Nat) (tripped ++ [.fire 6, .fire 7]) := by
  decide

end Probes

end HelpForge.Bridge
