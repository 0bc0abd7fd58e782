import HelpForge.Lib.Statements

set_option autoImplicit false

/-!
# Calls that rely on each other

A call relies on what the others leave alone, and owes them the same.
-/

namespace Lib

structure Deed (κ σ : Type) where
  call : κ
  found : σ
  left : σ

structure Recorded (κ σ : Type) where
  state : σ
  /-- The latest first. -/
  deeds : List (Deed κ σ) := []

variable {κ σ ε α β : Type}

namespace Recorded

def add (recorded : Recorded κ σ) (call : κ) (left : σ) : Recorded κ σ :=
  { state := left, deeds := { call, found := recorded.state, left } :: recorded.deeds }

variable [DecidableEq κ]

def own (recorded : Recorded κ σ) (call : κ) : List (Deed κ σ) :=
  recorded.deeds.filter fun deed => deed.call = call

@[simp] theorem own_add_self (recorded : Recorded κ σ) (call : κ) (left : σ) :
    (recorded.add call left).own call =
      { call, found := recorded.state, left } :: recorded.own call := by
  simp [own, add]

theorem own_add_of_ne (recorded : Recorded κ σ) (call other : κ) (left : σ) (ne : other ≠ call) :
    (recorded.add call left).own other = recorded.own other := by
  simp [own, add, ne.symm]

end Recorded

def Program.recorded (program : Program σ ε α) (call : κ) : Program (Recorded κ σ) ε α :=
  program.zoom Recorded.state fun left recorded => recorded.add call left

theorem Program.recorded_advance (program : Program σ ε α) (call : κ) (recorded : Recorded κ σ) :
    (program.recorded call).advance recorded =
      (program.advance recorded.state).map fun step =>
        (step.1.recorded call, recorded.add call step.2) := by
  cases program with
  | done result => rfl
  | atomic change next => rfl

/-- Every deed keeps to the rule, given the deeds before it. -/
def EachDeed (rule : List (Deed κ σ) → Deed κ σ → Prop) : List (Deed κ σ) → Prop
  | [] => True
  | deed :: earlier => rule earlier deed ∧ EachDeed rule earlier

instance decidableEachDeed (rule : List (Deed κ σ) → Deed κ σ → Prop)
    [∀ earlier deed, Decidable (rule earlier deed)] :
    (deeds : List (Deed κ σ)) → Decidable (EachDeed rule deeds)
  | [] => .isTrue trivial
  | deed :: earlier =>
    have := decidableEachDeed rule earlier
    inferInstanceAs (Decidable (rule earlier deed ∧ EachDeed rule earlier))

theorem EachDeed.of_suffix {rule : List (Deed κ σ) → Deed κ σ → Prop} {earlier later : List (Deed κ σ)}
    (each : EachDeed rule later) (suffix : earlier <:+ later) : EachDeed rule earlier := by
  induction later with
  | nil =>
    rw [List.suffix_nil.mp suffix]
    trivial
  | cons deed rest ih =>
    rcases List.suffix_cons_iff.mp suffix with same | shorter
    · rw [same]
      exact each
    · exact ih each.2 shorter

structure Regime (κ σ : Type) where
  inv : Recorded κ σ → Prop
  rely : κ → Recorded κ σ → Recorded κ σ → Prop
  refl : ∀ call recorded, rely call recorded recorded
  trans : ∀ call first second third,
    rely call first second → rely call second third → rely call first third

variable [DecidableEq κ]

structure Regime.Since (regime : Regime κ σ) (call : κ) (last now : Recorded κ σ) : Prop where
  own : now.own call = last.own call
  relied : regime.rely call last now

theorem Regime.Since.own_add {regime : Regime κ σ} {call : κ} {last now : Recorded κ σ}
    (since : regime.Since call last now) (left : σ) :
    (now.add call left).own call = { call, found := now.state, left } :: last.own call := by
  rw [Recorded.own_add_self, since.own]

structure Regime.Owed (regime : Regime κ σ) (call : κ) (now left : Recorded κ σ) : Prop where
  inv : regime.inv left
  others : ∀ other, other ≠ call → regime.rely other now left

variable {body : Program σ ε α} {kept : Recorded κ σ → Prop} {cleanup : Program σ ε Unit}

namespace Program

/-- After its step to `last`, the program does what it owes as long as its steps are permitted. -/
def Relies (regime : Regime κ σ) (permitted : Recorded κ σ → Prop) (call : κ)
    (post : Recorded κ σ → Except ε α → Prop) : Program σ ε α → Recorded κ σ → Prop
  | done result, last => post last result
  | atomic change next, last =>
    ∀ now, regime.Since call last now → regime.inv now → permitted now →
      regime.Owed call now (now.add call (change now.state)) ∧
        (next now.state).Relies regime permitted call post (now.add call (change now.state))

section Relies

variable {regime : Regime κ σ} {permitted : Recorded κ σ → Prop} {call : κ}
  {mid post : Recorded κ σ → Except ε α → Prop} {goal : Recorded κ σ → Except ε β → Prop}
  {last : Recorded κ σ}

theorem Relies.reads {view : σ → α}
    (holds : ∀ now, regime.Since call last now → regime.inv now → permitted now →
      regime.Owed call now (now.add call now.state) ∧
        post (now.add call now.state) (.ok (view now.state))) :
    (Program.reads view : Program σ ε α).Relies regime permitted call post last :=
  holds

theorem Relies.attempt {body : σ → Except ε (α × σ)}
    (succeeded : ∀ now value left, regime.Since call last now → regime.inv now → permitted now →
      body now.state = .ok (value, left) →
      regime.Owed call now (now.add call left) ∧ post (now.add call left) (.ok value))
    (failed : ∀ now failure, regime.Since call last now → regime.inv now → permitted now →
      body now.state = .error failure →
      regime.Owed call now (now.add call now.state) ∧
        post (now.add call now.state) (.error failure)) :
    (Program.attempt body).Relies regime permitted call post last := by
  intro now since holds allowed
  rcases outcome : body now.state with failure | ⟨value, left⟩ <;> simp only [outcome]
  · exact failed now failure since holds allowed outcome
  · exact succeeded now value left since holds allowed outcome

theorem Relies.weaken {program : Program σ ε α}
    (relies : program.Relies regime permitted call mid last)
    (weaker : ∀ reached result, mid reached result → post reached result) :
    program.Relies regime permitted call post last := by
  induction program generalizing last with
  | done result => exact weaker last result relies
  | atomic change next ih =>
    intro now since holds allowed
    obtain ⟨owed, continues⟩ := relies now since holds allowed
    exact ⟨owed, ih now.state continues⟩

theorem Relies.bind {first : Program σ ε α} {rest : α → Program σ ε β}
    (started : first.Relies regime permitted call mid last)
    (continued : ∀ value reached, mid reached (.ok value) →
      (rest value).Relies regime permitted call goal reached)
    (stopped : ∀ failure reached, mid reached (.error failure) → goal reached (.error failure)) :
    (first >>= rest).Relies regime permitted call goal last := by
  change (first.bind rest).Relies regime permitted call goal last
  induction first generalizing last with
  | done result =>
    cases result with
    | error failure => exact stopped failure last started
    | ok value => exact continued value last started
  | atomic change next ih =>
    intro now since holds allowed
    obtain ⟨owed, continues⟩ := started now since holds allowed
    exact ⟨owed, ih now.state continues⟩

theorem Relies.recover {handler : ε → Program σ ε α}
    (started : body.Relies regime permitted call mid last)
    (finished : ∀ value reached, mid reached (.ok value) → post reached (.ok value))
    (handled : ∀ failure reached, mid reached (.error failure) →
      (handler failure).Relies regime permitted call post reached) :
    (body.recover handler).Relies regime permitted call post last := by
  induction body generalizing last with
  | done result =>
    cases result with
    | error failure => exact handled failure last started
    | ok value => exact finished value last started
  | atomic change next ih =>
    intro now since holds allowed
    obtain ⟨owed, continues⟩ := started now since holds allowed
    exact ⟨owed, ih now.state continues⟩

theorem Relies.ensuring
    (started : body.Relies regime permitted call (fun reached _ => kept reached) last)
    (cleaned : ∀ reached, kept reached →
      cleanup.Relies regime permitted call (fun _ _ => True) reached) :
    (body.ensuring cleanup).Relies regime permitted call (fun _ _ => True) last := by
  have recovered :
      (body.recover fun failure => cleanup >>= fun _ => Program.fail failure).Relies regime
        permitted call (fun reached result => ∀ value, result = .ok value → kept reached) last := by
    refine started.recover (fun _ _ holds _ _ => holds) fun failure reached holds => ?_
    refine (cleaned reached holds).bind (fun _ _ _ => ?_) fun _ _ _ => by simp
    intro value impossible
    cases impossible
  refine recovered.bind (fun value reached holds => ?_) fun _ _ _ => trivial
  refine (cleaned reached (holds value rfl)).bind (fun _ _ _ => ?_) fun _ _ _ => trivial
  exact trivial

theorem Relies.ensuring_ok
    (started : body.Relies regime permitted call
      (fun reached result => ∀ value, result = .ok value → kept reached) last)
    (cleaned : ∀ reached, cleanup.Relies regime permitted call
      (fun after _ => kept reached → kept after) reached) :
    (body.ensuring cleanup).Relies regime permitted call
      (fun reached result => ∀ value, result = .ok value → kept reached) last := by
  have recovered :
      (body.recover fun failure => cleanup >>= fun _ => Program.fail failure).Relies regime
        permitted call (fun reached result => ∀ value, result = .ok value → kept reached) last := by
    refine started.recover (fun _ _ holds => holds) fun failure reached _ => ?_
    refine (cleaned reached).bind (fun _ _ _ => ?_) fun _ _ _ => by simp
    intro value impossible
    cases impossible
  refine recovered.bind (fun value reached holds => ?_) fun _ _ _ => by simp
  refine (cleaned reached).bind (fun _ after still => ?_) fun _ _ _ => by simp
  exact fun _ _ => still (holds value rfl)

end Relies

end Program

variable {final : Pool κ (Recorded κ σ) (Program (Recorded κ σ) ε α)}
  {pool : Pool κ (Recorded κ σ) (Program (Recorded κ σ) ε α)} {state : σ}

namespace Pool

def recording (start : κ → Program σ ε α) (moves : σ → σ → Prop) :
    System κ (Recorded κ σ) (Program (Recorded κ σ) ε α) :=
  ofPrograms (fun _ call program => program = (start call).recorded call)
    fun before after => after.deeds = before.deeds ∧ moves before.state after.state

/-- The steps that are permitted by the state and the record before them. -/
def permittedSteps (permitted : κ → Recorded κ σ → Prop)
    (pool : Pool κ (Recorded κ σ) (Program (Recorded κ σ) ε α)) (call : κ)
    (_ : Program (Recorded κ σ) ε α) : Prop :=
  permitted call pool.state

def recordingWith (start : κ → Program σ ε α) (moves : Recorded κ σ → Recorded κ σ → Prop) :
    System κ (Recorded κ σ) (Program (Recorded κ σ) ε α) :=
  ofPrograms (fun _ call program => program = (start call).recorded call) moves

def Finished (pool : Pool κ (Recorded κ σ) (Program (Recorded κ σ) ε α)) : Prop :=
  ∀ call program, pool.calls call = some program → ∃ result, program = .done result

theorem Run.recorded_invariant {inv : Recorded κ σ → Prop} (rel : σ → σ → Prop)
    {start : κ → Program σ ε α} {moves : Recorded κ σ → Recorded κ σ → Prop}
    (each : ∀ call, (start call).Each fun change state => rel state (change state))
    (stepped : ∀ recorded call left, inv recorded → rel recorded.state left →
      inv (recorded.add call left))
    (moved : ∀ before after, inv before → moves before after → inv after)
    {initial : Recorded κ σ} (holds : inv initial)
    {final : Pool κ (Recorded κ σ) (Program (Recorded κ σ) ε α)}
    (run : Run (recordingWith start moves) anyStatement (idle initial) final) : inv final.state := by
  let rule : κ → (Recorded κ σ → Recorded κ σ) → Recorded κ σ → Prop :=
    fun call change recorded =>
      ∃ left, rel recorded.state left ∧ change recorded = recorded.add call left
  have permitted : Run (recordingWith start moves) (Permitted fun _ _ _ => True) (idle initial)
      final :=
    run.permit fun _ _ _ _ _ _ _ => trivial
  have keeps : ∀ (seen : List (Recorded κ σ)) call program,
      program = (start call).recorded call → program.Each (rule call) := by
    rintro _ call program rfl
    exact (each call).zoom fun change recorded related => ⟨_, related, rfl⟩
  refine (permitted.history keeps).1.invariant (fun _ same => same ▸ holds) ?_ final.state
    (List.mem_cons_self ..)
  rintro past state reached before (⟨call, change, -, ⟨left, related, same⟩, rfl⟩ | outside)
  · rw [same]
    exact stepped state call left (before state (List.mem_cons_self ..)) related
  · exact moved state reached (before state (List.mem_cons_self ..)) outside

variable {regime : Regime κ σ} {permitted : κ → Recorded κ σ → Prop}
  {post : κ → Recorded κ σ → Except ε α → Prop} {start : κ → Program σ ε α} {moves : σ → σ → Prop}

def Reliant (regime : Regime κ σ) (permitted : Recorded κ σ → Prop)
    (post : Recorded κ σ → Except ε α → Prop) (call : κ) (state : Recorded κ σ) :
    Option (Program (Recorded κ σ) ε α) → Prop
  | none => state.own call = []
  | some program => ∃ plain : Program σ ε α, program = plain.recorded call ∧
      ∃ last, regime.Since call last state ∧ plain.Relies regime permitted call post last

variable {call : κ}

theorem Reliant.since {allowed : Recorded κ σ → Prop} {goal : Recorded κ σ → Except ε α → Prop}
    {state reached : Recorded κ σ} {process : Option (Program (Recorded κ σ) ε α)}
    (reliant : Reliant regime allowed goal call state process)
    (since : regime.Since call state reached) :
    Reliant regime allowed goal call reached process := by
  cases process with
  | none => exact since.own.trans reliant
  | some program =>
    obtain ⟨plain, same, last, before, relies⟩ := reliant
    exact ⟨plain, same, last,
      ⟨since.own.trans before.own, regime.trans _ _ _ _ before.relied since.relied⟩, relies⟩

def Reliable (regime : Regime κ σ) (permitted : κ → Recorded κ σ → Prop)
    (post : κ → Recorded κ σ → Except ε α → Prop)
    (pool : Pool κ (Recorded κ σ) (Program (Recorded κ σ) ε α)) : Prop :=
  regime.inv pool.state ∧
    ∀ call, Reliant regime (permitted call) (post call) call pool.state (pool.calls call)

theorem Reliable.done (reliable : Reliable regime permitted post pool) {result : Except ε α}
    (finished : pool.calls call = some (.done result)) :
    ∃ last, regime.Since call last pool.state ∧ post call last result := by
  have own := reliable.2 call
  rw [finished] at own
  obtain ⟨plain, same, last, since, relies⟩ := own
  cases plain with
  | atomic change next => cases same
  | done ended =>
    cases same
    exact ⟨last, since, relies⟩

theorem put_reliant {program : Program (Recorded κ σ) ε α} {state : Recorded κ σ}
    (own : Reliant regime (permitted call) (post call) call state (some program))
    (others : ∀ other, other ≠ call →
      Reliant regime (permitted other) (post other) other state (pool.calls other)) (other : κ) :
    Reliant regime (permitted other) (post other) other state (pool.put call program other) := by
  unfold put
  by_cases same : other = call
  · subst same
    rw [Function.update_self]
    exact own
  · rw [Function.update_of_ne same]
    exact others other same

theorem Step.reliable
    (outside : ∀ before after, regime.inv before → after.deeds = before.deeds →
      moves before.state after.state →
      regime.inv after ∧ ∀ call, regime.rely call before after)
    (relies : ∀ call last, last.own call = [] →
      (start call).Relies regime (permitted call) call (post call) last)
    {reached : Pool κ (Recorded κ σ) (Program (Recorded κ σ) ε α)}
    (stepped : Step (recording start moves) (permittedSteps permitted) pool reached)
    (reliable : Reliable regime permitted post pool) : Reliable regime permitted post reached := by
  obtain ⟨holds, each⟩ := reliable
  cases stepped with
  | start call program unused begun =>
    have fresh := each call
    rw [unused] at fresh
    refine ⟨holds, put_reliant ?_ fun other _ => each other⟩
    exact ⟨start call, begun, pool.state, ⟨rfl, regime.refl _ _⟩, relies _ _ fresh⟩
  | statement call program next after running allowed advanced =>
    have own := each call
    rw [running] at own
    obtain ⟨plain, rfl, last, since, goes⟩ := own
    have step : (plain.recorded call).advance pool.state = some (next, after) := advanced
    rw [Program.recorded_advance] at step
    cases plain with
    | done result => cases step
    | atomic change continue_ =>
      cases step
      obtain ⟨owed, continues⟩ := goes pool.state since holds allowed
      refine ⟨owed.inv, put_reliant ?_ fun other ne => ?_⟩
      · exact ⟨_, rfl, _, ⟨rfl, regime.refl _ _⟩, continues⟩
      · exact (each other).since ⟨Recorded.own_add_of_ne _ _ _ _ ne, owed.others other ne⟩
  | outside after moved =>
    obtain ⟨kept, others⟩ := outside pool.state after holds moved.1 moved.2
    refine ⟨kept, fun other => (each other).since ⟨?_, others other⟩⟩
    simp [Recorded.own, moved.1]

theorem Run.reliable
    (outside : ∀ before after, regime.inv before → after.deeds = before.deeds →
      moves before.state after.state →
      regime.inv after ∧ ∀ call, regime.rely call before after)
    (relies : ∀ call last, last.own call = [] →
      (start call).Relies regime (permitted call) call (post call) last)
    (initial : regime.inv { state })
    (run : Run (recording start moves) (permittedSteps permitted) (idle { state }) final) :
    Reliable regime permitted post final := by
  have nothing : Reliable regime permitted post
      (idle { state } : Pool κ (Recorded κ σ) (Program (Recorded κ σ) ε α)) :=
    ⟨initial, fun _ => rfl⟩
  exact run.invariant (fun _ _ reliable stepped => stepped.reliable outside relies reliable) nothing

theorem Run.relied
    (outside : ∀ before after, regime.inv before → after.deeds = before.deeds →
      moves before.state after.state →
      regime.inv after ∧ ∀ call, regime.rely call before after)
    (relies : ∀ call last, last.own call = [] →
      (start call).Relies regime (permitted call) call (fun _ _ => True) last)
    (initial : regime.inv { state })
    (run : Run (recording start moves) (permittedSteps permitted) (idle { state }) final) :
    regime.inv final.state :=
  (run.reliable outside relies initial).1

theorem permits_prefixes {P : Type} {allowed : Pool κ σ P → κ → P → Prop}
    {advance : P → σ → Option (P × σ)} {first : κ → P} (moves : List (Move κ σ)) (pool : Pool κ σ P)
    (permitted : ∀ before call, moves[before]? = some (.turn call) → ∀ process,
      (play advance first (moves.take before) pool).calls call = some process →
        allowed (play advance first (moves.take before) pool) call process) :
    Permits allowed advance first moves pool := by
  induction moves generalizing pool with
  | nil => trivial
  | cons move rest ih =>
    cases move with
    | turn call =>
      exact ⟨permitted 0 call rfl, ih _ fun before other there => permitted (before + 1) other there⟩
    | outside change =>
      exact ih _ fun before other there => permitted (before + 1) other there

end Pool

end Lib
