import Mathlib.Logic.Basic
import Mathlib.Tactic.Common

set_option autoImplicit false

/-!
# Programs over atomic statements

`run` executes a call alone; `advance` executes its next statement, so that calls interleave.
A failure keeps what was written before it, except inside `transaction`.
-/

namespace Lib

inductive Program (σ ε α : Type) : Type where
  | done (result : Except ε α)
  | atomic (change : σ → σ) (next : σ → Program σ ε α)

variable {unit : Unit → Unit → Prop} {ε' : Type}

namespace Program

variable {σ ε α β γ : Type}

def bind : Program σ ε α → (α → Program σ ε β) → Program σ ε β
  | done (.ok value), rest => rest value
  | done (.error failure), _ => done (.error failure)
  | atomic change next, rest => atomic change fun state => (next state).bind rest

instance : Monad (Program σ ε) where
  pure value := done (.ok value)
  bind := Program.bind

def recover : Program σ ε α → (ε → Program σ ε α) → Program σ ε α
  | done (.ok value), _ => done (.ok value)
  | done (.error failure), handler => handler failure
  | atomic change next, handler => atomic change fun state => (next state).recover handler

def run : Program σ ε α → σ → Except ε α × σ
  | done result, state => (result, state)
  | atomic change next, state => (next state).run (change state)

def advance : Program σ ε α → σ → Option (Program σ ε α × σ)
  | done _, _ => none
  | atomic change next, state => some (next state, change state)

def fail (failure : ε) : Program σ ε α := done (.error failure)

def reads (view : σ → α) : Program σ ε α := atomic id fun state => pure (view state)

def modify (change : σ → σ) : Program σ ε Unit := atomic change fun _ => pure ()

def attempt (body : σ → Except ε (α × σ)) : Program σ ε α :=
  atomic
    (fun state =>
      match body state with
      | .ok (_, reached) => reached
      | .error _ => state)
    (fun state =>
      match body state with
      | .ok (value, _) => pure value
      | .error failure => fail failure)

def stretch (body : StateM σ α) : Program σ ε α :=
  atomic (fun state => (body.run state).2) fun state => pure (body.run state).1

def require (condition : Bool) (failure : ε) : Program σ ε Unit :=
  if condition then pure () else fail failure

def orFail (found : Option α) (failure : ε) : Program σ ε α :=
  match found with
  | some value => pure value
  | none => fail failure

def transaction (body : Program σ ε α) : Program σ ε α :=
  attempt fun state =>
    match body.run state with
    | (.ok value, reached) => .ok (value, reached)
    | (.error failure, _) => .error failure

/-- `finally`: the cleanup follows the body whether or not it has failed. -/
def ensuring (body : Program σ ε α) (cleanup : Program σ ε Unit) : Program σ ε α := do
  let value ← body.recover fun failure => cleanup >>= fun _ => fail failure
  cleanup
  pure value

def zoom {τ : Type} (view : σ → τ) (replace : τ → σ → σ) : Program τ ε α → Program σ ε α
  | done result => done result
  | atomic change next => atomic (fun state => replace (change (view state)) state)
      fun state => (next (view state)).zoom view replace

/-- The program as a part of one with other failures: its own failure is a value. -/
def outcome {ε' : Type} : Program σ ε α → Program σ ε' (Except ε α)
  | done result => done (.ok result)
  | atomic change next => atomic change fun state => (next state).outcome

@[simp] theorem pure_bind (value : α) (rest : α → Program σ ε β) :
    (pure value >>= rest : Program σ ε β) = rest value := rfl

@[simp] theorem fail_bind (failure : ε) (rest : α → Program σ ε β) :
    (fail failure >>= rest : Program σ ε β) = fail failure := rfl

theorem bind_assoc (first : Program σ ε α) (second : α → Program σ ε β)
    (third : β → Program σ ε γ) :
    first >>= second >>= third = first >>= fun value => second value >>= third := by
  change (first.bind second).bind third = first.bind fun value => (second value).bind third
  induction first with
  | done result => cases result <;> rfl
  | atomic change next ih => simp only [bind, ih]

theorem bind_pure (first : Program σ ε α) : first >>= pure = first := by
  change first.bind pure = first
  induction first with
  | done result => cases result <;> rfl
  | atomic change next ih => simp only [bind, ih]

instance : LawfulMonad (Program σ ε) :=
  LawfulMonad.mk' (Program σ ε) bind_pure (fun _ _ => rfl) bind_assoc

@[simp] theorem run_pure (value : α) (state : σ) :
    (pure value : Program σ ε α).run state = (.ok value, state) := rfl

@[simp] theorem run_done (result : Except ε α) (state : σ) :
    (done result : Program σ ε α).run state = (result, state) := rfl

@[simp] theorem run_fail (failure : ε) (state : σ) :
    (fail failure : Program σ ε α).run state = (.error failure, state) := rfl

@[simp] theorem run_reads (view : σ → α) (state : σ) :
    (reads view : Program σ ε α).run state = (.ok (view state), state) := rfl

@[simp] theorem run_modify (change : σ → σ) (state : σ) :
    (modify change : Program σ ε Unit).run state = (.ok (), change state) := rfl

@[simp] theorem run_stretch (body : StateM σ α) (state : σ) :
    (stretch body : Program σ ε α).run state = (.ok (body.run state).1, (body.run state).2) := rfl

theorem run_bind (first : Program σ ε α) (rest : α → Program σ ε β) (state : σ) :
    (first >>= rest).run state =
      match first.run state with
      | (.ok value, reached) => (rest value).run reached
      | (.error failure, reached) => (.error failure, reached) := by
  change (first.bind rest).run state = _
  induction first generalizing state with
  | done result => cases result <;> rfl
  | atomic change next ih => simp only [bind, run, ih]

theorem run_recover (body : Program σ ε α) (handler : ε → Program σ ε α) (state : σ) :
    (body.recover handler).run state =
      match body.run state with
      | (.ok value, reached) => (.ok value, reached)
      | (.error failure, reached) => (handler failure).run reached := by
  induction body generalizing state with
  | done result => cases result <;> rfl
  | atomic change next ih => simp only [recover, run, ih]

section Given

variable {τ : Type} (view : σ → τ) (replace : τ → σ → σ)

theorem run_zoom (viewed : ∀ part state, view (replace part state) = part)
    (kept : ∀ state, replace (view state) state = state)
    (last : ∀ part part' state, replace part (replace part' state) = replace part state)
    (program : Program τ ε α) (state : σ) :
    (program.zoom view replace).run state =
      ((program.run (view state)).1, replace (program.run (view state)).2 state) := by
  induction program generalizing state with
  | done result => simp only [zoom, run, kept]
  | atomic change next ih => simp only [zoom, run, ih, viewed, last]

theorem run_zoom_view (viewed : ∀ part state, view (replace part state) = part)
    (program : Program τ ε α) (state : σ) :
    ((program.zoom view replace).run state).1 = (program.run (view state)).1 ∧
      view ((program.zoom view replace).run state).2 = (program.run (view state)).2 := by
  -- Whatever else the replacing does, the part goes as if it were alone.
  induction program generalizing state with
  | done result => exact ⟨rfl, rfl⟩
  | atomic change next ih =>
    have later := ih (view state) (replace (change (view state)) state)
    rw [viewed] at later
    exact later

end Given

theorem run_outcome (program : Program σ ε α) (state : σ) :
    (program.outcome : Program σ ε' (Except ε α)).run state =
      (.ok (program.run state).1, (program.run state).2) := by
  induction program generalizing state with
  | done result => rfl
  | atomic change next ih => exact ih state (change state)

variable (body : σ → Except ε (α × σ))

theorem run_attempt (state : σ) :
    (attempt body).run state =
      match body state with
      | .ok (value, reached) => (.ok value, reached)
      | .error failure => (.error failure, state) := by
  rcases outcome : body state with failure | ⟨value, reached⟩ <;>
    simp [attempt, run, outcome]

theorem run_transaction (body : Program σ ε α) (state : σ) :
    (transaction body).run state =
      match body.run state with
      | (.ok value, reached) => (.ok value, reached)
      | (.error failure, _) => (.error failure, state) := by
  rw [transaction, run_attempt]
  rcases body.run state with ⟨failure | value, reached⟩ <;> rfl

theorem run_require (condition : Bool) (failure : ε) (state : σ) :
    (require condition failure : Program σ ε Unit).run state =
      (if condition then .ok () else .error failure, state) := by
  cases condition <;> rfl

theorem run_orFail (found : Option α) (failure : ε) (state : σ) :
    (orFail found failure : Program σ ε α).run state =
      (match found with
        | some value => .ok value
        | none => .error failure, state) := by
  cases found <;> rfl

variable (view : σ → α)

theorem advance_reads_bind (rest : α → Program σ ε β) (state : σ) :
    (reads view >>= rest).advance state = some (rest (view state), state) := rfl

theorem advance_modify_bind (change : σ → σ) (rest : Unit → Program σ ε β) (state : σ) :
    (modify change >>= rest).advance state = some (rest (), change state) := rfl

theorem advance_attempt_bind (rest : α → Program σ ε β) (state : σ) :
    (attempt body >>= rest).advance state =
      some (match body state with
        | .ok (value, reached) => (rest value, reached)
        | .error failure => (fail failure, state)) := by
  change ((attempt body).bind rest).advance state = _
  simp only [attempt, bind, advance]
  rcases body state with failure | ⟨value, reached⟩ <;> rfl

theorem advance_transaction_bind (body : Program σ ε α) (rest : α → Program σ ε β) (state : σ) :
    (transaction body >>= rest).advance state =
      some (match body.run state with
        | (.ok value, reached) => (rest value, reached)
        | (.error failure, _) => (fail failure, state)) := by
  rw [transaction, advance_attempt_bind]
  rcases body.run state with ⟨_ | value, reached⟩ <;> rfl

theorem advance_recover_reads_bind (rest : α → Program σ ε β) (handler : ε → Program σ ε β)
    (next : β → Program σ ε γ) (state : σ) :
    ((reads view >>= rest).recover handler >>= next).advance state =
      some ((rest (view state)).recover handler >>= next, state) := rfl

theorem advance_recover_attempt (body : σ → Except ε (α × σ)) (rest : α → Program σ ε β)
    (handler : ε → Program σ ε β) (state : σ) :
    ((attempt body >>= rest).recover handler).advance state =
      some (match body state with
        | .ok (value, reached) => ((rest value).recover handler, reached)
        | .error failure => (handler failure, state)) := by
  change (((attempt body).bind rest).recover handler).advance state = _
  simp only [attempt, bind, recover, advance]
  rcases body state with failure | ⟨value, reached⟩ <;> rfl

theorem advance_recover_attempt_bind (rest : α → Program σ ε β) (handler : ε → Program σ ε β)
    (next : β → Program σ ε γ) (state : σ) :
    ((attempt body >>= rest).recover handler >>= next).advance state =
      some (match body state with
        | .ok (value, reached) => ((rest value).recover handler >>= next, reached)
        | .error failure => (handler failure >>= next, state)) := by
  change ((((attempt body).bind rest).recover handler).bind next).advance state = _
  simp only [attempt, bind, recover, advance]
  rcases body state with failure | ⟨value, reached⟩ <;> rfl

theorem bind_ok (first : Program σ ε α) (rest : α → Program σ ε β)
    (state final : σ) (result : β) :
    (first >>= rest).run state = (.ok result, final) ↔
      ∃ value reached, first.run state = (.ok value, reached) ∧
        (rest value).run reached = (.ok result, final) := by
  rw [run_bind]
  rcases first.run state with ⟨_ | value, reached⟩
  · simp
  · simp

theorem require_ok (condition : Bool) (failure : ε) (state final : σ) :
    (require condition failure : Program σ ε Unit).run state = (.ok (), final) ↔
      condition = true ∧ final = state := by
  cases condition <;> simp [require, eq_comm]

theorem reads_ok (state final : σ) (value : α) :
    (reads view : Program σ ε α).run state = (.ok value, final) ↔
      value = view state ∧ final = state := by
  simp [eq_comm]

theorem pure_ok (value result : α) (state final : σ) :
    (pure value : Program σ ε α).run state = (.ok result, final) ↔
      result = value ∧ final = state := by
  simp [eq_comm]

theorem require_bind_ok (condition : Bool) (failure : ε) (rest : Unit → Program σ ε β)
    (state final : σ) (result : β) :
    (require condition failure >>= rest).run state = (.ok result, final) ↔
      condition = true ∧ (rest ()).run state = (.ok result, final) := by
  cases condition <;> simp [require]

theorem orFail_bind_ok (found : Option α) (failure : ε) (rest : α → Program σ ε β)
    (state final : σ) (result : β) :
    (orFail found failure >>= rest).run state = (.ok result, final) ↔
      ∃ value, found = some value ∧ (rest value).run state = (.ok result, final) := by
  cases found <;> simp [orFail]

theorem reads_bind_ok (rest : α → Program σ ε β) (state final : σ) (result : β) :
    (reads view >>= rest).run state = (.ok result, final) ↔
      (rest (view state)).run state = (.ok result, final) := by
  simp [run_bind]

theorem modify_bind_ok (change : σ → σ) (rest : Unit → Program σ ε β) (state final : σ)
    (result : β) :
    (modify change >>= rest).run state = (.ok result, final) ↔
      (rest ()).run (change state) = (.ok result, final) := by
  simp [run_bind]

theorem attempt_ok (state final : σ) (value : α) :
    (attempt body).run state = (.ok value, final) ↔ body state = .ok (value, final) := by
  rw [run_attempt]
  rcases body state with failure | ⟨found, reached⟩ <;> simp

theorem transaction_ok (body : Program σ ε α) (state final : σ) (value : α) :
    (transaction body).run state = (.ok value, final) ↔ body.run state = (.ok value, final) := by
  rw [run_transaction]
  rcases body.run state with ⟨_ | found, reached⟩ <;> simp

theorem attempt_failed (state final : σ) (failure : ε)
    (failed : (attempt body).run state = (.error failure, final)) : final = state := by
  rw [run_attempt] at failed
  cases outcome : body state with
  | error other => simp_all
  | ok value => simp_all

theorem transaction_failed (body : Program σ ε α) (state final : σ) (failure : ε)
    (failed : (transaction body).run state = (.error failure, final)) : final = state :=
  attempt_failed _ state final failure failed

theorem ends_bind {P : σ → Prop} (first : Program σ ε α) (rest : α → Program σ ε β) (state : σ)
    (stopped : ∀ failure reached, first.run state = (.error failure, reached) → P reached)
    (continued : ∀ value reached, first.run state = (.ok value, reached) →
      P ((rest value).run reached).2) :
    P ((first >>= rest).run state).2 := by
  rw [run_bind]
  rcases ran : first.run state with ⟨failure | value, reached⟩
  · exact stopped failure reached ran
  · exact continued value reached ran

/-- Run from `state`, the program ends in a result and a state that satisfy `post`. -/
def wp (program : Program σ ε α) (post : Except ε α → σ → Prop) (state : σ) : Prop :=
  post (program.run state).1 (program.run state).2

variable {first : Program σ ε α} {rest : α → Program σ ε β} {mid : Except ε α → σ → Prop}
  {state : σ}

section wp

variable {post : Except ε α → σ → Prop} {goal : Except ε β → σ → Prop}

theorem wp_pure (value : α) (state : σ) :
    wp (pure value : Program σ ε α) post state ↔ post (.ok value) state := Iff.rfl

theorem wp_fail (failure : ε) (state : σ) :
    wp (fail failure : Program σ ε α) post state ↔ post (.error failure) state := Iff.rfl

theorem wp_modify (change : σ → σ) (after : Except ε Unit → σ → Prop) (state : σ) :
    wp (modify change) after state ↔ after (.ok ()) (change state) := Iff.rfl

theorem wp_bind (first : Program σ ε α) (rest : α → Program σ ε β) (state : σ) :
    wp (first >>= rest) goal state ↔
      wp first
        (fun result reached =>
          match result with
          | .ok value => wp (rest value) goal reached
          | .error failure => goal (.error failure) reached) state := by
  unfold wp
  rw [run_bind]
  rcases first.run state with ⟨_ | value, reached⟩ <;> rfl

theorem wp_recover (body : Program σ ε α) (handler : ε → Program σ ε α) (state : σ) :
    wp (body.recover handler) post state ↔
      wp body
        (fun result reached =>
          match result with
          | .ok value => post (.ok value) reached
          | .error failure => wp (handler failure) post reached) state := by
  unfold wp
  rw [run_recover]
  rcases body.run state with ⟨_ | value, reached⟩ <;> rfl

theorem wp_reads_bind (view : σ → α) (rest : α → Program σ ε β) (state : σ) :
    wp (reads view >>= rest) goal state ↔ wp (rest (view state)) goal state := Iff.rfl

theorem wp_modify_bind (change : σ → σ) (rest : Unit → Program σ ε β) (state : σ) :
    wp (modify change >>= rest) goal state ↔ wp (rest ()) goal (change state) := Iff.rfl

theorem wp_require_bind (condition : Bool) (failure : ε) (rest : Unit → Program σ ε β)
    (state : σ) :
    wp (require condition failure >>= rest) goal state ↔
      (condition = true → wp (rest ()) goal state) ∧
        (condition = false → goal (.error failure) state) := by
  cases condition <;> simp [require, wp_fail]

theorem wp_orFail (found : Option α) (failure : ε) (state : σ) :
    wp (orFail found failure) post state ↔
      (∀ value, found = some value → post (.ok value) state) ∧
        (found = none → post (.error failure) state) := by
  cases found <;> simp [orFail, wp_pure, wp_fail]

theorem wp_orFail_bind (found : Option α) (failure : ε) (rest : α → Program σ ε β) (state : σ) :
    wp (orFail found failure >>= rest) goal state ↔
      (∀ value, found = some value → wp (rest value) goal state) ∧
        (found = none → goal (.error failure) state) := by
  cases found <;> simp [orFail, wp_fail]

theorem wp_attempt (body : σ → Except ε (α × σ)) (state : σ) :
    wp (attempt body) post state ↔
      (∀ value reached, body state = .ok (value, reached) → post (.ok value) reached) ∧
        ∀ failure, body state = .error failure → post (.error failure) state := by
  unfold wp
  rw [run_attempt]
  rcases body state with failure | ⟨value, reached⟩ <;> simp

theorem wp_transaction (body : Program σ ε α) (state : σ) :
    wp (transaction body) post state ↔
      wp body
        (fun result reached =>
          match result with
          | .ok value => post (.ok value) reached
          | .error failure => post (.error failure) state) state := by
  unfold wp
  rw [run_transaction]
  rcases body.run state with ⟨_ | value, reached⟩ <;> rfl

theorem wp.weaken {program : Program σ ε α} (held : wp program mid state)
    (enough : ∀ result reached, mid result reached → post result reached) : wp program post state :=
  enough _ _ held

theorem wp.bind (started : wp first mid state)
    (continued : ∀ value reached, mid (.ok value) reached → wp (rest value) goal reached)
    (stopped : ∀ failure reached, mid (.error failure) reached → goal (.error failure) reached) :
    wp (first >>= rest) goal state := by
  rw [wp_bind]
  refine started.weaken ?_
  rintro (failure | value) reached holds
  · exact stopped failure reached holds
  · exact continued value reached holds

end wp

/-- The program keeps `invariant`, whether it succeeds or fails. -/
def Keeps (invariant : σ → Prop) (program : Program σ ε α) : Prop :=
  ∀ state, invariant state → wp program (fun _ reached => invariant reached) state

variable {handler : ε → Program σ ε α} {items : List β}

section Keeps

variable {invariant : σ → Prop}

theorem Keeps.pure (value : α) : Keeps invariant (Pure.pure value : Program σ ε α) :=
  fun _ holds => holds

theorem Keeps.fail (failure : ε) : Keeps invariant (fail failure : Program σ ε α) :=
  fun _ holds => holds

theorem Keeps.reads (view : σ → α) : Keeps invariant (reads view : Program σ ε α) :=
  fun _ holds => holds

theorem Keeps.modify {change : σ → σ} (kept : ∀ state, invariant state → invariant (change state)) :
    Keeps invariant (modify change : Program σ ε Unit) :=
  kept

theorem Keeps.require (condition : Bool) (failure : ε) :
    Keeps invariant (require condition failure : Program σ ε Unit) := by
  cases condition <;> exact fun _ holds => holds

theorem Keeps.orFail (found : Option α) (failure : ε) :
    Keeps invariant (orFail found failure : Program σ ε α) := by
  cases found <;> exact fun _ holds => holds

theorem Keeps.attempt {body : σ → Except ε (α × σ)}
    (kept : ∀ state value reached, invariant state → body state = .ok (value, reached) →
      invariant reached) :
    Keeps invariant (attempt body) := by
  intro state holds
  rw [wp_attempt]
  exact ⟨fun value reached outcome => kept state value reached holds outcome, fun _ _ => holds⟩

theorem Keeps.bind (started : Keeps invariant first)
    (continued : ∀ value, Keeps invariant (rest value)) : Keeps invariant (first >>= rest) :=
  fun state holds => (started state holds).bind continued fun _ _ reached => reached

theorem Keeps.transaction {body : Program σ ε α} (inside : Keeps invariant body) :
    Keeps invariant (transaction body) := by
  intro state holds
  rw [wp_transaction]
  refine (inside state holds).weaken ?_
  rintro (failure | value) reached kept
  · exact holds
  · exact kept

theorem Keeps.recover {body : Program σ ε α} (kept : Keeps invariant body)
    (handled : ∀ failure, Keeps invariant (handler failure)) :
    Keeps invariant (body.recover handler) := by
  intro state holds
  rw [wp_recover]
  refine (kept state holds).weaken ?_
  rintro (failure | value) reached still
  · exact handled failure reached still
  · exact still

theorem Keeps.outcome {body : Program σ ε α} (kept : Keeps invariant body) :
    Keeps invariant (body.outcome : Program σ ε' (Except ε α)) := by
  intro state holds
  unfold wp
  rw [run_outcome]
  exact kept state holds

theorem Keeps.ensuring {body : Program σ ε α} {cleanup : Program σ ε Unit}
    (kept : Keeps invariant body) (cleaned : Keeps invariant cleanup) :
    Keeps invariant (body.ensuring cleanup) :=
  (kept.recover fun failure => cleaned.bind fun _ => Keeps.fail failure).bind fun value =>
    cleaned.bind fun _ => Keeps.pure value

theorem Keeps.mapM {each : β → Program σ ε α} (kept : ∀ item ∈ items, Keeps invariant (each item)) :
    Keeps invariant (items.mapM each) := by
  induction items with
  | nil => exact Keeps.pure _
  | cons item rest ih =>
    rw [List.mapM_cons]
    refine (kept item (List.mem_cons_self ..)).bind fun value => ?_
    exact (ih fun other member => kept other (List.mem_cons_of_mem _ member)).bind
      fun values => Keeps.pure _

theorem Keeps.foldlM {each : α → β → Program σ ε α} {initial : α}
    (kept : ∀ value, ∀ item ∈ items, Keeps invariant (each value item)) :
    Keeps invariant (items.foldlM each initial) := by
  induction items generalizing initial with
  | nil => exact Keeps.pure _
  | cons item rest ih =>
    rw [List.foldlM_cons]
    refine (kept initial item (List.mem_cons_self ..)).bind fun value => ?_
    exact ih fun value other member => kept value other (List.mem_cons_of_mem _ member)

end Keeps

def SameResult (related : α → β → Prop) : Except ε α → Except ε β → Prop
  | .ok first, .ok second => related first second
  | .error first, .error second => first = second
  | _, _ => False

/-- Run from related states, the two programs fail alike or return related values,
and the states they leave are related again. -/
def Related (states : σ → σ → Prop) (first : Program σ ε α) (second : Program σ ε β)
    (values : α → β → Prop) : Prop :=
  ∀ left right, states left right →
    SameResult values (first.run left).1 (second.run right).1 ∧
      states (first.run left).2 (second.run right).2

section Related

variable {states : σ → σ → Prop} {α' β' : Type} {values : α → α' → Prop}
  {results : β → β' → Prop} {second : Program σ ε α'}

theorem Related.mono {values' : α → α' → Prop}
    (weaker : ∀ value value', values value value' → values' value value')
    (related : Related states first second values) : Related states first second values' := by
  intro left right same
  have ⟨alike, reached⟩ := related left right same
  refine ⟨?_, reached⟩
  rcases one : (first.run left).1 with failure | value <;>
    rcases other : (second.run right).1 with failure' | value' <;>
    rw [one, other] at alike
  · exact alike
  · exact alike
  · exact alike
  · exact weaker value value' alike

theorem Related.pure {first : α} {second : α'} (related : values first second) :
    Related states (Pure.pure first : Program σ ε α) (Pure.pure second : Program σ ε α') values :=
  fun _ _ same => ⟨related, same⟩

theorem Related.fail (failure : ε) :
    Related states (fail failure : Program σ ε α) (fail failure : Program σ ε α') values :=
  fun _ _ same => ⟨rfl, same⟩

theorem Related.reads {first : σ → α} {second : σ → α'}
    (related : ∀ left right, states left right → values (first left) (second right)) :
    Related states (reads first : Program σ ε α) (reads second : Program σ ε α') values :=
  fun left right same => ⟨related left right same, same⟩

theorem Related.modify {first second : σ → σ}
    (related : ∀ left right, states left right → states (first left) (second right))
    (trivially : unit () ()) :
    Related states (modify first : Program σ ε Unit) (modify second) unit :=
  fun left right same => ⟨trivially, related left right same⟩

theorem Related.attempt {first : σ → Except ε (α × σ)} {second : σ → Except ε (α' × σ)}
    (related : ∀ left right, states left right →
      SameResult (fun one other => values one.1 other.1 ∧ states one.2 other.2)
        (first left) (second right)) :
    Related states (attempt first) (attempt second) values := by
  intro left right same
  have alike := related left right same
  rw [run_attempt, run_attempt]
  rcases one : first left with failure | ⟨value, reached⟩ <;>
    rcases other : second right with failure' | ⟨value', reached'⟩ <;>
    simp only [one, other, SameResult] at alike ⊢
  · exact ⟨alike, same⟩
  · exact alike

theorem Related.require {first second : Bool} {failure : ε} (related : first = second)
    (trivially : unit () ()) :
    Related states (require first failure : Program σ ε Unit) (require second failure) unit := by
  subst related
  cases first
  · exact Related.fail failure
  · exact Related.pure trivially

variable {rest' : α' → Program σ ε β'}

theorem Related.bind_at {left right : σ}
    (started : SameResult values (first.run left).1 (second.run right).1 ∧
      states (first.run left).2 (second.run right).2)
    (continued : ∀ value value' middle middle', first.run left = (.ok value, middle) →
      second.run right = (.ok value', middle') → values value value' → states middle middle' →
        SameResult results ((rest value).run middle).1 ((rest' value').run middle').1 ∧
          states ((rest value).run middle).2 ((rest' value').run middle').2) :
    SameResult results ((first >>= rest).run left).1 ((second >>= rest').run right).1 ∧
      states ((first >>= rest).run left).2 ((second >>= rest').run right).2 := by
  obtain ⟨alike, reached⟩ := started
  rw [run_bind, run_bind]
  rcases one : first.run left with ⟨failure | value, middle⟩ <;>
    rcases other : second.run right with ⟨failure' | value', middle'⟩ <;>
    simp only [one, other, SameResult] at alike reached ⊢
  · exact ⟨alike, reached⟩
  · exact continued value value' middle middle' one other alike reached

theorem Related.bind (started : Related states first second values)
    (continued : ∀ value value', values value value' →
      Related states (rest value) (rest' value') results) :
    Related states (first >>= rest) (second >>= rest') results := by
  intro left right same
  apply Related.bind_at (started left right same)
  intro value value' middle middle' _ _ related reached
  exact continued value value' related middle middle' reached

theorem Related.recover {handler' : ε → Program σ ε α'}
    (started : Related states first second values)
    (handled : ∀ failure, Related states (handler failure) (handler' failure) values) :
    Related states (first.recover handler) (second.recover handler') values := by
  intro left right same
  have ⟨alike, reached⟩ := started left right same
  rw [run_recover, run_recover]
  rcases one : first.run left with ⟨failure | value, middle⟩ <;>
    rcases other : second.run right with ⟨failure' | value', middle'⟩ <;>
    simp only [one, other, SameResult] at alike reached ⊢
  · subst alike
    exact handled failure middle middle' reached
  · exact ⟨alike, reached⟩

theorem Related.transaction {first : Program σ ε α} (inside : Related states first second values) :
    Related states (transaction first) (transaction second) values := by
  intro left right same
  have ⟨alike, reached⟩ := inside left right same
  rw [run_transaction, run_transaction]
  rcases one : first.run left with ⟨failure | value, middle⟩ <;>
    rcases other : second.run right with ⟨failure' | value', middle'⟩ <;>
    simp only [one, other, SameResult] at alike reached ⊢
  · exact ⟨alike, same⟩
  · exact ⟨alike, reached⟩

end Related

/-! ### Steps that fail -/

section Faults

variable {σ ε α : Type}

def raising (fault : Option ε) (body : Program σ ε α) : Program σ ε α :=
  match fault with
  | none => body
  | some failure => fail failure

/-- `try { … } catch { return fallback }` around one step. -/
def absorbing (fault : Option ε) (fallback : α) (body : Program σ ε α) : Program σ ε α :=
  (body.raising fault).recover fun _ => pure fallback

@[simp] theorem raising_none (body : Program σ ε α) : body.raising none = body := rfl

@[simp] theorem raising_some (failure : ε) (body : Program σ ε α) :
    body.raising (some failure) = fail failure := rfl

@[simp] theorem absorbing_some (failure : ε) (fallback : α) (body : Program σ ε α) :
    body.absorbing (some failure) fallback = pure fallback := rfl

@[simp] theorem absorbing_reads_none (fallback : α) (view : σ → α) :
    (reads view : Program σ ε α).absorbing none fallback = reads view := rfl

@[simp] theorem absorbing_modify_none (change : σ → σ) :
    (modify change : Program σ ε Unit).absorbing none () = modify change := rfl

theorem run_absorbing_reads (fault : Option ε) (fallback : α) (view : σ → α) (state : σ) :
    ((reads view : Program σ ε α).absorbing fault fallback).run state =
      (.ok (if fault.isSome then fallback else view state), state) := by
  cases fault <;> rfl

theorem run_absorbing_modify (fault : Option ε) (change : σ → σ) (state : σ) :
    ((modify change : Program σ ε Unit).absorbing fault ()).run state =
      (.ok (), if fault.isSome then state else change state) := by
  cases fault <;> rfl

end Faults

end Program

end Lib
