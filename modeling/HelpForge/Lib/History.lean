import HelpForge.Lib.Program
import Mathlib.Data.List.Infix
import Mathlib.Logic.Function.Basic
import Mathlib.Logic.Relation

set_option autoImplicit false

/-!
# Histories

A history lists the states of a run, newest first. A step may use any of them.
-/

namespace Lib

/-- `History init step seen`: some run has gone through exactly the states `seen`. -/
inductive History {σ : Type} (init : σ → Prop) (step : List σ → σ → σ → Prop) : List σ → Prop where
  | start (state : σ) (initial : init state) : History init step [state]
  | next (past : List σ) (state reached : σ) (run : History init step (state :: past))
      (stepped : step (state :: past) state reached) : History init step (reached :: state :: past)

namespace History

variable {σ : Type} {init : σ → Prop} {step : List σ → σ → σ → Prop}

theorem invariant {inv : σ → Prop} (initial : ∀ state, init state → inv state)
    (kept : ∀ past state reached, (∀ earlier ∈ state :: past, inv earlier) →
      step (state :: past) state reached → inv reached)
    {seen : List σ} (run : History init step seen) : ∀ state ∈ seen, inv state := by
  induction run with
  | start state start =>
    intro other member
    rw [List.mem_singleton] at member
    exact member ▸ initial state start
  | next past state reached run stepped ih =>
    intro other member
    rcases List.mem_cons.mp member with rfl | earlier
    · exact kept past state other ih stepped
    · exact ih other earlier

theorem ascending (inv : σ → Prop) (rel : σ → σ → Prop) (refl : ∀ state, rel state state)
    (trans : ∀ first second third, rel first second → rel second third → rel first third)
    (climbs : ∀ past state reached, (∀ earlier ∈ state :: past, inv earlier) →
      (∀ earlier ∈ state :: past, rel earlier state) →
      step (state :: past) state reached → inv reached ∧ rel state reached)
    (initial : ∀ state, init state → inv state)
    {seen : List σ} (run : History init step seen) :
    (∀ state ∈ seen, inv state) ∧
      ∀ last, seen.head? = some last → ∀ earlier ∈ seen, rel earlier last := by
  induction run with
  | start state start =>
    refine ⟨?_, ?_⟩
    · intro other member
      rw [List.mem_singleton] at member
      exact member ▸ initial state start
    · intro last head earlier member
      rw [List.head?_cons, Option.some.injEq] at head
      rw [List.mem_singleton] at member
      subst last earlier
      exact refl state
  | next past state reached run stepped ih =>
    obtain ⟨held, below⟩ := ih
    obtain ⟨now, up⟩ := climbs past state reached held (below state rfl) stepped
    refine ⟨?_, ?_⟩
    · intro other member
      rcases List.mem_cons.mp member with rfl | earlier
      · exact now
      · exact held other earlier
    · intro last head earlier member
      rw [List.head?_cons, Option.some.injEq] at head
      subst last
      rcases List.mem_cons.mp member with rfl | before
      · exact refl earlier
      · exact trans earlier state reached (below state rfl earlier before) up

end History

namespace Program

variable {σ ε α β : Type}

/-- Whatever other calls do in between, every statement of the program keeps `inv`
of the history, and its outcome satisfies `post` of the history. -/
def Upholds (inv : List σ → Prop) (post : List σ → Except ε α → Prop) :
    Program σ ε α → List σ → Prop
  | done result, seen => post seen result
  | atomic change next, seen =>
    ∀ state past, seen <:+ state :: past → inv (state :: past) →
      inv (change state :: state :: past) ∧
        (next state).Upholds inv post (change state :: state :: past)

def Stable (fact : List σ → Prop) : Prop := ∀ seen later, seen <:+ later → fact seen → fact later

variable {body : Program σ ε α} {failure : ε} {rest : α → Program σ ε β} {first : Program σ ε α}
  {after : List σ → Except ε Unit → Prop} {condition : Bool} {change : σ → σ} {found : Option α}
  {value : α}

section Upholds

variable {inv : List σ → Prop} {mid post : List σ → Except ε α → Prop}
  {goal : List σ → Except ε β → Prop}

section List

variable {seen : List σ}

theorem Upholds.later (stable : ∀ result, Stable fun seen => post seen result)
    {program : Program σ ε α} {later : List σ} (grown : seen <:+ later)
    (upheld : program.Upholds inv post seen) : program.Upholds inv post later := by
  cases program with
  | done result => exact stable result seen later grown upheld
  | atomic change next =>
    intro state past longer holds
    exact upheld state past (grown.trans longer) holds

theorem Upholds.pure (holds : post seen (.ok value)) :
    (Pure.pure value : Program σ ε α).Upholds inv post seen := holds

theorem Upholds.reads {view : σ → α}
    (kept : ∀ state past, seen <:+ state :: past → inv (state :: past) →
      inv (state :: state :: past))
    (holds : ∀ state past, seen <:+ state :: past → inv (state :: past) →
      post (state :: state :: past) (.ok (view state))) :
    (Program.reads view : Program σ ε α).Upholds inv post seen :=
  fun state past grown now => ⟨kept state past grown now, holds state past grown now⟩

theorem Upholds.modify
    (kept : ∀ state past, seen <:+ state :: past → inv (state :: past) →
      inv (change state :: state :: past) ∧ after (change state :: state :: past) (.ok ())) :
    (Program.modify change : Program σ ε Unit).Upholds inv after seen :=
  fun state past grown now => kept state past grown now

theorem Upholds.attempt {body : σ → Except ε (α × σ)}
    (succeeded : ∀ state past value reached, seen <:+ state :: past → inv (state :: past) →
      body state = .ok (value, reached) →
      inv (reached :: state :: past) ∧ post (reached :: state :: past) (.ok value))
    (failed : ∀ state past failure, seen <:+ state :: past → inv (state :: past) →
      body state = .error failure →
      inv (state :: state :: past) ∧ post (state :: state :: past) (.error failure)) :
    (Program.attempt body).Upholds inv post seen := by
  intro state past grown now
  rcases outcome : body state with failure | ⟨value, reached⟩ <;> simp only [outcome]
  · exact failed state past failure grown now outcome
  · exact succeeded state past value reached grown now outcome

theorem Upholds.bind (started : first.Upholds inv mid seen)
    (continued : ∀ value later, seen <:+ later → mid later (.ok value) →
      (rest value).Upholds inv goal later)
    (stopped : ∀ failure later, seen <:+ later → mid later (.error failure) →
      goal later (.error failure)) : (first >>= rest).Upholds inv goal seen := by
  change (first.bind rest).Upholds inv goal seen
  induction first generalizing seen with
  | done result =>
    cases result with
    | error failure => exact stopped failure seen (List.suffix_refl seen) started
    | ok value => exact continued value seen (List.suffix_refl seen) started
  | atomic change next ih =>
    intro state past grown now
    obtain ⟨kept, after⟩ := started state past grown now
    have longer : seen <:+ change state :: state :: past :=
      grown.trans (List.suffix_cons (change state) (state :: past))
    exact ⟨kept, ih state after
      (fun value later more => continued value later (longer.trans more))
      (fun failure later more => stopped failure later (longer.trans more))⟩

theorem Upholds.recover {handler : ε → Program σ ε α} (started : body.Upholds inv mid seen)
    (finished : ∀ value later, seen <:+ later → mid later (.ok value) → post later (.ok value))
    (handled : ∀ failure later, seen <:+ later → mid later (.error failure) →
      (handler failure).Upholds inv post later) : (body.recover handler).Upholds inv post seen := by
  induction body generalizing seen with
  | done result =>
    cases result with
    | error failure => exact handled failure seen (List.suffix_refl seen) started
    | ok value => exact finished value seen (List.suffix_refl seen) started
  | atomic change next ih =>
    intro state past grown now
    obtain ⟨kept, after⟩ := started state past grown now
    have longer : seen <:+ change state :: state :: past :=
      grown.trans (List.suffix_cons (change state) (state :: past))
    exact ⟨kept, ih state after
      (fun value later more => finished value later (longer.trans more))
      (fun failure later more => handled failure later (longer.trans more))⟩

theorem Upholds.require (passed : condition = true → after seen (.ok ()))
    (stopped : after seen (.error failure)) :
    (Program.require condition failure : Program σ ε Unit).Upholds inv after seen := by
  cases condition
  · exact stopped
  · exact passed rfl

theorem Upholds.orFail (passed : ∀ value, found = some value → post seen (.ok value))
    (stopped : post seen (.error failure)) :
    (Program.orFail found failure : Program σ ε α).Upholds inv post seen := by
  cases found with
  | none => exact stopped
  | some value => exact passed value rfl

theorem Upholds.transaction
    (succeeded : ∀ state past value reached, seen <:+ state :: past → inv (state :: past) →
      body.run state = (.ok value, reached) →
      inv (reached :: state :: past) ∧ post (reached :: state :: past) (.ok value))
    (failed : ∀ state past failure, seen <:+ state :: past → inv (state :: past) →
      inv (state :: state :: past) ∧ post (state :: state :: past) (.error failure)) :
    (Program.transaction body).Upholds inv post seen := by
  refine Upholds.attempt ?_ fun state past failure grown now _ => failed state past failure grown now
  intro state past value reached grown now outcome
  rcases ran : body.run state with ⟨failure | result, after⟩ <;> rw [ran] at outcome <;>
    cases outcome
  exact succeeded state past value reached grown now ran

theorem Upholds.zoom {τ : Type} {view : σ → τ} {replace : τ → σ → σ}
    (viewed : ∀ part state, view (replace part state) = part) {part : List τ → Prop}
    {after : List τ → Except ε α → Prop} {program : Program τ ε α}
    (upheld : program.Upholds part after (seen.map view)) :
    (program.zoom view replace).Upholds (fun seen => part (seen.map view))
      (fun seen => after (seen.map view)) seen := by
  induction program generalizing seen with
  | done result => exact upheld
  | atomic change next ih =>
    intro state past grown holds
    have longer : seen.map view <:+ view state :: past.map view := by
      simpa using grown.map view
    obtain ⟨kept, continues⟩ := upheld (view state) (past.map view) longer holds
    refine ⟨?_, ih (view state) ?_⟩
    · simpa [viewed] using kept
    · simpa [viewed] using continues

end List

end Upholds

/-- A postcondition on the value of a call that succeeds. -/
def Answers (fact : List σ → α → Prop) (seen : List σ) (result : Except ε α) : Prop :=
  ∀ value, result = .ok value → fact seen value

section Answers

variable {inv : List σ → Prop} {fact : List σ → α → Prop} {goal : List σ → β → Prop}
  {seen : List σ}

theorem Answers.stable (stable : ∀ value, Stable fun seen => fact seen value)
    (result : Except ε α) : Stable fun seen => Answers fact seen result :=
  fun seen later grown answers value same => stable value seen later grown (answers value same)

theorem Answers.pure (holds : fact seen value) :
    (Pure.pure value : Program σ ε α).Upholds inv (Answers fact) seen := by
  rintro other ⟨⟩
  exact holds

theorem Answers.fail (failure : ε) :
    (Program.fail failure : Program σ ε α).Upholds inv (Answers fact) seen :=
  nofun

theorem Answers.require {after : List σ → Unit → Prop} (passed : condition = true → after seen ()) :
    (Program.require condition failure : Program σ ε Unit).Upholds inv (Answers after) seen := by
  refine Upholds.require ?_ nofun
  rintro met other ⟨⟩
  exact passed met

theorem Answers.orFail (passed : ∀ value, found = some value → fact seen value) :
    (Program.orFail found failure : Program σ ε α).Upholds inv (Answers fact) seen := by
  refine Upholds.orFail ?_ nofun
  rintro value there other ⟨⟩
  exact passed value there

theorem Answers.bind (started : first.Upholds inv (Answers fact) seen)
    (continued : ∀ value later, seen <:+ later → fact later value →
      (rest value).Upholds inv (Answers goal) later) :
    (first >>= rest).Upholds inv (Answers goal) seen :=
  started.bind (fun value later grown answers => continued value later grown (answers value rfl))
    fun _ _ _ _ => nofun

theorem Answers.require_bind {rest : Unit → Program σ ε α}
    (passed : condition = true → (rest ()).Upholds inv (Answers fact) seen) :
    (Program.require condition failure >>= rest).Upholds inv (Answers fact) seen := by
  cases condition with
  | true => exact passed rfl
  | false => exact Answers.fail failure

theorem Answers.orFail_bind {found : Option β} {rest : β → Program σ ε α}
    (passed : ∀ value, found = some value → (rest value).Upholds inv (Answers fact) seen) :
    (Program.orFail found failure >>= rest).Upholds inv (Answers fact) seen := by
  cases found with
  | some value => exact passed value rfl
  | none => exact Answers.fail failure

theorem Answers.ensuring {cleanup : Program σ ε Unit}
    (upheld : body.Upholds inv (Answers fun _ _ => True) seen)
    (cleaned : ∀ later, seen <:+ later → cleanup.Upholds inv (Answers fun _ _ => True) later) :
    (body.ensuring cleanup).Upholds inv (Answers fun _ _ => True) seen := by
  have recovered : (body.recover fun failure => cleanup >>= fun _ => Program.fail failure).Upholds
      inv (Answers fun _ _ => True) seen :=
    upheld.recover (fun value later _ _ _ _ => trivial) fun failure later grown _ =>
      Answers.bind (cleaned later grown) fun _ _ _ _ => Answers.fail failure
  refine Answers.bind recovered fun value later grown _ => ?_
  exact Answers.bind (cleaned later grown) fun _ _ _ _ => Answers.pure trivial

theorem Answers.mapM {items : List β} {each : β → Program σ ε α}
    (kept : ∀ item ∈ items, ∀ later, seen <:+ later →
      (each item).Upholds inv (Answers fun _ _ => True) later) :
    (items.mapM each).Upholds inv (Answers fun _ _ => True) seen := by
  induction items generalizing seen with
  | nil => exact Answers.pure trivial
  | cons item rest ih =>
    rw [List.mapM_cons]
    refine Answers.bind (kept item (List.mem_cons_self ..) seen (List.suffix_refl seen)) ?_
    intro value later grown _
    refine Answers.bind (ih fun other member next more =>
      kept other (List.mem_cons_of_mem _ member) next (grown.trans more)) ?_
    intro values final _ _
    exact Answers.pure trivial

end Answers

/-- Every statement of the program keeps `inv` of the state it finds. -/
def Maintains (inv : σ → Prop) : Program σ ε α → Prop
  | done _ => True
  | atomic change next => ∀ state, inv state → inv (change state) ∧ (next state).Maintains inv

section Maintains

variable {inv : σ → Prop}

theorem Maintains.pure (value : α) : (Pure.pure value : Program σ ε α).Maintains inv := trivial

theorem Maintains.reads (view : σ → α) : (Program.reads view : Program σ ε α).Maintains inv :=
  fun _ holds => ⟨holds, trivial⟩

theorem Maintains.modify (kept : ∀ state, inv state → inv (change state)) :
    (Program.modify change : Program σ ε Unit).Maintains inv :=
  fun state holds => ⟨kept state holds, trivial⟩

theorem Maintains.attempt {body : σ → Except ε (α × σ)}
    (kept : ∀ state value reached, inv state → body state = .ok (value, reached) → inv reached) :
    (Program.attempt body).Maintains inv := by
  intro state holds
  rcases outcome : body state with failure | ⟨value, reached⟩ <;> simp only [outcome]
  · exact ⟨holds, trivial⟩
  · exact ⟨kept state value reached holds outcome, trivial⟩

theorem Maintains.transaction (kept : Keeps inv body) :
    (Program.transaction body).Maintains inv := by
  refine Maintains.attempt fun state value reached holds outcome => ?_
  have within := kept state holds
  rcases ran : body.run state with ⟨failure | result, after⟩ <;> rw [ran] at outcome <;>
    cases outcome
  rw [wp, ran] at within
  exact within

theorem Maintains.bind (started : first.Maintains inv)
    (continued : ∀ value, (rest value).Maintains inv) : (first >>= rest).Maintains inv := by
  change (first.bind rest).Maintains inv
  induction first with
  | done result =>
    cases result with
    | error failure => trivial
    | ok value => exact continued value
  | atomic change next ih =>
    intro state holds
    obtain ⟨kept, after⟩ := started state holds
    exact ⟨kept, ih state after⟩

end Maintains

end Program

/-- Calls in progress on one state, and the states before it. -/
structure Pool (κ σ P : Type) where
  state : σ
  past : List σ
  calls : κ → Option P

structure Pool.System (κ σ P : Type) where
  advance : P → σ → Option (P × σ)
  begins : List σ → κ → P → Prop
  environment : σ → σ → Prop

namespace Pool

variable {κ σ P Q : Type} [DecidableEq κ]

def idle (state : σ) : Pool κ σ P := { state, past := [], calls := fun _ => none }

def seen (pool : Pool κ σ P) : List σ := pool.state :: pool.past

def put (pool : Pool κ σ P) (call : κ) (process : P) : κ → Option P :=
  Function.update pool.calls call (some process)

variable (pool : Pool κ σ P)

@[simp] theorem put_self (call : κ) (process : P) :
    pool.put call process call = some process := Function.update_self ..

theorem put_put (state : σ) (past : List σ) (call : κ) (process next : P) :
    ({ state, past, calls := pool.put call process } : Pool κ σ P).put call next =
      pool.put call next := Function.update_idem ..

theorem put_eq_some (call other : κ) (process found : P) :
    pool.put call process other = some found ↔
      (other = call ∧ found = process) ∨ (other ≠ call ∧ pool.calls other = some found) := by
  unfold put
  by_cases same : other = call
  · subst same
    simp [eq_comm]
  · simp [same]

theorem put_forall {holds : κ → P → Prop} {call : κ} {process : P} (own : holds call process)
    (others : ∀ other found, pool.calls other = some found → holds other found) (other : κ)
    (found : P) (there : pool.put call process other = some found) : holds other found := by
  rcases (put_eq_some ..).mp there with ⟨rfl, rfl⟩ | ⟨_, before⟩
  · exact own
  · exact others other found before

/-- One step of the pool: a new call begins, a call in progress executes its next
statement, or the state changes from outside. -/
inductive Step (system : System κ σ P) (allowed : Pool κ σ P → κ → P → Prop) :
    Pool κ σ P → Pool κ σ P → Prop where
  | start (pool : Pool κ σ P) (call : κ) (process : P) (unused : pool.calls call = none)
      (begun : system.begins pool.seen call process) :
      Step system allowed pool { pool with calls := pool.put call process }
  | statement (pool : Pool κ σ P) (call : κ) (process next : P) (state : σ)
      (running : pool.calls call = some process) (permitted : allowed pool call process)
      (advanced : system.advance process pool.state = some (next, state)) :
      Step system allowed pool { state, past := pool.seen, calls := pool.put call next }
  | outside (pool : Pool κ σ P) (state : σ) (moved : system.environment pool.state state) :
      Step system allowed pool { pool with state := state, past := pool.seen }

def anyStatement (_ : Pool κ σ P) (_ : κ) (_ : P) : Prop := True

def Run (system : System κ σ P) (allowed : Pool κ σ P → κ → P → Prop) :
    Pool κ σ P → Pool κ σ P → Prop :=
  Relation.ReflTransGen (Step system allowed)

variable {system : System κ σ P} {allowed : Pool κ σ P → κ → P → Prop}

theorem Run.invariant {inv : Pool κ σ P → Prop} {pool final : Pool κ σ P}
    (kept : ∀ pool reached, inv pool → Step system allowed pool reached → inv reached)
    (run : Run system allowed pool final) (holds : inv pool) : inv final := by
  induction run with
  | refl => exact holds
  | tail _ stepped ih => exact kept _ _ ih stepped

theorem Run.step {pool reached : Pool κ σ P} (stepped : Step system allowed pool reached) :
    Run system allowed pool reached :=
  Relation.ReflTransGen.single stepped

theorem Run.trans {pool middle final : Pool κ σ P} (first : Run system allowed pool middle)
    (second : Run system allowed middle final) : Run system allowed pool final :=
  Relation.ReflTransGen.trans first second

/-- Either a call takes its turn, by which it begins if it has not begun, or the state
changes from outside. -/
inductive Move (κ σ : Type) where
  | turn (call : κ)
  | outside (change : σ → σ)

def turn (advance : P → σ → Option (P × σ)) (start : κ → P) (pool : Pool κ σ P) (call : κ) :
    Pool κ σ P :=
  match pool.calls call with
  | none => { pool with calls := pool.put call (start call) }
  | some process =>
    match advance process pool.state with
    | none => pool
    | some (next, state) => { state, past := pool.seen, calls := pool.put call next }

theorem turn_other (advance : P → σ → Option (P × σ)) (start : κ → P) (pool : Pool κ σ P)
    (call other : κ) (differs : other ≠ call) :
    (turn advance start pool call).calls other = pool.calls other := by
  unfold turn
  split
  · exact Function.update_of_ne differs _ _
  · split
    · rfl
    · exact Function.update_of_ne differs _ _

def play (advance : P → σ → Option (P × σ)) (start : κ → P) :
    List (Move κ σ) → Pool κ σ P → Pool κ σ P
  | [], pool => pool
  | .turn call :: rest, pool => play advance start rest (turn advance start pool call)
  | .outside change :: rest, pool =>
    play advance start rest { pool with state := change pool.state, past := pool.seen }

variable {start : κ → P} {advance : P → σ → Option (P × σ)}

theorem play_keeps (inv : Pool κ σ P → Prop) (moves : List (Move κ σ))
    (turned : ∀ pool call, inv pool → inv (turn advance start pool call))
    (changed : ∀ change, .outside change ∈ moves → ∀ pool : Pool κ σ P, inv pool →
      inv { pool with state := change pool.state, past := pool.seen }) {pool : Pool κ σ P}
    (holds : inv pool) : inv (play advance start moves pool) := by
  induction moves generalizing pool with
  | nil => exact holds
  | cons move rest ih =>
    have later := @ih fun change among => changed change (List.mem_cons_of_mem _ among)
    cases move with
    | turn call => exact later (turned pool call holds)
    | outside change => exact later (changed change (List.mem_cons_self ..) pool holds)

variable (moves : List (Move κ σ))

theorem play_called (pool : Pool κ σ P) {call : κ} (unused : pool.calls call = none) {process : P}
    (called : (play advance start moves pool).calls call = some process) : .turn call ∈ moves := by
  induction moves generalizing pool with
  | nil =>
    rw [play, unused] at called
    cases called
  | cons move rest ih =>
    cases move with
    | outside change =>
      have still : { pool with state := change pool.state, past := pool.seen }.calls call = none :=
        unused
      exact List.mem_cons_of_mem _ (ih _ still called)
    | turn other =>
      by_cases same : call = other
      · rw [same]
        exact List.mem_cons_self ..
      · refine List.mem_cons_of_mem _ (ih _ ?_ called)
        rw [turn_other advance start pool other call same, unused]

def Permits (allowed : Pool κ σ P → κ → P → Prop) (advance : P → σ → Option (P × σ))
    (start : κ → P) : List (Move κ σ) → Pool κ σ P → Prop
  | [], _ => True
  | .turn call :: rest, pool =>
    (∀ process, pool.calls call = some process → allowed pool call process) ∧
      Permits allowed advance start rest (turn advance start pool call)
  | .outside change :: rest, pool =>
    Permits allowed advance start rest
      { pool with state := change pool.state, past := pool.seen }

theorem play_append (advance : P → σ → Option (P × σ)) (start : κ → P)
    (first second : List (Move κ σ)) (pool : Pool κ σ P) :
    play advance start (first ++ second) pool =
      play advance start second (play advance start first pool) := by
  induction first generalizing pool with
  | nil => rfl
  | cons move rest ih => cases move <;> exact ih _

theorem permits_append (allowed : Pool κ σ P → κ → P → Prop) (advance : P → σ → Option (P × σ))
    (start : κ → P) (first second : List (Move κ σ)) (pool : Pool κ σ P) :
    Permits allowed advance start (first ++ second) pool ↔
      Permits allowed advance start first pool ∧
        Permits allowed advance start second (play advance start first pool) := by
  induction first generalizing pool with
  | nil => simp [Permits, play]
  | cons move rest ih =>
    cases move with
    | turn call =>
      have later := ih (turn advance start pool call)
      change (_ ∧ _) ↔ (_ ∧ _) ∧ _
      rw [and_assoc]
      exact and_congr_right fun _ => later
    | outside change => exact ih _

theorem permits_any (advance : P → σ → Option (P × σ)) (start : κ → P) (moves : List (Move κ σ))
    (pool : Pool κ σ P) : Permits anyStatement advance start moves pool := by
  induction moves generalizing pool with
  | nil => trivial
  | cons move rest ih =>
    cases move with
    | turn call => exact ⟨fun _ _ => trivial, ih _⟩
    | outside change => exact ih _

theorem permits_turns (call : κ) (turns : Nat) (pool : Pool κ σ P)
    (permitted : ∀ before < turns, ∀ process,
      (play advance start (List.replicate before (.turn call)) pool).calls call = some process →
        allowed (play advance start (List.replicate before (.turn call)) pool) call process) :
    Permits allowed advance start (List.replicate turns (.turn call)) pool := by
  induction turns generalizing pool with
  | zero => trivial
  | succ turns ih =>
    refine ⟨permitted 0 (by omega), ih _ fun before earlier process running => ?_⟩
    exact permitted (before + 1) (by omega) process running

theorem turn_runs (pool : Pool κ σ P) (call : κ)
    (begins : ∀ seen, system.begins seen call (start call))
    (permitted : ∀ process, pool.calls call = some process → allowed pool call process) :
    Run system allowed pool (turn system.advance start pool call) := by
  unfold turn
  split
  next unused => exact .single (.start pool call (start call) unused (begins _))
  next process running =>
    split
    next finished => exact .refl
    next following state advanced =>
      exact .single
        (.statement pool call process following state running (permitted process running) advanced)

theorem turn_run (begins : ∀ seen call, system.begins seen call (start call)) (pool : Pool κ σ P)
    (call : κ) (permitted : ∀ process, pool.calls call = some process → allowed pool call process) :
    Run system allowed pool (turn system.advance start pool call) :=
  turn_runs pool call (fun seen => begins seen call) permitted

theorem play_runs
    (begins : ∀ call, Move.turn call ∈ moves → ∀ seen, system.begins seen call (start call))
    (environment : ∀ change, Move.outside change ∈ moves →
      ∀ state, system.environment state (change state)) (pool : Pool κ σ P)
    (permitted : Permits allowed system.advance start moves pool) :
    Run system allowed pool (play system.advance start moves pool) := by
  induction moves generalizing pool with
  | nil => exact .refl
  | cons move rest ih =>
    have later := ih (fun call member => begins call (List.mem_cons_of_mem _ member))
      fun change member => environment change (List.mem_cons_of_mem _ member)
    cases move with
    | outside change =>
      exact .head (.outside pool _ (environment change (List.mem_cons_self ..) pool.state))
        (later _ permitted)
    | turn call =>
      obtain ⟨now, permitted⟩ := permitted
      exact (turn_runs pool call (begins call (List.mem_cons_self ..)) now).trans
        (later _ permitted)

theorem play_run {start : κ → P} (begins : ∀ seen call, system.begins seen call (start call))
    (moves : List (Move κ σ))
    (environment : ∀ change, Move.outside change ∈ moves →
      ∀ state, system.environment state (change state))
    (pool : Pool κ σ P) (permitted : Permits allowed system.advance start moves pool) :
    Run system allowed pool (play system.advance start moves pool) :=
  play_runs moves (fun call _ seen => begins seen call) environment pool permitted

def map (view : P → Q) (pool : Pool κ σ P) : Pool κ σ Q :=
  { state := pool.state, past := pool.past, calls := fun call => (pool.calls call).map view }

omit [DecidableEq κ] in
@[simp] theorem map_seen (view : P → Q) (pool : Pool κ σ P) : (pool.map view).seen = pool.seen := rfl

theorem map_put (view : P → Q) (pool : Pool κ σ P) (call : κ) (process : P) :
    (fun other => (pool.put call process other).map view) =
      (pool.map view).put call (view process) := by
  funext other
  by_cases same : other = call
  · subst same
    simp
  · simp [put, map, Function.update_of_ne same]

/-- If each call begins and advances as its description does, every run of the calls
is described by a run of the descriptions. -/
theorem Run.lift {source : System κ σ P} {target : System κ σ Q} {view : P → Q}
    (begins : ∀ seen call described, target.begins seen call described →
      ∃ process, source.begins seen call process ∧ view process = described)
    (advances : ∀ process state, target.advance (view process) state =
      (source.advance process state).map fun step => (view step.1, step.2))
    (environment : ∀ state reached, target.environment state reached →
      source.environment state reached)
    {pool : Pool κ σ P} {final : Pool κ σ Q} (run : Run target anyStatement (pool.map view) final) :
    ∃ reached, final = reached.map view ∧ Run source anyStatement pool reached := by
  induction run with
  | refl => exact ⟨pool, rfl, .refl⟩
  | @tail middle final _ stepped ih =>
    obtain ⟨before, rfl, run⟩ := ih
    cases stepped with
    | start call described unused begun =>
      obtain ⟨process, begins, rfl⟩ := begins _ _ _ begun
      have idle : before.calls call = none := by simpa [Pool.map] using unused
      refine ⟨_, ?_, run.tail (.start before call process idle begins)⟩
      rw [← map_put]
      rfl
    | statement call described next state running permitted advanced =>
      obtain ⟨process, found, rfl⟩ := Option.map_eq_some_iff.mp running
      rw [advances] at advanced
      obtain ⟨⟨following, reached⟩, stepped, same⟩ := Option.map_eq_some_iff.mp advanced
      obtain ⟨rfl, rfl⟩ := Prod.mk.injEq .. ▸ same
      refine ⟨_, ?_, run.tail (.statement before call process following reached found trivial stepped)⟩
      rw [← map_put]
      rfl
    | outside state moved =>
      exact ⟨_, rfl, run.tail (.outside before state (environment _ _ moved))⟩

section Upheld

variable {ε α : Type} {begins : List σ → κ → Program σ ε α → Prop} {environment : σ → σ → Prop}

/-- The history satisfies `inv`, and each call upholds it and its own postcondition. -/
def Upheld (inv : List σ → Prop) (post : κ → List σ → Except ε α → Prop)
    (pool : Pool κ σ (Program σ ε α)) : Prop :=
  inv pool.seen ∧
    ∀ call program, pool.calls call = some program → program.Upholds inv (post call) pool.seen

/-- The pool of calls that execute the statements of their programs. -/
def ofPrograms (begins : List σ → κ → Program σ ε α → Prop) (environment : σ → σ → Prop) :
    System κ σ (Program σ ε α) :=
  { advance := Program.advance, begins, environment }

variable {inv : List σ → Prop} {post : κ → List σ → Except ε α → Prop}
  {allowed : Pool κ σ (Program σ ε α) → κ → Program σ ε α → Prop}

theorem Step.upheld (stable : ∀ call result, Program.Stable fun seen => post call seen result)
    (outside : ∀ state past reached, inv (state :: past) → environment state reached →
      inv (reached :: state :: past))
    (upholds : ∀ seen call program, inv seen → begins seen call program →
      program.Upholds inv (post call) seen)
    {pool reached : Pool κ σ (Program σ ε α)} (stepped : Step (ofPrograms begins environment) allowed pool reached)
    (held : Upheld inv post pool) : Upheld inv post reached := by
  obtain ⟨holds, each⟩ := held
  cases stepped with
  | start call program unused begun =>
    exact ⟨holds, pool.put_forall (upholds pool.seen call program holds begun) each⟩
  | statement call program next state running permitted advanced =>
    cases program with
    | done result => cases advanced
    | atomic change continue_ =>
      simp only [ofPrograms, Program.advance, Option.some.injEq, Prod.mk.injEq] at advanced
      obtain ⟨rfl, rfl⟩ := advanced
      obtain ⟨kept, continues⟩ :=
        each call _ running pool.state pool.past (List.suffix_refl _) holds
      refine ⟨kept, pool.put_forall continues fun other program' before => ?_⟩
      exact (each other program' before).later (stable other) (List.suffix_cons _ _)
  | outside state moved =>
    refine ⟨outside pool.state pool.past state holds moved, ?_⟩
    intro call program running
    exact (each call program running).later (stable call) (List.suffix_cons _ _)

/-- The state satisfies `inv`, and each call has only statements left that keep it. -/
def Maintained (inv : σ → Prop) (pool : Pool κ σ (Program σ ε α)) : Prop :=
  inv pool.state ∧ ∀ call program, pool.calls call = some program → program.Maintains inv

theorem Step.maintained {inv : σ → Prop}
    (outside : ∀ state reached, inv state → environment state reached → inv reached)
    (maintains : ∀ seen call program, begins seen call program → program.Maintains inv)
    {pool reached : Pool κ σ (Program σ ε α)}
    (stepped : Step (ofPrograms begins environment) allowed pool reached)
    (held : Maintained inv pool) : Maintained inv reached := by
  obtain ⟨holds, each⟩ := held
  cases stepped with
  | start call program unused begun =>
    exact ⟨holds, pool.put_forall (maintains _ _ _ begun) each⟩
  | statement call program next state running permitted advanced =>
    cases program with
    | done result => cases advanced
    | atomic change continue_ =>
      simp only [ofPrograms, Program.advance, Option.some.injEq, Prod.mk.injEq] at advanced
      obtain ⟨rfl, rfl⟩ := advanced
      obtain ⟨kept, after⟩ := each call _ running pool.state holds
      exact ⟨kept, pool.put_forall after each⟩
  | outside state moved => exact ⟨outside _ _ holds moved, each⟩

theorem Run.maintained {inv : σ → Prop}
    (outside : ∀ state reached, inv state → environment state reached → inv reached)
    (maintains : ∀ seen call program, begins seen call program → program.Maintains inv)
    {pool final : Pool κ σ (Program σ ε α)}
    (run : Run (ofPrograms begins environment) allowed pool final)
    (held : Maintained inv pool) : Maintained inv final :=
  run.invariant (fun _ _ holds stepped => stepped.maintained outside maintains holds) held

/-- If every call upholds `inv` from the moment it begins, then so does any
interleaving, and every finished call has met its postcondition. -/
theorem Run.upheld (stable : ∀ call result, Program.Stable fun seen => post call seen result)
    (outside : ∀ state past reached, inv (state :: past) → environment state reached →
      inv (reached :: state :: past))
    (upholds : ∀ seen call program, inv seen → begins seen call program →
      program.Upholds inv (post call) seen)
    {pool final : Pool κ σ (Program σ ε α)} (run : Run (ofPrograms begins environment) allowed pool final)
    (held : Upheld inv post pool) : Upheld inv post final :=
  run.invariant (fun _ _ holds stepped => stepped.upheld stable outside upholds holds) held

end Upheld

end Pool

end Lib
