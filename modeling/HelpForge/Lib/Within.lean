import HelpForge.Lib.History

set_option autoImplicit false

namespace Lib

variable {σ ε α β : Type} {count : Nat} {rest : α → Program σ ε β} {program : Program σ ε α}
  {more : Nat}

namespace Program

def Within : Nat → Program σ ε α → Prop
  | _, done _ => True
  | 0, atomic _ _ => False
  | count + 1, atomic _ next => ∀ state, (next state).Within count

theorem Within.done (count : Nat) (result : Except ε α) :
    (Program.done result : Program σ ε α).Within count := by
  cases count <;> trivial

theorem Within.pure (count : Nat) (value : α) :
    (Pure.pure value : Program σ ε α).Within count :=
  Within.done count _

theorem Within.reads_bind {view : σ → α} (continued : ∀ value, (rest value).Within count) :
    (Program.reads view >>= rest).Within (count + 1) :=
  fun state => continued (view state)

theorem Within.modify_bind {change : σ → σ} {rest : Unit → Program σ ε β}
    (continued : (rest ()).Within count) : (Program.modify change >>= rest).Within (count + 1) :=
  fun _ => continued

theorem Within.mono (within : program.Within count) (bound : count ≤ more) :
    program.Within more := by
  induction program generalizing count more with
  | done result => exact Within.done more result
  | atomic change next ih =>
    cases count with
    | zero => exact within.elim
    | succ count =>
      cases more with
      | zero => omega
      | succ more =>
        intro state
        exact ih state (within state) (by omega)

theorem Within.bind {first : Program σ ε α} (started : first.Within count)
    (continued : ∀ value, (rest value).Within more) : (first >>= rest).Within (count + more) := by
  change (first.bind rest).Within (count + more)
  induction first generalizing count with
  | done result =>
    cases result with
    | error failure => exact Within.done _ _
    | ok value => exact (continued value).mono (by omega)
  | atomic change next ih =>
    cases count with
    | zero => exact started.elim
    | succ count =>
      rw [Nat.succ_add]
      intro state
      exact ih state (started state)

end Program

namespace Pool

variable {κ : Type} [DecidableEq κ]

def turnsOf (call : κ) : List (Move κ σ) → Nat
  | [] => 0
  | .turn other :: rest => (if other = call then 1 else 0) + turnsOf call rest
  | .outside _ :: rest => turnsOf call rest

theorem turn_advance {start : κ → Program σ ε α} (pool : Pool κ σ (Program σ ε α)) (call : κ)
    {program : Program σ ε α} {count : Nat} (running : pool.calls call = some program)
    (within : program.Within (count + 1)) :
    ∃ next, (turn Program.advance start pool call).calls call = some next ∧ next.Within count := by
  cases program with
  | done result =>
    refine ⟨.done result, ?_, Program.Within.done count result⟩
    simp [turn, running, Program.advance]
  | atomic change next =>
    refine ⟨next pool.state, ?_, within pool.state⟩
    simp [turn, running, Program.advance]

variable {start : κ → Program σ ε α} (moves : List (Move κ σ)) (pool : Pool κ σ (Program σ ε α))
  (call : κ)

theorem play_within (running : pool.calls call = some program) (within : program.Within count)
    (enough : count ≤ turnsOf call moves) :
    ∃ result, (play Program.advance start moves pool).calls call = some (.done result) := by
  induction moves generalizing pool program count with
  | nil =>
    have none_left : count = 0 := by simpa [turnsOf] using enough
    subst none_left
    cases program with
    | done result => exact ⟨result, running⟩
    | atomic change next => exact within.elim
  | cons move rest ih =>
    cases move with
    | outside change => exact ih _ running within enough
    | turn other =>
      by_cases same : other = call
      · subst same
        have fewer : count - 1 ≤ turnsOf other rest := by
          simp only [turnsOf, if_true] at enough
          omega
        obtain ⟨next, advanced, left⟩ := @turn_advance σ ε α κ _ start pool other program
          (count - 1) running (within.mono (by omega))
        exact ih _ advanced left fewer
      · have kept := turn_other Program.advance start pool other call (Ne.symm same)
        have enough' : count ≤ turnsOf call rest := by simpa [turnsOf, same] using enough
        exact ih _ (kept.trans running) within enough'

theorem play_done (unused : pool.calls call = none) (within : (start call).Within count)
    (enough : count < turnsOf call moves) :
    ∃ result, (play Program.advance start moves pool).calls call = some (.done result) := by
  induction moves generalizing pool with
  | nil => cases enough
  | cons move rest ih =>
    cases move with
    | outside change => exact ih _ unused enough
    | turn other =>
      by_cases same : other = call
      · subst same
        have begun : (turn Program.advance start pool other).calls other = some (start other) := by
          simp [turn, unused]
        have enough' : count ≤ turnsOf other rest := by
          simp only [turnsOf, if_true] at enough
          omega
        exact play_within rest _ other begun within enough'
      · have kept := turn_other Program.advance start pool other call (Ne.symm same)
        have enough' : count < turnsOf call rest := by simpa [turnsOf, same] using enough
        exact ih _ (kept.trans unused) enough'

end Pool

end Lib
