import HelpForge.Lib.Program

set_option autoImplicit false

/-!
# Loops

One pass goes on with a new state or leaves the loop with a result.
-/

namespace Lib

inductive Pass (σ α : Type) where
  | next (state : σ)
  | done (result : α)

namespace Loop

variable {σ α : Type}

def run (body : σ → Pass σ α) : Nat → σ → Option α
  | 0, _ => none
  | passes + 1, state =>
    match body state with
    | .next reached => run body passes reached
    | .done result => some result

variable (body : σ → Pass σ α) (passes : Nat) (state : σ)

theorem run_next (reached : σ) (goesOn : body state = .next reached) :
    run body (passes + 1) state = run body passes reached := by
  simp only [run, goesOn]

theorem run_done (result : α) (leaves : body state = .done result) :
    run body (passes + 1) state = some result := by
  simp only [run, leaves]

variable (inv : σ → Prop)

theorem run_some_of_invariant (post : α → Prop)
    (kept : ∀ state reached, inv state → body state = .next reached → inv reached)
    (ended : ∀ state result, inv state → body state = .done result → post result) (passes : Nat)
    (state : σ) (result : α) (holds : inv state) (returned : run body passes state = some result) :
    post result := by
  induction passes generalizing state with
  | zero => cases returned
  | succ passes ih =>
    cases pass : body state with
    | next reached =>
      rw [run_next body passes state reached pass] at returned
      exact ih reached (kept state reached holds pass) returned
    | done other =>
      rw [run_done body passes state other pass] at returned
      cases returned
      exact ended state result holds pass

theorem run_none_of_invariant
    (goesOn : ∀ state, inv state → ∃ reached, body state = .next reached ∧ inv reached)
    (passes : Nat) (state : σ) (holds : inv state) : run body passes state = none := by
  induction passes generalizing state with
  | zero => rfl
  | succ passes ih =>
    obtain ⟨reached, pass, holds'⟩ := goesOn state holds
    rw [run_next body passes state reached pass]
    exact ih reached holds'

end Loop

namespace Program

variable {σ ε α : Type}

def whileAtMost (again : α → Bool) (body exhausted : α → Program σ ε α) :
    Nat → α → Program σ ε α
  | 0, value => if again value then exhausted value else pure value
  | bound + 1, value =>
    if again value then body value >>= whileAtMost again body exhausted bound else pure value

/-- The loop has gone through its body `count` times, from the first value and state to
the last ones. -/
inductive Passes (again : α → Bool) (body : α → Program σ ε α) (value : α) (state : σ) :
    Nat → α → σ → Prop where
  | start : Passes again body value state 0 value state
  | more {count : Nat} {middle last : α} {reached final : σ}
      (before : Passes again body value state count middle reached)
      (goesOn : again middle = true)
      (pass : (body middle).run reached = (.ok last, final)) :
      Passes again body value state (count + 1) last final

section Passes

variable {again : α → Bool} {body : α → Program σ ε α} {value last : α} {state final : σ}
  {count : Nat}

theorem run_whileAtMost_passes (exhausted : α → Program σ ε α)
    (passes : Passes again body value state count last final) (bound : Nat) :
    (whileAtMost again body exhausted (bound + count) value).run state =
      (whileAtMost again body exhausted bound last).run final := by
  induction passes generalizing bound with
  | start => rfl
  | @more count middle last reached final before goesOn pass ih =>
    have later := ih (bound + 1)
    rw [show bound + (count + 1) = bound + 1 + count by omega, later]
    simp only [whileAtMost, goesOn, if_true, run_bind, pass]

/-- After some passes the loop is left by its condition, by a failure of its body, or
because the bound is reached. -/
theorem run_whileAtMost (again : α → Bool) (body exhausted : α → Program σ ε α) (bound : Nat)
    (value : α) (state : σ) :
    ∃ count last final, count ≤ bound ∧ Passes again body value state count last final ∧
      (again last = false ∧
          (whileAtMost again body exhausted bound value).run state = (.ok last, final) ∨
        again last = true ∧ count < bound ∧ (∃ failure reached,
          (body last).run final = (.error failure, reached) ∧
            (whileAtMost again body exhausted bound value).run state = (.error failure, reached)) ∨
        again last = true ∧ count = bound ∧
          (whileAtMost again body exhausted bound value).run state =
            (exhausted last).run final) := by
  suffices reached : ∀ left count last final, left + count = bound →
      Passes again body value state count last final → _ from
    reached bound 0 value state rfl .start
  intro left
  induction left with
  | zero =>
    intro count last final total passes
    have whole := run_whileAtMost_passes exhausted passes 0
    rw [total] at whole
    refine ⟨count, last, final, by omega, passes, ?_⟩
    cases goesOn : again last
    · left
      simpa [whileAtMost, goesOn] using whole
    · right; right
      exact ⟨rfl, by omega, by simpa [whileAtMost, goesOn] using whole⟩
  | succ left ih =>
    intro count last final total passes
    have whole := run_whileAtMost_passes exhausted passes (left + 1)
    rw [total] at whole
    cases goesOn : again last
    · refine ⟨count, last, final, by omega, passes, .inl ⟨goesOn, ?_⟩⟩
      simpa [whileAtMost, goesOn] using whole
    rcases pass : (body last).run final with ⟨failure | next, after⟩
    · refine ⟨count, last, final, by omega, passes, .inr (.inl ⟨goesOn, by omega, ?_⟩)⟩
      refine ⟨failure, after, pass, ?_⟩
      simpa [whileAtMost, goesOn, run_bind, pass] using whole
    · exact ih (count + 1) next after (by omega) (passes.more goesOn pass)

end Passes

end Program

end Lib
