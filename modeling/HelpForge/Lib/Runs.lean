import Mathlib.Logic.Basic

set_option autoImplicit false

namespace Lib.Machine

variable {σ ε : Type} (step : σ → ε → σ)

def run (state : σ) (events : List ε) : σ := events.foldl step state

/-- Every event of the run keeps to the rule in the state that it meets. -/
def Throughout (rule : σ → ε → Prop) : σ → List ε → Prop
  | _, [] => True
  | state, event :: events => rule state event ∧ Throughout rule (step state event) events

@[simp] theorem run_nil (state : σ) : run step state [] = state := rfl

@[simp] theorem run_cons (state : σ) (event : ε) (events : List ε) :
    run step state (event :: events) = run step (step state event) events := rfl

theorem run_append (state : σ) (first second : List ε) :
    run step state (first ++ second) = run step (run step state first) second :=
  List.foldl_append

instance decidableThroughout (rule : σ → ε → Prop) [∀ state event, Decidable (rule state event)]
    (state : σ) (events : List ε) : Decidable (Throughout step rule state events) :=
  match events with
  | [] => .isTrue trivial
  | event :: events =>
    have := decidableThroughout rule (step state event) events
    inferInstanceAs (Decidable (rule state event ∧ Throughout step rule (step state event) events))

variable {step} {inv : σ → Prop} {condition rule : σ → ε → Prop} {state : σ}

theorem run_of_invariant (kept : ∀ state event, inv state → inv (step state event))
    (holds : inv state) (events : List ε) : inv (run step state events) := by
  induction events generalizing state with
  | nil => exact holds
  | cons event events ih => exact ih (kept state event holds)

variable {events : List ε}

theorem Throughout.of_invariant
    (kept : ∀ state event, inv state → condition state event →
      rule state event ∧ inv (step state event)) (holds : inv state)
    (met : Throughout step condition state events) : Throughout step rule state events := by
  induction events generalizing state with
  | nil => trivial
  | cons event events ih =>
    have now := kept state event holds met.1
    exact ⟨now.1, ih now.2 met.2⟩

theorem Throughout.weaken (weaker : ∀ state event, condition state event → rule state event)
    (met : Throughout step condition state events) : Throughout step rule state events := by
  induction events generalizing state with
  | nil => trivial
  | cons event events ih => exact ⟨weaker state event met.1, ih met.2⟩

/-- Where rule and condition come to the same in every state of the invariant, which the rule keeps,
they come to the same throughout. -/
theorem throughout_iff_of_invariant
    (alike : ∀ state event, inv state → (rule state event ↔ condition state event))
    (kept : ∀ state event, inv state → rule state event → inv (step state event)) (events : List ε)
    (holds : inv state) :
    Throughout step rule state events ↔ Throughout step condition state events := by
  induction events generalizing state with
  | nil => rfl
  | cons event events ih =>
    have now := alike state event holds
    constructor
    · intro ruled
      exact ⟨now.mp ruled.1, (ih (kept state event holds ruled.1)).mp ruled.2⟩
    · intro met
      have ruled := now.mpr met.1
      exact ⟨ruled, (ih (kept state event holds ruled)).mpr met.2⟩

theorem throughout_append (state : σ) (first second : List ε) :
    Throughout step rule state (first ++ second) ↔
      Throughout step rule state first ∧ Throughout step rule (run step state first) second := by
  induction first generalizing state with
  | nil => simp [Throughout]
  | cons event first ih => simp [Throughout, ih, and_assoc]

end Lib.Machine
