import Mathlib.Tactic.Common

set_option autoImplicit false

/-!
# Requests that leave nothing behind

What a silent request leaves is alike, for every later request, to what it has found.
-/

namespace Lib

variable {α β σ : Type}

def answers (step : σ → α → β × σ) : σ → List α → List β
  | _, [] => []
  | state, request :: rest =>
    (step state request).1 :: answers step (step state request).2 rest

/-- A run in which each request with the mark is one that `silent` holds of. -/
def Marked (step : σ → α → β × σ) (silent : σ → α → Prop) : σ → List (α × Bool) → Prop
  | _, [] => True
  | state, (request, marked) :: rest =>
    (marked = true → silent state request) ∧ Marked step silent (step state request).2 rest

variable {step : σ → α → β × σ} {silent : σ → α → Prop}

theorem Marked.mono {weaker : σ → α → Prop}
    (implied : ∀ state request, silent state request → weaker state request) {state : σ}
    {requests : List (α × Bool)} (marks : Marked step silent state requests) :
    Marked step weaker state requests := by
  induction requests generalizing state with
  | nil => trivial
  | cons first rest ih => exact ⟨fun marked => implied _ _ (marks.1 marked), ih marks.2⟩

/-- `alike request` relates states that no request from `request` on tells apart. -/
structure Unseen (step : σ → α → β × σ) (before : α → α → Prop) (silent : σ → α → Prop)
    (alike : α → σ → σ → Prop) : Prop where
  refl : ∀ request state, alike request state state
  trans : ∀ request state other third, alike request state other → alike request other third →
    alike request state third
  later : ∀ request next state other, before request next → alike request state other →
    alike next state other
  answered : ∀ request state other, alike request state other →
    (step state request).1 = (step other request).1
  keeps : ∀ request state other, alike request state other →
    alike request (step state request).2 (step other request).2
  passes : ∀ request state, silent state request → alike request (step state request).2 state

/-- The answers to the requests without the mark. -/
def answersOthers (step : σ → α → β × σ) (state : σ) (requests : List (α × Bool)) : List β :=
  ((requests.zip (answers step state (requests.map Prod.fst))).filter fun pair =>
    !pair.1.2).map Prod.snd

theorem Unseen.without_alike {before : α → α → Prop} {alike : α → σ → σ → Prop}
    (unseen : Unseen step before silent alike) (requests : List (α × Bool)) (state other : σ)
    (ordered : (requests.map Prod.fst).Pairwise before) (marks : Marked step silent state requests)
    (same : ∀ request ∈ requests.map Prod.fst, alike request state other) :
    answersOthers step state requests =
      answers step other ((requests.filter fun request => !request.2).map Prod.fst) := by
  induction requests generalizing state other with
  | nil => rfl
  | cons first rest ih =>
    obtain ⟨request, marked⟩ := first
    simp only [List.map_cons, List.pairwise_cons, List.mem_cons, forall_eq_or_imp]
      at ordered same
    obtain ⟨silent_, marks⟩ := marks
    cases marked with
    | true =>
      -- only the full run takes this step
      have passed := unseen.passes request state (silent_ rfl)
      have alike_ := unseen.trans _ _ _ _ passed same.1
      have others := ih (step state request).2 other ordered.2 marks fun next member =>
        unseen.later _ _ _ _ (ordered.1 next member) alike_
      simpa [answersOthers, answers] using others
    | false =>
      have alike_ := unseen.keeps request state other same.1
      have others := ih (step state request).2 (step other request).2 ordered.2 marks
        fun next member => unseen.later _ _ _ _ (ordered.1 next member) alike_
      have first := unseen.answered request state other same.1
      simpa [answersOthers, answers, first] using others

theorem Unseen.without {step : σ → α → β × σ} {before : α → α → Prop} {silent : σ → α → Prop}
    {alike : α → σ → σ → Prop} (unseen : Unseen step before silent alike)
    (requests : List (α × Bool)) (state : σ) (ordered : (requests.map Prod.fst).Pairwise before)
    (marks : Marked step silent state requests) :
    answersOthers step state requests =
      answers step state ((requests.filter fun request => !request.2).map Prod.fst) :=
  unseen.without_alike requests state state ordered marks fun request _ =>
    unseen.refl request state

end Lib
