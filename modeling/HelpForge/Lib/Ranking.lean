import Mathlib.Data.List.Nodup
import Mathlib.Data.List.Basic
import Mathlib.Order.Basic
import Mathlib.Tactic.Common
import Mathlib.Order.Lattice

set_option autoImplicit false

namespace Lib

section Order

variable {α : Type}

theorem pair_sublist_iff [DecidableEq α] {items : List α} (distinct : items.Nodup) (one other : α) :
    List.Sublist [one, other] items ↔
      other ∈ items ∧ items.idxOf one < items.idxOf other := by
  induction items with
  | nil => simp
  | cons first rest ih =>
    rw [List.nodup_cons] at distinct
    have later := ih distinct.2
    have fresh (item : α) (among : item ∈ rest) : first ≠ item := by
      rintro rfl
      exact distinct.1 among
    constructor
    · intro pair
      cases pair with
      | cons _ pair =>
        obtain ⟨among, before⟩ := later.mp pair
        have there : one ∈ rest := pair.subset (by simp)
        have ones := fresh one there
        have others := fresh other among
        simp [among, ones, others, before]
      | cons_cons _ pair =>
        have among : other ∈ rest := pair.subset (by simp)
        have others := fresh other among
        simp [among, others]
    · rintro ⟨among, before⟩
      have others : first ≠ other := by
        rintro rfl
        simp at before
      have inside : other ∈ rest := by
        simpa [Ne.symm others] using among
      by_cases same : first = one
      · subst same
        simpa using inside
      · apply List.Sublist.cons
        apply later.mpr
        simp [same, others] at before
        exact ⟨inside, before⟩

variable {items : List α}

theorem pair_sublist_total (distinct : items.Nodup) {one other : α} (first : one ∈ items)
    (second : other ∈ items) (apart : one ≠ other) :
    List.Sublist [one, other] items ∨ List.Sublist [other, one] items := by
  classical
  rw [pair_sublist_iff distinct, pair_sublist_iff distinct]
  have places : items.idxOf one ≠ items.idxOf other := by
    intro same
    exact apart ((List.idxOf_inj first).mp same)
  rcases Nat.lt_or_gt_of_ne places with before | after
  · exact .inl ⟨second, before⟩
  · exact .inr ⟨first, after⟩

theorem pair_sublist_asymm (distinct : items.Nodup) {one other : α}
    (forward : List.Sublist [one, other] items) : ¬List.Sublist [other, one] items := by
  classical
  intro back
  have before := ((pair_sublist_iff distinct one other).mp forward).2
  have after := ((pair_sublist_iff distinct other one).mp back).2
  omega

theorem mem_take_iff {before : α → α → Bool}
    (ordered : items.Pairwise fun one other => before one other = true)
    (asymm : ∀ one other, before one other = true → before other one = false) (limit : Nat)
    (item : α) :
    item ∈ items.take limit ↔
      item ∈ items ∧ (items.filter fun other => before other item).length < limit := by
  induction items generalizing limit with
  | nil => simp
  | cons first rest ih =>
    rw [List.pairwise_cons] at ordered
    have irrefl : before first first = false := by
      cases self : before first first with
      | false => rfl
      | true => rw [← self, asymm first first self]
    have none_before : rest.filter (fun other => before other first) = [] := by
      rw [List.filter_eq_nil_iff]
      intro other among
      simp [asymm first other (ordered.1 other among)]
    cases limit with
    | zero => simp
    | succ limit =>
      have counted (among : item ∈ rest) :
          ((first :: rest).filter fun other => before other item).length =
            (rest.filter fun other => before other item).length + 1 := by
        simp [ordered.1 item among]
      rw [List.take_succ_cons, List.mem_cons, List.mem_cons, ih ordered.2 limit]
      constructor
      · rintro (rfl | ⟨among, few⟩)
        · simp [irrefl, none_before]
        · rw [counted among]
          exact ⟨.inr among, by omega⟩
      · rintro ⟨rfl | among, few⟩
        · exact .inl rfl
        · rw [counted among] at few
          exact .inr ⟨among, by omega⟩

end Order

section Score

variable {α β : Type} [LinearOrder β] (score : α → β)

def byScore (items : List α) : List α :=
  items.mergeSort fun one other => score other ≤ score one

def Outranks (items : List α) (one other : α) : Prop :=
  -- Higher, or as high and earlier.
  score other < score one ∨ score other = score one ∧ List.Sublist [one, other] items

variable (items : List α)

theorem byScore_perm : (byScore score items).Perm items :=
  List.mergeSort_perm ..

@[simp] theorem mem_byScore (item : α) : item ∈ byScore score items ↔ item ∈ items :=
  (byScore_perm score items).mem_iff

theorem falling_trans (one two three : α) (first : decide (score two ≤ score one) = true)
    (second : decide (score three ≤ score two) = true) :
    decide (score three ≤ score one) = true := by
  simp only [decide_eq_true_eq] at first second ⊢
  exact second.trans first

theorem falling_total (one two : α) :
    (decide (score two ≤ score one) || decide (score one ≤ score two)) = true := by
  simpa using le_total (score two) (score one)

theorem byScore_falling :
    (byScore score items).Pairwise fun one other => score other ≤ score one := by
  have sorted := List.pairwise_mergeSort (falling_trans score) (falling_total score) items
  exact sorted.imp fun falls => by simpa using falls

theorem byScore_stable {one other : α} (falls : score other ≤ score one)
    (earlier : List.Sublist [one, other] items) :
    List.Sublist [one, other] (byScore score items) := by
  apply List.pair_sublist_mergeSort (falling_trans score) (falling_total score) _ earlier
  simpa using falls

theorem byScore_outranks {items : List α} (distinct : items.Nodup) :
    (byScore score items).Pairwise (Outranks score items) := by
  rw [List.pairwise_iff_forall_sublist]
  intro one other pair
  have sorted : (byScore score items).Nodup := (byScore_perm score items).nodup_iff.mpr distinct
  have falls := List.pairwise_iff_forall_sublist.mp (byScore_falling score items) pair
  rcases falls.lt_or_eq with lower | equal
  · exact .inl lower
  · right
    constructor
    · exact equal
    · have first : one ∈ items := (mem_byScore score items one).mp (pair.subset (by simp))
      have second : other ∈ items := (mem_byScore score items other).mp (pair.subset (by simp))
      have apart : one ≠ other := by
        simpa using sorted.sublist pair
      rcases pair_sublist_total distinct first second apart with forward | back
      · exact forward
      · exfalso
        exact pair_sublist_asymm sorted pair (byScore_stable score items equal.ge back)

end Score

end Lib
