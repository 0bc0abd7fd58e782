import Mathlib.Data.List.Sort

set_option autoImplicit false

namespace Lib

variable {α κ : Type} [LinearOrder κ]

def FirstLeast (key : α → κ) (list : List α) (least : α) : Prop :=
  ∃ before after, list = before ++ least :: after ∧
    (∀ other ∈ before, key least < key other) ∧ ∀ other ∈ after, key least ≤ key other

variable {key : α → κ} {list : List α} {least : α}

theorem FirstLeast.mem (first : FirstLeast key list least) : least ∈ list := by
  obtain ⟨before, after, rfl, -, -⟩ := first
  simp

theorem FirstLeast.le (first : FirstLeast key list least) {other : α} (among : other ∈ list) :
    key least ≤ key other := by
  obtain ⟨before, after, rfl, less, least⟩ := first
  rcases List.mem_append.mp among with earlier | later
  · exact (less other earlier).le
  · rcases List.mem_cons.mp later with rfl | later
    · exact le_rfl
    · exact least other later

theorem FirstLeast.unique {another : α} (first : FirstLeast key list least)
    (second : FirstLeast key list another) : least = another := by
  have same : key least = key another := le_antisymm (first.le second.mem) (second.le first.mem)
  obtain ⟨before, after, rfl, less, -⟩ := first
  obtain ⟨before', after', split, less', -⟩ := second
  rcases List.append_eq_append_iff.mp split with ⟨between, rfl, rest⟩ | ⟨between, rfl, rest⟩
  · cases between with
    | nil => exact (List.cons.inj rest).1
    | cons head between =>
      -- The first would stand before the second, with the same key.
      have earlier := less' head (by simp)
      rw [← (List.cons.inj rest).1, same] at earlier
      exact absurd earlier (lt_irrefl _)
  · cases between with
    | nil => exact ((List.cons.inj rest).1).symm
    | cons head between =>
      have earlier := less head (by simp)
      rw [← (List.cons.inj rest).1, same] at earlier
      exact absurd earlier (lt_irrefl _)

theorem firstLeast_cons_self (key : α → κ) (head : α) (list : List α)
    (least : ∀ other ∈ list, key head ≤ key other) : FirstLeast key (head :: list) head :=
  ⟨[], list, rfl, by simp, least⟩

theorem FirstLeast.cons (first : FirstLeast key list least) (head : α)
    (greater : key least < key head) : FirstLeast key (head :: list) least := by
  obtain ⟨before, after, rfl, less, least⟩ := first
  refine ⟨head :: before, after, rfl, ?_, least⟩
  simpa [greater] using less

section Sorting

variable (noMore : α → α → Prop) [DecidableRel noMore]

theorem head?_orderedInsert (head : α) (list : List α) :
    (list.orderedInsert noMore head).head? =
      some (list.head?.elim head fun first => if noMore head first then head else first) := by
  cases list with
  | nil => rfl
  | cons first rest => by_cases less : noMore head first <;> simp [less]

theorem firstLeast_insertionSort (key : α → κ)
    (compares : ∀ left right, noMore left right ↔ key left ≤ key right) (list : List α)
    (least : α) :
    (list.insertionSort noMore).head? = some least ↔ FirstLeast key list least := by
  suffices sorted : ∀ least, (list.insertionSort noMore).head? = some least →
      FirstLeast key list least by
    refine ⟨sorted least, fun first => ?_⟩
    cases front : (list.insertionSort noMore).head? with
    | none =>
      have empty : list.insertionSort noMore = [] := List.head?_eq_none_iff.mp front
      have among : least ∈ list.insertionSort noMore :=
        (List.mem_insertionSort noMore).mpr first.mem
      simp [empty] at among
    | some other => rw [(sorted other front).unique first]
  induction list with
  | nil => simp
  | cons head list ih =>
    intro least front
    rw [List.insertionSort_cons, head?_orderedInsert] at front
    cases rest : (list.insertionSort noMore).head? with
    | none =>
      have empty : list = [] := by
        rw [List.head?_eq_none_iff, ← List.length_eq_zero_iff, List.length_insertionSort] at rest
        exact List.length_eq_zero_iff.mp rest
      simp only [rest, Option.elim, Option.some.injEq] at front
      subst front empty
      exact firstLeast_cons_self key head [] (by simp)
    | some first =>
      have leastOfRest := ih first rest
      simp only [rest, Option.elim, Option.some.injEq] at front
      split_ifs at front with less
      · subst front
        exact firstLeast_cons_self key head list fun other among =>
          ((compares head first).mp less).trans (leastOfRest.le among)
      · subst front
        exact leastOfRest.cons head (not_le.mp fun above => less ((compares ..).mpr above))

theorem head?_insertionSort_none (list : List α) :
    (list.insertionSort noMore).head? = none ↔ list = [] := by
  rw [List.head?_eq_none_iff, ← List.length_eq_zero_iff, List.length_insertionSort,
    List.length_eq_zero_iff]

end Sorting

theorem firstLeast_filter (key : α → κ) (meets : α → Bool) (list : List α) (least : α) :
    FirstLeast key (list.filter meets) least ↔
      ∃ before after, list = before ++ least :: after ∧ meets least = true ∧
        (∀ other ∈ before, meets other = true → key least < key other) ∧
          ∀ other ∈ after, meets other = true → key least ≤ key other := by
  constructor
  · rintro ⟨before, after, split, less, notMore⟩
    obtain ⟨front, rest, rfl, rfl, met⟩ := List.filter_eq_append_iff.mp split
    obtain ⟨skipped, tail, rfl, refused, holds, rfl⟩ := List.filter_eq_cons_iff.mp met
    refine ⟨front ++ skipped, tail, by simp, holds, ?_, ?_⟩
    · intro other among holds
      rcases List.mem_append.mp among with early | passed
      · exact less other (List.mem_filter.mpr ⟨early, holds⟩)
      · exact absurd holds (by simpa using refused other passed)
    · exact fun other among holds => notMore other (List.mem_filter.mpr ⟨among, holds⟩)
  · rintro ⟨before, after, rfl, holds, less, notMore⟩
    refine ⟨before.filter meets, after.filter meets, by simp [holds], ?_, ?_⟩
    · intro other among
      exact less other (List.mem_filter.mp among).1 (List.mem_filter.mp among).2
    · intro other among
      exact notMore other (List.mem_filter.mp among).1 (List.mem_filter.mp among).2

end Lib
