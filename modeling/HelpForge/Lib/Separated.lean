import Mathlib.Tactic.Common

set_option autoImplicit false

/-!
# Fields and a separator

The separator determines both fields as soon as one of them cannot contain it.
-/

namespace Lib

variable {α : Type} (separator : α) (first : List α)

theorem cut_at_first (second rest rest' : List α) (clear : separator ∉ first)
    (clear' : separator ∉ second)
    (joined : first ++ separator :: rest = second ++ separator :: rest') :
    first = second ∧ rest = rest' := by
  induction first generalizing second with
  | nil =>
    cases second with
    | nil => exact ⟨rfl, List.cons.inj joined |>.2⟩
    | cons head tail =>
      have same : separator = head := (List.cons.inj joined).1
      exact absurd (same ▸ List.mem_cons_self ..) clear'
  | cons head tail ih =>
    cases second with
    | nil =>
      have same : head = separator := (List.cons.inj joined).1
      exact absurd (same ▸ List.mem_cons_self ..) clear
    | cons head' tail' =>
      obtain ⟨heads, tails⟩ := List.cons.inj joined
      obtain ⟨same, rests⟩ := ih tail' (fun member => clear (List.mem_cons_of_mem _ member))
        (fun member => clear' (List.mem_cons_of_mem _ member)) tails
      exact ⟨by rw [heads, same], rests⟩

theorem cut_at_last (second rest rest' : List α) (clear : separator ∉ rest)
    (clear' : separator ∉ rest')
    (joined : first ++ separator :: rest = second ++ separator :: rest') :
    first = second ∧ rest = rest' := by
  have reversed := congrArg List.reverse joined
  simp only [List.reverse_append, List.reverse_cons, List.append_assoc, List.singleton_append]
    at reversed
  obtain ⟨same, firsts⟩ := cut_at_first separator rest.reverse rest'.reverse first.reverse
    second.reverse (by simpa using clear) (by simpa using clear') reversed
  exact ⟨List.reverse_inj.mp firsts, List.reverse_inj.mp same⟩

/-- The text before the last separator and the text after it; `rsplit` with one cut. -/
def splitLast [DecidableEq α] (separator : α) (text : List α) : Option (List α × List α) :=
  match text.reverse.dropWhile (· != separator) with
  | [] => none
  | _ :: before => some (before.reverse, (text.reverse.takeWhile (· != separator)).reverse)

theorem splitLast_joined [DecidableEq α] (separator : α) (first rest : List α)
    (clear : separator ∉ rest) :
    splitLast separator (first ++ separator :: rest) = some (first, rest) := by
  have others : ∀ item ∈ rest.reverse, (item != separator) = true := by
    intro item member
    have inside := List.mem_reverse.mp member
    simpa using fun same : item = separator => clear (same ▸ inside)
  have backwards : (first ++ separator :: rest).reverse =
      rest.reverse ++ separator :: first.reverse := by simp
  unfold splitLast
  rw [backwards, List.dropWhile_append_of_pos others, List.takeWhile_append_of_pos others]
  simp

theorem end_of_joined_iff (rest other : List α) (clear : separator ∉ rest)
    (clear' : separator ∉ other) :
    separator :: other <:+ first ++ separator :: rest ↔ other = rest := by
  constructor
  · rintro ⟨before, same⟩
    exact (cut_at_last separator before first other rest clear' clear same).2
  · rintro rfl
    exact List.suffix_append ..

def Shifted (separator : α) (first rest second rest' : List α) : Prop :=
  ∃ middle, second = first ++ separator :: middle ∧ rest = middle ++ separator :: rest'

theorem Shifted.joined {separator : α} {first rest second rest' : List α}
    (shifted : Shifted separator first rest second rest') :
    first ++ separator :: rest = second ++ separator :: rest' := by
  obtain ⟨middle, rfl, rfl⟩ := shifted
  simp

theorem joined_alike_iff (second rest rest' : List α) :
    first ++ separator :: rest = second ++ separator :: rest' ↔
      (first = second ∧ rest = rest') ∨ Shifted separator first rest second rest' ∨
        Shifted separator second rest' first rest := by
  constructor
  · intro joined
    rcases List.append_eq_append_iff.mp joined with ⟨more, rfl, tail⟩ | ⟨more, rfl, tail⟩
    · cases more with
      | nil => exact .inl ⟨by simp, (List.cons.inj tail).2⟩
      | cons head middle =>
        obtain ⟨rfl, same⟩ := List.cons.inj tail
        exact .inr (.inl ⟨middle, rfl, same⟩)
    · cases more with
      | nil => exact .inl ⟨by simp, (List.cons.inj tail).2.symm⟩
      | cons head middle =>
        obtain ⟨rfl, same⟩ := List.cons.inj tail
        exact .inr (.inr ⟨middle, rfl, same⟩)
  · rintro (⟨rfl, rfl⟩ | shifted | shifted)
    · rfl
    · exact shifted.joined
    · exact shifted.joined.symm

theorem start_of_joined_iff (start first rest : List α) (clear : separator ∉ start) :
    start <+: first ++ separator :: rest ↔ start <+: first := by
  induction first generalizing start with
  | nil =>
    cases start with
    | nil => simp
    | cons head tail =>
      have apart : head ≠ separator := fun same => clear (same ▸ List.mem_cons_self ..)
      simp [List.cons_prefix_cons, apart]
  | cons next first ih =>
    cases start with
    | nil => simp
    | cons head tail =>
      have later : separator ∉ tail := fun member => clear (List.mem_cons_of_mem _ member)
      simp only [List.cons_append, List.cons_prefix_cons, ih tail later]

theorem mem_splitOn [DecidableEq α] {separator item : α} {text : List α} (member : item ∈ text)
    (other : item ≠ separator) : ∃ part ∈ text.splitOn separator, item ∈ part := by
  induction text with
  | nil => cases member
  | cons head tail ih =>
    rw [List.splitOn_cons_eq_if_modifyHead]
    by_cases cut : head = separator
    · have later : item ∈ tail := by
        rcases List.mem_cons.mp member with same | later
        · exact absurd (same.trans cut) other
        · exact later
      obtain ⟨part, found, inside⟩ := ih later
      simp only [cut, beq_self_eq_true, if_true]
      exact ⟨part, List.mem_cons_of_mem _ found, inside⟩
    · simp only [beq_iff_eq, cut, if_false]
      cases parts : tail.splitOn separator with
      | nil => exact absurd parts (List.splitOn_ne_nil separator tail)
      | cons first rest =>
        rw [parts] at ih
        simp only [List.modifyHead_cons]
        rcases List.mem_cons.mp member with same | later
        · exact ⟨head :: first, List.mem_cons_self .., same ▸ List.mem_cons_self ..⟩
        · obtain ⟨part, found, inside⟩ := ih later
          rcases List.mem_cons.mp found with rfl | further
          · exact ⟨head :: part, List.mem_cons_self .., List.mem_cons_of_mem _ inside⟩
          · exact ⟨part, List.mem_cons_of_mem _ further, inside⟩

end Lib
