import Mathlib.Data.List.Basic
import Mathlib.Tactic.Common

set_option autoImplicit false

/-!
# Groups by a key

Each item goes to the first group whose key is its own.
-/

namespace Lib

namespace Grouping

variable {κ α : Type} (same : κ → κ → Bool)

def add (key : κ) (item : α) : List (κ × List α) → List (κ × List α)
  | [] => [(key, [item])]
  | (other, items) :: rest =>
    if same other key then (other, items ++ [item]) :: rest
    else (other, items) :: add key item rest

def group (entries : List (κ × α)) : List (κ × List α) :=
  entries.foldl (fun groups entry => add same entry.1 entry.2 groups) []

def classOf (entries : List (κ × α)) (key : κ) : List α :=
  (entries.filter fun entry => same key entry.1).map Prod.snd

structure Grouped (entries : List (κ × α)) (groups : List (κ × List α)) : Prop where
  whole : ∀ group ∈ groups, group.2 = classOf same entries group.1
  apart : groups.Pairwise fun one other => same one.1 other.1 = false
  covered : ∀ entry ∈ entries, ∃ group ∈ groups, same group.1 entry.1 = true

variable {same}

theorem classOf_append (entries : List (κ × α)) (key other : κ) (item : α) :
    classOf same (entries ++ [(other, item)]) key =
      classOf same entries key ++ if same key other then [item] else [] := by
  rw [classOf, List.filter_append, List.map_append]
  by_cases alike : same key other = true
  · simp [classOf, alike]
  · simp [classOf, alike]

theorem mem_classOf {entries : List (κ × α)} {key : κ} {item : α} :
    item ∈ classOf same entries key ↔ ∃ other, same key other = true ∧ (other, item) ∈ entries := by
  simp [classOf, and_comm]

theorem classOf_congr (symm : ∀ one other, same one other = true → same other one = true)
    (trans : ∀ one middle other, same one middle = true → same middle other = true →
      same one other = true) (entries : List (κ × α)) {one other : κ}
    (alike : same one other = true) : classOf same entries one = classOf same entries other := by
  unfold classOf
  congr 1
  apply List.filter_congr
  intro entry _
  rw [Bool.eq_iff_iff]
  constructor
  · intro first
    exact trans _ _ _ (symm _ _ alike) first
  · intro second
    exact trans _ _ _ alike second

section Add

variable (symm : ∀ one other, same one other = true → same other one = true)
  (trans : ∀ one middle other, same one middle = true → same middle other = true →
    same one other = true)
  {entries : List (κ × α)} {groups : List (κ × List α)} {key : κ} {item : α}

theorem key_of_add {group : κ × List α} (among : group ∈ add same key item groups) :
    group.1 = key ∨ ∃ before ∈ groups, before.1 = group.1 := by
  induction groups with
  | nil =>
    rw [add, List.mem_singleton] at among
    left
    rw [among]
  | cons first rest ih =>
    obtain ⟨other, items⟩ := first
    unfold add at among
    split_ifs at among with here
    · right
      rcases List.mem_cons.mp among with rfl | later
      · exact ⟨(other, items), List.mem_cons_self .., rfl⟩
      · exact ⟨group, List.mem_cons_of_mem _ later, rfl⟩
    · rcases List.mem_cons.mp among with rfl | later
      · exact .inr ⟨(other, items), List.mem_cons_self .., rfl⟩
      · rcases ih later with new | ⟨before, was, named⟩
        · exact .inl new
        · exact .inr ⟨before, List.mem_cons_of_mem _ was, named⟩

theorem covered_add {other : κ} (reflexive : same key key = true)
    (known : other = key ∨ ∃ group ∈ groups, same group.1 other = true) :
    ∃ group ∈ add same key item groups, same group.1 other = true := by
  induction groups with
  | nil =>
    rcases known with rfl | ⟨group, among, -⟩
    · exact ⟨(other, [item]), List.mem_singleton_self _, reflexive⟩
    · cases among
  | cons first rest ih =>
    obtain ⟨name, items⟩ := first
    unfold add
    split_ifs with here
    · rcases known with rfl | ⟨group, among, alike⟩
      · exact ⟨(name, items ++ [item]), List.mem_cons_self .., here⟩
      · rcases List.mem_cons.mp among with rfl | later
        · exact ⟨(name, items ++ [item]), List.mem_cons_self .., alike⟩
        · exact ⟨group, List.mem_cons_of_mem _ later, alike⟩
    · have elsewhere : (other = key ∨ ∃ group ∈ rest, same group.1 other = true) →
          ∃ group ∈ (name, items) :: add same key item rest, same group.1 other = true := by
        intro within
        obtain ⟨group, among, alike⟩ := ih within
        exact ⟨group, List.mem_cons_of_mem _ among, alike⟩
      rcases known with own | ⟨group, among, alike⟩
      · exact elsewhere (.inl own)
      · rcases List.mem_cons.mp among with rfl | later
        · exact ⟨(name, items), List.mem_cons_self .., alike⟩
        · exact elsewhere (.inr ⟨group, later, alike⟩)

theorem apart_add (apart : groups.Pairwise fun one other => same one.1 other.1 = false) :
    (add same key item groups).Pairwise fun one other => same one.1 other.1 = false := by
  induction groups with
  | nil => exact List.pairwise_singleton _ _
  | cons first rest ih =>
    obtain ⟨name, items⟩ := first
    rw [List.pairwise_cons] at apart
    unfold add
    split_ifs with here
    · exact List.pairwise_cons.mpr apart
    · apply List.pairwise_cons.mpr
      constructor
      · intro group among
        rcases key_of_add among with new | ⟨before, was, named⟩
        · rw [new]
          simpa using here
        · rw [← named]
          exact apart.1 before was
      · exact ih apart.2

include symm trans

theorem whole_add (reflexive : same key key = true)
    (whole : ∀ group ∈ groups, group.2 = classOf same entries group.1)
    (apart : groups.Pairwise fun one other => same one.1 other.1 = false)
    (fresh : (∀ group ∈ groups, same group.1 key = false) → classOf same entries key = []) :
    ∀ group ∈ add same key item groups,
      group.2 = classOf same (entries ++ [(key, item)]) group.1 := by
  induction groups with
  | nil =>
    intro group among
    rw [add, List.mem_singleton] at among
    rw [among, classOf_append, fresh nofun, if_pos reflexive]
    rfl
  | cons first rest ih =>
    obtain ⟨name, items⟩ := first
    rw [List.pairwise_cons] at apart
    have items_eq : items = classOf same entries name := whole _ (List.mem_cons_self ..)
    intro group among
    unfold add at among
    split_ifs at among with here
    · rcases List.mem_cons.mp among with rfl | later
      · rw [classOf_append, if_pos here, ← items_eq]
      · -- No later group has a key that is the same.
        have other : same group.1 key = false := by
          rw [← Bool.not_eq_true]
          intro alike
          have both := trans _ _ _ here (symm _ _ alike)
          rw [apart.1 group later] at both
          cases both
        rw [classOf_append, other, whole group (List.mem_cons_of_mem _ later)]
        simp
    · rcases List.mem_cons.mp among with rfl | later
      · rw [classOf_append, if_neg here, List.append_nil]
        exact items_eq
      · apply ih (fun group within => whole group (List.mem_cons_of_mem _ within)) apart.2 _
          group later
        intro none
        apply fresh
        intro group within
        rcases List.mem_cons.mp within with rfl | within
        · simpa using here
        · exact none group within

theorem Grouped.add (grouped : Grouped same entries groups) (reflexive : same key key = true) :
    Grouped same (entries ++ [(key, item)]) (Grouping.add same key item groups) := by
  constructor
  · apply whole_add symm trans reflexive grouped.whole grouped.apart
    intro none
    apply List.eq_nil_iff_forall_not_mem.mpr
    intro other among
    obtain ⟨named, alike, there⟩ := mem_classOf.mp among
    obtain ⟨group, within, covers⟩ := grouped.covered _ there
    have both := trans _ _ _ covers (symm _ _ alike)
    rw [none group within] at both
    cases both
  · exact apart_add grouped.apart
  · intro entry among
    apply covered_add reflexive
    rcases List.mem_append.mp among with before | own
    · exact .inr (grouped.covered entry before)
    · left
      rw [List.mem_singleton.mp own]

theorem grouped (reflexive : ∀ entry ∈ entries, same entry.1 entry.1 = true) :
    Grouped same entries (group same entries) := by
  have general (rest : List (κ × α)) (seen : List (κ × α)) (groups : List (κ × List α))
      (far : Grouped same seen groups) (ours : ∀ entry ∈ rest, same entry.1 entry.1 = true) :
      Grouped same (seen ++ rest)
        (rest.foldl (fun groups entry => Grouping.add same entry.1 entry.2 groups) groups) := by
    induction rest generalizing seen groups with
    | nil => simpa using far
    | cons entry rest ih =>
      have next : Grouped same (seen ++ [(entry.1, entry.2)])
          (Grouping.add same entry.1 entry.2 groups) :=
        far.add symm trans (ours entry (List.mem_cons_self ..))
      have done := ih (seen ++ [entry]) _ next
        fun other later => ours other (List.mem_cons_of_mem _ later)
      simpa using done
  exact general entries [] [] ⟨nofun, List.Pairwise.nil, nofun⟩ reflexive

end Add

end Grouping

end Lib
