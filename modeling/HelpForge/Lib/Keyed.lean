import Mathlib.Data.List.Induction
import Mathlib.Data.List.Nodup
import Mathlib.Logic.Function.Basic

set_option autoImplicit false

namespace Lib

section Keyed

variable {κ ρ : Type} [DecidableEq κ] (key : ρ → κ)

def keyed (rows : List ρ) : κ → Option ρ :=
  rows.foldl (fun map row => Function.update map (key row) (some row)) fun _ => none

@[simp] theorem keyed_nil (k : κ) : keyed key [] k = none := rfl

variable (rows : List ρ)

theorem foldl_keyed (before : κ → Option ρ) (k : κ) :
    rows.foldl (fun map row => Function.update map (key row) (some row)) before k =
      (keyed key rows k).or (before k) := by
  unfold keyed
  induction rows generalizing before with
  | nil => rfl
  | cons row rest ih =>
    rw [List.foldl_cons, List.foldl_cons, ih, ih (Function.update _ _ _), Option.or_assoc]
    by_cases same : k = key row <;> simp [same]

theorem keyed_cons (row : ρ) (rest : List ρ) (k : κ) :
    keyed key (row :: rest) k =
      (keyed key rest k).or (if key row = k then some row else none) := by
  rw [keyed, List.foldl_cons, foldl_keyed]
  by_cases same : key row = k
  · subst same
    simp
  · simp [same, Ne.symm same]

theorem keyed_append (first second : List ρ) (k : κ) :
    keyed key (first ++ second) k = (keyed key second k).or (keyed key first k) := by
  rw [keyed, List.foldl_append, foldl_keyed]
  rfl

theorem keyed_eq_none_iff (k : κ) : keyed key rows k = none ↔ ∀ row ∈ rows, key row ≠ k := by
  induction rows with
  | nil => simp [keyed]
  | cons row rest ih =>
    rw [keyed_cons, Option.or_eq_none_iff, ih, List.forall_mem_cons, and_comm]
    simp

theorem keyed_eq_find? (unique : (rows.map key).Nodup) (k : κ) :
    keyed key rows k = rows.find? fun row => decide (key row = k) := by
  induction rows with
  | nil => rfl
  | cons row rest ih =>
    rw [List.map_cons, List.nodup_cons] at unique
    rw [keyed_cons, List.find?_cons]
    by_cases same : key row = k
    · have later : keyed key rest k = none := by
        rw [keyed_eq_none_iff]
        intro other member alike
        exact unique.1 (List.mem_map.mpr ⟨other, member, alike.trans same.symm⟩)
      simp [same, later]
    · simp [same, ih unique.2]

theorem keyed_filter (rows : List ρ) (keep : ρ → Bool) (k : κ)
    (kept : ∀ row ∈ rows, key row = k → keep row = true) :
    keyed key (rows.filter keep) k = keyed key rows k := by
  induction rows with
  | nil => rfl
  | cons row rest ih =>
    have later := ih fun other member => kept other (List.mem_cons_of_mem _ member)
    by_cases keeps : keep row = true
    · rw [List.filter_cons_of_pos keeps, keyed_cons, keyed_cons, later]
    · have other : key row ≠ k := fun same => keeps (kept row List.mem_cons_self same)
      rw [List.filter_cons_of_neg keeps, keyed_cons, later]
      simp [other]

end Keyed

theorem nodup_eraseDups {α : Type} [DecidableEq α] (items : List α) : items.eraseDups.Nodup := by
  induction size : items.length using Nat.strongRecOn generalizing items with
  | _ size' ih =>
    cases items with
    | nil => exact List.nodup_nil
    | cons item rest =>
      have smaller : (rest.filter fun other => !other == item).length < size' := by
        have bound := List.length_filter_le (fun other => !other == item) rest
        rw [List.length_cons] at size
        omega
      rw [List.eraseDups_cons, List.nodup_cons]
      constructor
      · rw [List.mem_eraseDups, List.mem_filter]
        simp
      · exact ih _ smaller _ rfl

theorem eraseDups_of_nodup {α : Type} [DecidableEq α] {items : List α} (once : items.Nodup) :
    items.eraseDups = items := by
  induction items with
  | nil => rfl
  | cons item rest ih =>
    obtain ⟨new, later⟩ := List.nodup_cons.mp once
    have kept : (rest.filter fun other => !other == item) = rest := by
      refine List.filter_eq_self.mpr fun other member => ?_
      simpa using fun same : other = item => new (same ▸ member)
    rw [List.eraseDups_cons, kept, ih later]

/-! ### Journals -/

section Journal

variable {κ ν : Type} [DecidableEq κ]

def latest (key : κ) (journal : List (κ × ν)) : Option ν :=
  ((journal.filter fun entry => entry.1 = key).getLast?).map Prod.snd

variable (key : κ)

theorem latest_append_self (value : ν) (journal : List (κ × ν)) :
    latest key (journal ++ [(key, value)]) = some value := by
  simp [latest]

theorem latest_append_of_ne (key : κ) (journal later : List (κ × ν))
    (other : ∀ entry ∈ later, entry.1 ≠ key) : latest key (journal ++ later) = latest key journal := by
  have none : later.filter (fun entry => entry.1 = key) = [] := by
    simpa [List.filter_eq_nil_iff] using other
  simp [latest, none]

theorem latest_filter (keep : κ → Bool) (kept : keep key = true) (journal : List (κ × ν)) :
    latest key (journal.filter fun entry => keep entry.1) = latest key journal := by
  have same : (journal.filter fun entry => keep entry.1).filter (fun entry => entry.1 = key) =
      journal.filter fun entry => entry.1 = key := by
    rw [List.filter_filter]
    refine List.filter_congr fun entry _ => ?_
    by_cases hit : entry.1 = key
    · simp [hit, kept]
    · simp [hit]
  rw [latest, latest, same]

theorem latest_of_absent (journal : List (κ × ν)) (absent : ∀ entry ∈ journal, entry.1 ≠ key) :
    latest key journal = none := by
  have none := latest_append_of_ne key [] journal absent
  simpa [latest] using none

theorem latest_append (entry : κ × ν) (journal : List (κ × ν)) :
    latest key (journal ++ [entry]) =
      if entry.1 = key then some entry.2 else latest key journal := by
  by_cases same : entry.1 = key <;> simp [latest, same]

variable {key} {value : ν} {journal : List (κ × ν)}

theorem mem_of_latest (last : latest key journal = some value) : (key, value) ∈ journal := by
  obtain ⟨entry, found, rfl⟩ := Option.map_eq_some_iff.mp last
  obtain ⟨among, here⟩ := List.mem_filter.mp (List.mem_of_getLast? found)
  have same : entry.1 = key := by simpa using here
  rw [← same]
  exact among

theorem exists_latest (among : (key, value) ∈ journal) :
    ∃ last, latest key journal = some last := by
  have inside : (key, value) ∈ journal.filter fun entry => entry.1 = key := by simpa using among
  cases found : (journal.filter fun entry => entry.1 = key).getLast? with
  | none =>
    rw [List.getLast?_eq_none_iff.mp found] at inside
    cases inside
  | some entry => exact ⟨entry.2, by rw [latest, found]; rfl⟩

theorem latest_rekeyed {ι : Type} [DecidableEq ι] (rekey : κ → ι) {place : ι}
    (last : latest place (journal.map fun entry => (rekey entry.1, entry.2)) = some value) :
    ∃ key, rekey key = place ∧ latest key journal = some value := by
  induction journal using List.reverseRecOn with
  | nil => simp [latest] at last
  | append_singleton journal entry ih =>
    rw [List.map_append, List.map_singleton, latest_append] at last
    split_ifs at last with here
    · exact ⟨entry.1, here, by rw [latest_append, if_pos rfl, last]⟩
    · obtain ⟨key, placed, before⟩ := ih last
      refine ⟨key, placed, ?_⟩
      rw [latest_append, if_neg, before]
      rintro rfl
      exact here placed

end Journal

/-! ### Rows of one owner -/

section OwnRows

variable {α : Type} {own : α → Prop} {rows : List α}

/-- The rows that are `own` are the same ones before and after. -/
def SameRows (own : α → Prop) (before after : List α) : Prop :=
  ∀ row, own row → (row ∈ after ↔ row ∈ before)

theorem SameRows.refl (own : α → Prop) (rows : List α) : SameRows own rows rows :=
  fun _ _ => Iff.rfl

theorem SameRows.trans {first second third : List α} (one : SameRows own first second)
    (other : SameRows own second third) : SameRows own first third :=
  fun row mine => (other row mine).trans (one row mine)

variable {added : List α}

theorem SameRows.append (foreign : ∀ row ∈ added, ¬own row) :
    SameRows own rows (rows ++ added) := by
  intro row mine
  have old : row ∉ added := fun member => foreign row member mine
  simp [old]

theorem SameRows.filter {keep : α → Bool} (kept : ∀ row ∈ rows, own row → keep row = true) :
    SameRows own rows (rows.filter keep) := by
  intro row mine
  rw [List.mem_filter]
  exact ⟨fun member => member.1, fun member => ⟨member, kept row member mine⟩⟩

theorem sameRows_map_iff {change : α → α} (settles : ∀ row ∈ rows, change (change row) = change row)
    (owner : ∀ row ∈ rows, own (change row) ↔ own row) :
    SameRows own rows (rows.map change) ↔ ∀ row ∈ rows, own row → change row = row := by
  constructor
  · intro same row member mine
    obtain ⟨old, before, rfl⟩ := List.mem_map.mp ((same row mine).mpr member)
    exact settles old before
  · intro still row mine
    rw [List.mem_map]
    constructor
    · rintro ⟨old, before, rfl⟩
      rw [still old before ((owner old before).mp mine)]
      exact before
    · intro member
      exact ⟨row, member, still row member mine⟩

theorem not_sameRows_append (row : α) (mine : own row) (new : row ∈ added) (absent : row ∉ rows) :
    ¬SameRows own rows (rows ++ added) := by
  intro same
  have before := (same row mine).mp (List.mem_append_right rows new)
  exact absent before

end OwnRows

end Lib
