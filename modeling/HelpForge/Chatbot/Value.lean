import Mathlib.Data.List.Nodup
import Mathlib.Data.Rat.Defs
import Mathlib.Tactic.Common
import Mathlib.Algebra.Group.Nat.Defs

set_option autoImplicit false

namespace HelpForge.Chatbot

abbrev Dict (α : Type) := List (String × α)

variable {β : Type}

namespace Dict

variable {α : Type}

def put (entries : Dict α) (key : String) (value : α) : Dict α :=
  match entries with
  | [] => [(key, value)]
  | (other, old) :: rest =>
    if other = key then (key, value) :: rest else (other, old) :: put rest key value

def setdefault (entries : Dict α) (key : String) (value : α) : Dict α :=
  if (entries.lookup key).isSome then entries else put entries key value

/-- `{**entries, **later}`. -/
def merge (entries later : Dict α) : Dict α :=
  later.foldl (fun merged entry => put merged entry.1 entry.2) entries

theorem lookup_entry (key other : String) (value : α) (rest : Dict α) :
    List.lookup other ((key, value) :: rest) =
      if other = key then some value else rest.lookup other := by
  by_cases same : other = key
  · simp [same]
  · have differs : (other == key) = false := by simpa using same
    simp [List.lookup_cons, differs, same]

variable (entries : Dict α) (key : String) (value : α)

theorem mem_of_lookup (found : entries.lookup key = some value) : (key, value) ∈ entries := by
  obtain ⟨before, after, rfl, -⟩ := List.lookup_eq_some_iff.mp found
  simp

theorem lookup_of_mem (distinct : (entries.map Prod.fst).Nodup) (entry : String × α)
    (among : entry ∈ entries) : entries.lookup entry.1 = some entry.2 := by
  induction entries with
  | nil => cases among
  | cons first rest ih =>
    rw [List.map_cons, List.nodup_cons] at distinct
    rcases List.mem_cons.mp among with rfl | later
    · rw [lookup_entry, if_pos rfl]
    · have apart : entry.1 ≠ first.1 := by
        intro same
        exact distinct.1 (same ▸ List.mem_map_of_mem later)
      rw [lookup_entry, if_neg apart, ih distinct.2 later]

variable (other : String)

theorem lookup_put (value : α) :
    (put entries key value).lookup other =
      if other = key then some value else entries.lookup other := by
  induction entries with
  | nil => rw [put, lookup_entry]
  | cons entry rest ih =>
    obtain ⟨head, old⟩ := entry
    by_cases replaced : head = key
    · rw [put, if_pos replaced, lookup_entry, lookup_entry, replaced]
      by_cases same : other = key <;> simp [same]
    · rw [put, if_neg replaced, lookup_entry, lookup_entry, ih]
      by_cases same : other = head
      · simp [same, replaced]
      · simp [same]

theorem keys_put :
    (put entries key value).map Prod.fst =
      if key ∈ entries.map Prod.fst then entries.map Prod.fst
      else entries.map Prod.fst ++ [key] := by
  induction entries with
  | nil => rfl
  | cons entry rest ih =>
    obtain ⟨head, old⟩ := entry
    by_cases replaced : head = key
    · simp [put, replaced]
    · rw [put, if_neg replaced, List.map_cons, ih]
      by_cases later : key ∈ rest.map Prod.fst
      · simp [later]
      · simp [later, Ne.symm replaced]

theorem lookup_setdefault (value : α) :
    (setdefault entries key value).lookup other =
      if other = key then some ((entries.lookup key).getD value) else entries.lookup other := by
  unfold setdefault
  by_cases same : other = key
  · subst same
    cases present : entries.lookup other <;> simp [present, lookup_put]
  · split_ifs
    · rfl
    · rw [lookup_put, if_neg same]

theorem put_of_absent (absent : key ∉ entries.map Prod.fst) :
    put entries key value = entries ++ [(key, value)] := by
  induction entries with
  | nil => rfl
  | cons entry rest ih =>
    obtain ⟨head, old⟩ := entry
    rw [List.map_cons, List.mem_cons, not_or] at absent
    rw [put, if_neg (Ne.symm absent.1), ih absent.2]
    rfl

variable (entry : String × α)

theorem mem_put (among : entry ∈ put entries key value) :
    entry ∈ entries ∨ entry = (key, value) := by
  induction entries with
  | nil => exact .inr (List.mem_singleton.mp among)
  | cons first rest ih =>
    obtain ⟨head, old⟩ := first
    unfold put at among
    split_ifs at among with replaced
    · rcases List.mem_cons.mp among with same | later
      · exact .inr same
      · exact .inl (List.mem_cons_of_mem _ later)
    · rcases List.mem_cons.mp among with same | later
      · exact .inl (same ▸ List.mem_cons_self ..)
      · exact (ih later).imp_left (List.mem_cons_of_mem _)

theorem put_alike (present : key ∈ entries.map Prod.fst)
    (alike : ∀ other, (key, other) ∈ entries → other = value) :
    put entries key value = entries := by
  -- To put what is there already changes nothing.
  induction entries with
  | nil => cases present
  | cons entry rest ih =>
    obtain ⟨head, old⟩ := entry
    by_cases replaced : head = key
    · obtain rfl := alike old (replaced ▸ List.mem_cons_self ..)
      rw [put, if_pos replaced, replaced]
    · rw [List.map_cons, List.mem_cons] at present
      have later := present.resolve_left (Ne.symm replaced)
      rw [put, if_neg replaced,
        ih later fun other member => alike other (List.mem_cons_of_mem _ member)]

theorem merge_cons (later : Dict α) :
    merge entries (entry :: later) = merge (put entries entry.1 entry.2) later := rfl

variable (later : Dict α)

theorem merge_new (distinct : (later.map Prod.fst).Nodup)
    (unused : ∀ entry ∈ later, entry.1 ∉ entries.map Prod.fst) :
    merge entries later = entries ++ later := by
  -- Entries under keys that are not in use are added behind the others.
  induction later generalizing entries with
  | nil => simp [merge]
  | cons entry rest ih =>
    rw [List.map_cons, List.nodup_cons] at distinct
    have first := put_of_absent entries entry.1 entry.2 (unused entry (List.mem_cons_self ..))
    have behind := ih (entries ++ [entry]) distinct.2 (by
      intro other member
      have apart : other.1 ≠ entry.1 := fun same =>
        distinct.1 (same ▸ List.mem_map_of_mem member)
      have old := unused other (List.mem_cons_of_mem _ member)
      simpa [apart] using old)
    rw [merge_cons, first, behind, List.append_assoc]
    rfl

theorem mem_merge (entry : String × α) (among : entry ∈ merge entries later) :
    entry ∈ entries ∨ entry ∈ later := by
  induction later generalizing entries with
  | nil => exact .inl among
  | cons first rest ih =>
    rcases ih _ among with before | behind
    · rcases mem_put _ _ _ _ before with old | rfl
      · exact .inl old
      · exact .inr (List.mem_cons_self ..)
    · exact .inr (List.mem_cons_of_mem _ behind)

theorem nodup_merge (distinct : (entries.map Prod.fst).Nodup) :
    ((merge entries later).map Prod.fst).Nodup := by
  induction later generalizing entries with
  | nil => exact distinct
  | cons first rest ih =>
    apply ih
    rw [keys_put]
    split_ifs with known
    · exact distinct
    · exact List.Nodup.append distinct (List.nodup_singleton _) (by simpa using known)

theorem merge_alike (present : ∀ entry ∈ later, entry.1 ∈ entries.map Prod.fst)
    (alike : ∀ entry ∈ later, ∀ other, (entry.1, other) ∈ entries → other = entry.2) :
    merge entries later = entries := by
  -- To write again what is there changes nothing.
  induction later with
  | nil => rfl
  | cons first rest ih =>
    rw [merge_cons, put_alike entries first.1 first.2
      (present first (List.mem_cons_self ..)) (alike first (List.mem_cons_self ..))]
    exact ih (fun entry behind => present entry (List.mem_cons_of_mem _ behind))
      fun entry behind => alike entry (List.mem_cons_of_mem _ behind)

def mapValues {β : Type} (view : α → β) (entries : Dict α) : Dict β :=
  entries.map fun entry => (entry.1, view entry.2)

variable (view : α → β)

theorem mapValues_put (entries : Dict α) (key : String) (value : α) :
    mapValues view (put entries key value) = put (mapValues view entries) key (view value) := by
  induction entries with
  | nil => rfl
  | cons entry rest ih =>
    obtain ⟨head, old⟩ := entry
    by_cases replaced : head = key
    · simp [mapValues, put, replaced]
    · simp only [mapValues, put, replaced, if_false, List.map_cons] at ih ⊢
      rw [ih]

theorem mapValues_merge (entries later : Dict α) :
    mapValues view (merge entries later) = merge (mapValues view entries) (mapValues view later) := by
  induction later generalizing entries with
  | nil => rfl
  | cons entry rest ih =>
    rw [merge_cons, ih, mapValues_put]
    rfl

def adjust (change : α → α) (keys : List String) (entries : Dict α) : Dict α :=
  entries.map fun entry => (entry.1, if entry.1 ∈ keys then change entry.2 else entry.2)

variable (change : α → α) (keys : List String)

theorem adjust_put (entries : Dict α) (distinct : (entries.map Prod.fst).Nodup) (key : String)
    (value : α) (there : (key, value) ∈ entries) :
    put (adjust change keys entries) key (change value) = adjust change (keys ++ [key]) entries := by
  induction entries with
  | nil => cases there
  | cons entry rest ih =>
    obtain ⟨name, own⟩ := entry
    rw [List.map_cons, List.nodup_cons] at distinct
    by_cases first : name = key
    · subst first
      have same : own = value := by
        rcases List.mem_cons.mp there with here | later
        · exact (Prod.mk.inj here).2.symm
        · exact absurd (List.mem_map_of_mem later) distinct.1
      have behind : adjust change keys rest = adjust change (keys ++ [name]) rest := by
        apply List.map_congr_left
        intro other among
        have apart : other.1 ≠ name := by
          intro same
          have inside : other.1 ∈ rest.map Prod.fst := List.mem_map_of_mem among
          rw [same] at inside
          exact distinct.1 inside
        simp [apart]
      simp only [adjust, List.map_cons, put, if_pos, List.mem_append, List.mem_singleton, or_true]
        at behind ⊢
      rw [behind, same]
    · have later : (key, value) ∈ rest := by
        rcases List.mem_cons.mp there with here | later
        · exact absurd (Prod.mk.inj here).1.symm first
        · exact later
      have follows := ih distinct.2 later
      simp only [adjust, List.map_cons, put, first, if_false, List.mem_append, List.mem_singleton,
        or_false] at follows ⊢
      rw [follows]

theorem adjust_merge (entries : Dict α) (distinct : (entries.map Prod.fst).Nodup) (later : Dict α)
    (there : ∀ entry ∈ later, entry ∈ entries) :
    merge (adjust change keys entries) (later.map fun entry => (entry.1, change entry.2)) =
      adjust change (keys ++ later.map Prod.fst) entries := by
  induction later generalizing keys with
  | nil => simp [merge]
  | cons entry rest ih =>
    rw [List.map_cons, merge_cons, adjust_put change keys entries distinct entry.1 entry.2
      (there entry (List.mem_cons_self ..)),
      ih _ fun other behind => there other (List.mem_cons_of_mem _ behind)]
    simp

theorem adjust_none (entries : Dict α) : adjust change [] entries = entries := by
  simp [adjust]

theorem mapValues_adjust (change : α → α) (view : α → β)
    (blind : ∀ value, view (change value) = view value) (keys : List String) (entries : Dict α) :
    mapValues view (adjust change keys entries) = mapValues view entries := by
  simp only [mapValues, adjust, List.map_map]
  apply List.map_congr_left
  intro entry _
  by_cases changed : entry.1 ∈ keys <;> simp [changed, blind]

theorem lookup_merge (key : String) :
    (merge entries later).lookup key = ((merge [] later).lookup key).or (entries.lookup key) := by
  induction later generalizing entries with
  | nil => rfl
  | cons entry rest ih =>
    have first := ih (put entries entry.1 entry.2)
    have second := ih (put [] entry.1 entry.2)
    change (merge (put entries entry.1 entry.2) rest).lookup key =
      ((merge (put [] entry.1 entry.2) rest).lookup key).or (entries.lookup key)
    rw [first, second, lookup_put, lookup_put, Option.or_assoc]
    by_cases same : key = entry.1
    · simp [same]
    · simp [same]

theorem lookup_merge_absent (key : String) (absent : ∀ entry ∈ later, entry.1 ≠ key) :
    (merge entries later).lookup key = entries.lookup key := by
  unfold merge
  induction later generalizing entries with
  | nil => rfl
  | cons entry rest ih =>
    have differs : key ≠ entry.1 := Ne.symm (absent entry (List.mem_cons_self ..))
    rw [List.foldl_cons, ih _ fun other member => absent other (List.mem_cons_of_mem _ member),
      lookup_put, if_neg differs]

end Dict

/-- A float is its exact value; `NaN` and the infinities, which `json.loads` also
accepts, are kept by name. -/
inductive Value where
  | none
  | bool (value : Bool)
  | int (value : Int)
  | float (value : Rat)
  | nonFinite (name : String)
  | str (value : String)
  | list (items : List Value)
  | dict (entries : List (String × Value))
  deriving Repr, Inhabited

/-- The whole number from which on an `int` overflows as a `float`: 2 to the 1024 less 2 to
the 970. -/
def floatLimit : Nat := (2 ^ 54 - 1) * (2 ^ 97) ^ 10

namespace Value

def asStr : Value → Option String
  | .str value => some value
  | _ => Option.none

def asDict : Value → Option (Dict Value)
  | .dict entries => some entries
  | _ => Option.none

def truthy : Value → Bool
  | .none => false
  | .bool value => value
  | .int value => value != 0
  | .float value => value != 0
  | .nonFinite _ => true
  | .str value => value != ""
  | .list items => !items.isEmpty
  | .dict entries => !entries.isEmpty

end Value

end HelpForge.Chatbot
