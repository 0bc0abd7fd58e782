import HelpForge.Lib.Json
import Mathlib.Data.List.Nodup

set_option autoImplicit false

namespace Lib

/-- From a value to what is made of it, `none` inside being `undefined`; outside, a refusal. -/
abbrev Schema (φ : Type) := Option (Json φ) → Option (Option (Json φ))

abbrev Text := List UInt16

namespace Schema

variable {φ : Type}

def text : Schema φ
  | some (.str units) => some (some (.str units))
  | _ => none

def boolean : Schema φ
  | some (.bool value) => some (some (.bool value))
  | _ => none

def number : Schema φ
  | some (.num value) => some (some (.num value))
  | _ => none

/-- The schema, and a check of what it makes. -/
def checked (accepts : Json φ → Bool) (schema : Schema φ) : Schema φ := fun value =>
  (schema value).filter fun result => result.all accepts

def mapped (change : Json φ → Json φ) (schema : Schema φ) : Schema φ := fun value =>
  (schema value).map (Option.map change)

def optional (schema : Schema φ) : Schema φ
  | none => some none
  | some value => schema (some value)

def nullable (schema : Schema φ) : Schema φ
  | some .null => some (some .null)
  | value => schema value

def array (item : Schema φ) : Schema φ
  | some (.arr items) => (items.mapM fun value => (item (some value)).join).map fun made =>
    some (.arr made)
  | _ => none

def fields (members : Json φ) : List (Text × Schema φ) → Option (List (Text × Json φ))
  | [] => some []
  | (name, schema) :: shape => do
    let made ← schema (members.property name)
    let others ← fields members shape
    return (made.toList.map fun value => (name, value)) ++ others

def object (shape : List (Text × Schema φ)) : Schema φ
  | some (.obj members) => (fields (.obj members) shape).map fun made => some (.obj made)
  | _ => none

def strictObject (shape : List (Text × Schema φ)) : Schema φ
  | some (.obj members) =>
    if members.all fun member => (shape.map Prod.fst).contains member.1 then
      object shape (some (.obj members))
    else none
  | _ => none

theorem object_made (shape : List (Text × Schema φ)) (value result : Option (Json φ))
    (made : object shape value = some result) :
    ∃ members kept, value = some (.obj members) ∧ fields (.obj members) shape = some kept ∧
      result = some (.obj kept) := by
  unfold object at made
  split at made
  · rename_i members
    obtain ⟨kept, built, same⟩ := Option.map_eq_some_iff.mp made
    exact ⟨members, kept, rfl, built, same.symm⟩
  · cases made

variable (members : Json φ) (name : Text)

theorem fields_cons (schema : Schema φ) (shape : List (Text × Schema φ))
    (kept : List (Text × Json φ)) (made : fields members ((name, schema) :: shape) = some kept) :
    ∃ value others, schema (members.property name) = some value ∧
      fields members shape = some others ∧
      kept = (value.toList.map fun value => (name, value)) ++ others := by
  unfold fields at made
  obtain ⟨value, first, made⟩ := Option.bind_eq_some_iff.mp made
  obtain ⟨others, rest, made⟩ := Option.bind_eq_some_iff.mp made
  exact ⟨value, others, first, rest, (Option.some_inj.mp made).symm⟩

theorem property_append (one other : List (Text × Json φ)) :
    (Json.obj (one ++ other)).property name =
      ((Json.obj other).property name).or ((Json.obj one).property name) := by
  change ((one ++ other).reverse.find? _).map Prod.snd = _
  rw [List.reverse_append, List.find?_append, Option.map_or]
  rfl

theorem property_undeclared (members : Json φ) (shape : List (Text × Schema φ))
    (kept : List (Text × Json φ)) (made : fields members shape = some kept) (name : Text)
    (undeclared : name ∉ shape.map Prod.fst) : (Json.obj kept).property name = none := by
  induction shape generalizing kept with
  | nil =>
    cases made
    rfl
  | cons entry shape ih =>
    obtain ⟨declared, schema⟩ := entry
    obtain ⟨value, others, -, rest, rfl⟩ := fields_cons members declared schema shape kept made
    rw [List.map_cons, List.mem_cons, not_or] at undeclared
    rw [property_append, ih others rest undeclared.2, Option.none_or]
    cases value with
    | none => rfl
    | some value =>
      have differs : ¬declared = name := fun same => undeclared.1 same.symm
      simp [Json.property, differs]

theorem property_declared (shape : List (Text × Schema φ)) (kept : List (Text × Json φ))
    (made : fields members shape = some kept) (distinct : (shape.map Prod.fst).Nodup) (name : Text)
    (schema : Schema φ) (declared : (name, schema) ∈ shape) :
    schema (members.property name) = some ((Json.obj kept).property name) := by
  induction shape generalizing kept with
  | nil => cases declared
  | cons entry shape ih =>
    obtain ⟨first, own⟩ := entry
    obtain ⟨value, others, built, rest, rfl⟩ := fields_cons members first own shape kept made
    rw [List.map_cons, List.nodup_cons] at distinct
    rw [property_append]
    -- No later member of the shape has the name, as the names are distinct.
    rcases List.mem_cons.mp declared with same | later
    · cases same
      rw [property_undeclared members shape others rest name distinct.1, Option.none_or, built]
      cases value with
      | none => rfl
      | some value => simp [Json.property]
    · have there : name ∈ shape.map Prod.fst := List.mem_map_of_mem later
      have differs : ¬first = name := fun same => distinct.1 (same ▸ there)
      have absent : (Json.obj (value.toList.map fun value => (first, value))).property name =
          none := by
        cases value with
        | none => rfl
        | some value => simp [Json.property, differs]
      rw [absent, Option.or_none]
      exact ih others rest distinct.2 later

def Exact (schema : Schema φ) : Prop := ∀ value result, schema value = some result → result = value

theorem exact_text : Exact (text : Schema φ) := by
  intro value result made
  unfold text at made
  split at made
  · cases made
    rfl
  · cases made

theorem Exact.checked {schema : Schema φ} (exact : Exact schema) (accepts : Json φ → Bool) :
    Exact (schema.checked accepts) := by
  intro value result made
  exact exact value result (Option.mem_filter_iff.mp made).1

end Schema

end Lib
