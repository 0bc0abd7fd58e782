import HelpForge.Chatbot.Text
import HelpForge.Chatbot.Value
import Mathlib.Data.List.Forall2

set_option autoImplicit false

/-!
# The interpreter

What depends on tables or on the layout of a text is a parameter.
-/

namespace HelpForge.Chatbot

/-- An exception, by the name of its class and by its text. -/
structure PyError where
  name : String
  text : String
  deriving DecidableEq, Repr

def PyError.isValueError (error : PyError) : Bool :=
  error.name = "ValueError" || error.name = "JSONDecodeError"

/-- `json.loads`, `str.isalnum` of one character, the changes of case of a string, its
`repr`, `str` of a value and of a set of strings, the `int` of a lax pydantic field, and the
text of the `ValidationError` that a pydantic model raises for some data. -/
structure Python where
  loads : String → Except PyError Value
  isalnum : Char → Bool
  lower : String → String
  upper : String → String
  capitalize : String → String
  title : String → String
  repr : String → String
  str : Value → String
  setStr : List String → String
  laxInt : Value → Option Int
  validationText : String → Dict Value → String

/-- An interpreter of ASCII that is given one text to read; its messages are left empty. -/
def Python.reading (data : Value) : Python where
  loads _ := .ok data
  isalnum := Char.isAlphanum
  lower text := String.ofList (text.toList.map Char.toLower)
  upper text := String.ofList (text.toList.map Char.toUpper)
  capitalize text := String.ofList (first text.toList)
  title text := " ".intercalate
    ((text.toList.splitOn ' ').map fun word => String.ofList (first word))
  repr text := "'" ++ text ++ "'"
  str
    | .str text => text
    | .int value => toString value
    | _ => ""
  setStr _ := ""
  laxInt
    | .int value => some value
    | _ => none
  validationText _ _ := ""
where
  first : List Char → List Char
    | [] => []
    | char :: rest => char.toUpper :: rest.map Char.toLower

namespace Value

def typeName : Value → String
  | .none => "NoneType"
  | .bool _ => "bool"
  | .int _ => "int"
  | .float _ => "float"
  | .nonFinite _ => "float"
  | .str _ => "str"
  | .list _ => "list"
  | .dict _ => "dict"

def noAttribute (value : Value) (name : String) : PyError :=
  ⟨"AttributeError", "'" ++ value.typeName ++ "' object has no attribute '" ++ name ++ "'"⟩

def get (value : Value) (key : String) (default : Value) : Except PyError Value :=
  match value with
  | .dict entries => .ok ((entries.lookup key).getD default)
  | other => .error (other.noAttribute "get")

def len (value : Value) : Except PyError Nat :=
  match value with
  | .str text => .ok text.length
  | .list items => .ok items.length
  | .dict entries => .ok entries.length
  | other => .error ⟨"TypeError", "object of type '" ++ other.typeName ++ "' has no len()"⟩

def members : Value → List Value
  -- What iterating over a value of some length goes through.
  | .str text => text.toList.map fun char => .str char.toString
  | .list items => items
  | .dict entries => entries.map fun entry => .str entry.1
  | _ => []

def iterate (value : Value) : Except PyError (List Value) :=
  match value with
  | .str _ | .list _ | .dict _ => .ok value.members
  | other => .error ⟨"TypeError", "'" ++ other.typeName ++ "' object is not iterable"⟩

/-- What `value["key"] = …` raises for a value that is no dictionary. -/
def noItemAssignment (value : Value) : PyError :=
  match value with
  | .list _ => ⟨"TypeError", "list indices must be integers or slices, not str"⟩
  | other =>
    ⟨"TypeError", "'" ++ other.typeName ++ "' object does not support item assignment"⟩

end Value

def upperChar (char : Char) : List Char :=
  if 'a' ≤ char ∧ char ≤ 'z' then [Char.ofNat (char.toNat - 32)]
  else if char = 'ß' then ['S', 'S']
  else if char = 'ſ' then ['S']
  else if char = 'ı' then ['I']
  else if char = 'ﬀ' then ['F', 'F']
  else if char = 'ﬁ' then ['F', 'I']
  else if char = 'ﬂ' then ['F', 'L']
  else if char = 'ﬃ' then ['F', 'F', 'I']
  else if char = 'ﬄ' then ['F', 'F', 'L']
  else if char = 'ﬅ' ∨ char = 'ﬆ' then ['S', 'T']
  else [char]

/-- `text.upper()`, where the outcome is compared with words in capitals A to Z: any other
letter is left as it is, and is in none of them. -/
def upper (text : String) : String := String.ofList (text.toList.flatMap upperChar)

/-- `round(value, digits)`; a tie goes to the even neighbour. -/
def roundTo (digits : Nat) (value : Rat) : Rat :=
  let scaled := value * 10 ^ digits
  let below := scaled.floor
  let rest := scaled - below
  let whole :=
    if rest < 1 / 2 then below
    else if 1 / 2 < rest then below + 1
    else if below % 2 = 0 then below else below + 1
  whole / 10 ^ digits

theorem bind_eq_ok {ε α β : Type} (first : Except ε α) (rest : α → Except ε β) (result : β) :
    first >>= rest = .ok result ↔ ∃ value, first = .ok value ∧ rest value = .ok result := by
  cases first <;> simp [bind, Except.bind]

section List

variable {ε α β : Type} (f : α → Except ε β) (items : List α)

theorem mapM_eq_ok (values : List β) :
    items.mapM f = .ok values ↔
      List.Forall₂ (fun item value => f item = .ok value) items values := by
  induction items generalizing values with
  | nil =>
    constructor
    · intro done
      cases done
      exact .nil
    · intro each
      cases each
      rfl
  | cons item rest ih =>
    rw [List.mapM_cons, bind_eq_ok]
    constructor
    · rintro ⟨value, first, done⟩
      obtain ⟨others, later, same⟩ := (bind_eq_ok _ _ _).mp done
      cases same
      exact .cons first ((ih others).mp later)
    · intro each
      cases each with
      | cons first later =>
        refine ⟨_, first, (bind_eq_ok _ _ _).mpr ⟨_, (ih _).mpr later, rfl⟩⟩

theorem mapM_ok_iff :
    (∃ values, items.mapM f = .ok values) ↔ ∀ item ∈ items, ∃ value, f item = .ok value := by
  simp only [mapM_eq_ok]
  constructor
  · rintro ⟨values, each⟩ item among
    induction each with
    | nil => cases among
    | cons first _ ih =>
      rcases List.mem_cons.mp among with rfl | later
      · exact ⟨_, first⟩
      · exact ih later
  · intro each
    induction items with
    | nil => exact ⟨[], .nil⟩
    | cons item rest ih =>
      obtain ⟨value, first⟩ := each item (List.mem_cons_self ..)
      obtain ⟨values, later⟩ := ih fun other among => each other (List.mem_cons_of_mem _ among)
      exact ⟨value :: values, .cons first later⟩

end List

end HelpForge.Chatbot
