import Mathlib.Data.List.Infix
import Mathlib.Tactic.Common

set_option autoImplicit false

/-!
# JSON

A writer that keeps to ASCII, and a reader for any text.
-/

namespace Lib

inductive Json (φ : Type) where
  | null
  | bool (value : Bool)
  | num (value : φ)
  | str (units : List UInt16)
  | arr (items : List (Json φ))
  | obj (members : List (List UInt16 × Json φ))

namespace Json

def isNumberChar (char : Char) : Bool :=
  char.isDigit || char == '-' || char == '+' || char == '.' || char == 'e' || char == 'E'

def isExponent : List Char → Bool
  | [] => true
  | 'e' :: '+' :: rest | 'e' :: '-' :: rest | 'E' :: '+' :: rest | 'E' :: '-' :: rest
  | 'e' :: rest | 'E' :: rest => !rest.isEmpty && rest.all Char.isDigit
  | _ => false

def isFraction : List Char → Bool
  | '.' :: rest =>
    !(rest.takeWhile Char.isDigit).isEmpty && isExponent (rest.dropWhile Char.isDigit)
  | rest => isExponent rest

def isUnsigned : List Char → Bool
  | [] => false
  | '0' :: rest => isFraction rest
  | digit :: rest => digit.isDigit && isFraction (rest.dropWhile Char.isDigit)

def isNumber : List Char → Bool
  | '-' :: rest => isUnsigned rest
  | rest => isUnsigned rest

/-- Numbers with a literal each, which can be read back. -/
structure Numbers (φ : Type) where
  write : φ → List Char
  read : List Char → φ
  literal : ∀ value, isNumber (write value) = true
  read_write : ∀ value, read (write value) = value

def utf16 (char : Char) : List UInt16 :=
  if char.toNat < 0x10000 then [UInt16.ofNat char.toNat]
  else [UInt16.ofNat (0xD800 + (char.toNat - 0x10000) / 0x400),
    UInt16.ofNat (0xDC00 + (char.toNat - 0x10000) % 0x400)]

def units (text : String) : List UInt16 := text.toList.flatMap utf16

def hexDigit (digit : Nat) : Char := ("0123456789abcdef".toList)[digit]?.getD '0'

def hexValue (char : Char) : Option Nat :=
  if char.isDigit then some (char.toNat - '0'.toNat)
  else if 'a' ≤ char ∧ char ≤ 'f' then some (char.toNat - 'a'.toNat + 10)
  else if 'A' ≤ char ∧ char ≤ 'F' then some (char.toNat - 'A'.toNat + 10)
  else none

def hex4 (unit : Nat) : List Char :=
  [hexDigit (unit / 4096 % 16), hexDigit (unit / 256 % 16), hexDigit (unit / 16 % 16),
    hexDigit (unit % 16)]

def readHex (a b c d : Char) : Option UInt16 := do
  let a ← hexValue a
  let b ← hexValue b
  let c ← hexValue c
  let d ← hexValue d
  return UInt16.ofNat (((a * 16 + b) * 16 + c) * 16 + d)

def escapes : List (Nat × Char) :=
  [('"'.toNat, '"'), ('\\'.toNat, '\\'), (0x0A, 'n'), (0x0D, 'r'), (0x09, 't'), (0x0C, 'f'),
    (0x08, 'b')]

def writeUnit (unit : UInt16) : List Char :=
  match escapes.lookup unit.toNat with
  | some char => ['\\', char]
  | none =>
    if 0x20 ≤ unit.toNat ∧ unit.toNat ≤ 0x7E then [Char.ofNat unit.toNat]
    else '\\' :: 'u' :: hex4 unit.toNat

def writeUnits (units : List UInt16) : List Char := '"' :: units.flatMap writeUnit ++ ['"']

section Write

variable {φ : Type} (numbers : Numbers φ)

mutual

/-- `json.dumps` -/
def dumps : Json φ → List Char
  | .null => "null".toList
  | .bool true => "true".toList
  | .bool false => "false".toList
  | .num value => numbers.write value
  | .str units => writeUnits units
  | .arr items => '[' :: [',', ' '].intercalate (dumpItems items) ++ [']']
  | .obj members => '\x7b' :: [',', ' '].intercalate (dumpMembers members) ++ ['\x7d']

def dumpItems : List (Json φ) → List (List Char)
  | [] => []
  | item :: rest => dumps item :: dumpItems rest

def dumpMembers : List (List UInt16 × Json φ) → List (List Char)
  | [] => []
  | (name, value) :: rest => (writeUnits name ++ ':' :: ' ' :: dumps value) :: dumpMembers rest

end

end Write

def isBlank (char : Char) : Bool := char == ' ' || char == '\t' || char == '\n' || char == '\r'

def skip (text : List Char) : List Char := text.dropWhile isBlank

def readEscape : Char → Option UInt16
  | '"' => some 0x22
  | '\\' => some 0x5C
  | '/' => some 0x2F
  | 'b' => some 0x08
  | 'f' => some 0x0C
  | 'n' => some 0x0A
  | 'r' => some 0x0D
  | 't' => some 0x09
  | _ => none

def readUnits : List Char → Option (List UInt16 × List Char)
  | [] => none
  | '"' :: rest => some ([], rest)
  | '\\' :: 'u' :: a :: b :: c :: d :: rest => do
    let unit ← readHex a b c d
    let (units, rest) ← readUnits rest
    return (unit :: units, rest)
  | '\\' :: char :: rest => do
    let unit ← readEscape char
    let (units, rest) ← readUnits rest
    return (unit :: units, rest)
  | char :: rest =>
    if char.toNat < 0x20 then none
    else do
      let (units, rest) ← readUnits rest
      return (utf16 char ++ units, rest)

def readItems {α : Type} (item : List Char → Option (α × List Char)) (close : Char) :
    Nat → List Char → Option (List α × List Char)
  | 0, _ => none
  | bound + 1, text => do
    let (value, rest) ← item text
    match skip rest with
    | [] => none
    | char :: rest =>
      if char = ',' then do
        let (values, rest) ← readItems item close bound rest
        return (value :: values, rest)
      else if char = close then return ([value], rest)
      else none

def readMember {α : Type} (value : List Char → Option (α × List Char)) (text : List Char) :
    Option ((List UInt16 × α) × List Char) :=
  match skip text with
  | '"' :: rest => do
    let (name, rest) ← readUnits rest
    match skip rest with
    | ':' :: rest => do
      let (value, rest) ← value rest
      return ((name, value), rest)
    | _ => none
  | _ => none

section Read

variable {φ : Type} (numbers : Numbers φ)

def readNumber (text : List Char) : Option (Json φ × List Char) :=
  let literal := text.takeWhile isNumberChar
  if isNumber literal then some (.num (numbers.read literal), text.dropWhile isNumberChar) else none

def readValue : Nat → List Char → Option (Json φ × List Char)
  | 0, _ => none
  | bound + 1, text =>
    let text := skip text
    if "null".toList <+: text then some (.null, text.drop 4)
    else if "true".toList <+: text then some (.bool true, text.drop 4)
    else if "false".toList <+: text then some (.bool false, text.drop 5)
    else match text with
      | '"' :: rest => do
        let (units, rest) ← readUnits rest
        return (.str units, rest)
      | '[' :: rest =>
        match skip rest with
        | ']' :: rest => some (.arr [], rest)
        | _ => do
          let (items, rest) ← readItems (readValue bound) ']' bound rest
          return (.arr items, rest)
      | '\x7b' :: rest =>
        match skip rest with
        | '\x7d' :: rest => some (.obj [], rest)
        | _ => do
          let (members, rest) ← readItems (readMember (readValue bound)) '\x7d' bound rest
          return (.obj members, rest)
      | text => readNumber numbers text

/-- `JSON.parse`, or nothing where it throws. -/
def parse (text : List Char) : Option (Json φ) :=
  match readValue numbers (text.length + 1) text with
  | some (value, rest) => if rest.all isBlank then some value else none
  | none => none

/-- A property of what was parsed: of members of one name the last counts. -/
def property (name : List UInt16) : Json φ → Option (Json φ)
  | .obj members => (members.reverse.find? (·.1 = name)).map Prod.snd
  | _ => none

end Read

theorem hexValue_hexDigit (digit : Nat) (small : digit < 16) :
    hexValue (hexDigit digit) = some digit := by
  have all : ∀ digit < 16, hexValue (hexDigit digit) = some digit := by decide
  exact all digit small

variable (unit : UInt16)

theorem readHex_hex4 :
    readHex (hexDigit (unit.toNat / 4096 % 16)) (hexDigit (unit.toNat / 256 % 16))
      (hexDigit (unit.toNat / 16 % 16)) (hexDigit (unit.toNat % 16)) = some unit := by
  have digit (number : Nat) : hexValue (hexDigit (number % 16)) = some (number % 16) :=
    hexValue_hexDigit _ (Nat.mod_lt _ (by decide))
  have small := unit.toNat_lt
  have whole : ((unit.toNat / 4096 % 16 * 16 + unit.toNat / 256 % 16) * 16 +
      unit.toNat / 16 % 16) * 16 + unit.toNat % 16 = unit.toNat := by omega
  unfold readHex
  simp only [digit, Option.bind_eq_bind, Option.bind_some, whole, UInt16.ofNat_toNat]
  rfl

theorem readUnits_plain (char : Char) (rest : List Char) (quote : char ≠ '"')
    (slash : char ≠ '\\') (visible : ¬char.toNat < 0x20) :
    readUnits (char :: rest) =
      (readUnits rest).map fun read => (utf16 char ++ read.1, read.2) := by
  rw [readUnits]
  · rw [if_neg visible]
    cases readUnits rest <;> rfl
  · exact quote
  · intro _ _ _ _ _ same
    exact absurd same slash
  · intro _ _ same
    exact absurd same slash

theorem readUnits_escape (char : Char) (rest : List Char) (unit : UInt16)
    (known : readEscape char = some unit) (other : char ≠ 'u') :
    readUnits ('\\' :: char :: rest) =
      (readUnits rest).map fun read => (unit :: read.1, read.2) := by
  rw [readUnits]
  · rw [known]
    cases readUnits rest <;> rfl
  · intro _ _ _ _ _ same
    exact absurd same other

variable (rest : List Char)

theorem readUnits_hex4 :
    readUnits ('\\' :: 'u' :: hex4 unit.toNat ++ rest) =
      (readUnits rest).map fun read => (unit :: read.1, read.2) := by
  unfold hex4
  simp only [List.cons_append, List.nil_append]
  rw [readUnits, readHex_hex4]
  cases readUnits rest <;> rfl

theorem readUnits_writeUnit :
    readUnits (writeUnit unit ++ rest) =
      (readUnits rest).map fun read => (unit :: read.1, read.2) := by
  have same : UInt16.ofNat unit.toNat = unit := UInt16.ofNat_toNat
  unfold writeUnit
  cases escaped : escapes.lookup unit.toNat with
  | some char =>
    have cases : ∀ entry ∈ escapes, readEscape entry.2 = some (UInt16.ofNat entry.1) ∧
        entry.2 ≠ 'u' := by decide
    obtain ⟨before, after, split, -⟩ := List.lookup_eq_some_iff.mp escaped
    have member : (unit.toNat, char) ∈ escapes := by rw [split]; simp
    obtain ⟨known, other⟩ := cases (unit.toNat, char) member
    rw [same] at known
    exact readUnits_escape char rest unit known other
  | none =>
    simp only
    split_ifs with visible
    · have ascii : ∀ number < 128, (Char.ofNat number).toNat = number := by decide
      have number := ascii unit.toNat (by omega)
      have plain : unit.toNat ≠ 34 ∧ unit.toNat ≠ 92 := by
        constructor
        · intro quote
          rw [quote] at escaped
          exact absurd escaped (by decide)
        · intro slash
          rw [slash] at escaped
          exact absurd escaped (by decide)
      rw [List.singleton_append, readUnits_plain]
      · unfold utf16
        rw [number, if_pos (by omega), same]
        rfl
      · intro quote
        rw [quote] at number
        exact plain.1 number.symm
      · intro slash
        rw [slash] at number
        exact plain.2 number.symm
      · omega
    · exact readUnits_hex4 unit rest

theorem readUnits_writeUnits (units : List UInt16) (rest : List Char) :
    readUnits (units.flatMap writeUnit ++ '"' :: rest) = some (units, rest) := by
  induction units with
  | nil => rfl
  | cons unit units ih =>
    rw [List.flatMap_cons, List.append_assoc, readUnits_writeUnit, ih]
    rfl

theorem digits_chars {text : List Char} (digits : text.all Char.isDigit = true) :
    text.all isNumberChar = true := by
  rw [List.all_eq_true] at digits ⊢
  intro char member
  simp [isNumberChar, digits char member]

variable {text : List Char}

theorem isExponent_chars (exponent : isExponent text = true) : text.all isNumberChar = true := by
  unfold isExponent at exponent
  split at exponent
  · rfl
  all_goals first
    | exact absurd exponent (by decide)
    | have digits := digits_chars (Bool.and_eq_true_iff.mp exponent).2
      simpa [isNumberChar] using digits

theorem all_chars_of_rest (rest : (text.dropWhile Char.isDigit).all isNumberChar = true) :
    text.all isNumberChar = true := by
  have first := @digits_chars (text.takeWhile Char.isDigit) (List.all_takeWhile ..)
  rw [← @List.takeWhile_append_dropWhile _ Char.isDigit text, List.all_append, first,
    rest]
  rfl

theorem isFraction_chars (fraction : isFraction text = true) : text.all isNumberChar = true := by
  unfold isFraction at fraction
  split at fraction
  · have later := isExponent_chars (Bool.and_eq_true_iff.mp fraction).2
    simpa [isNumberChar] using all_chars_of_rest later
  · exact isExponent_chars fraction

theorem isUnsigned_chars (unsigned : isUnsigned text = true) : text.all isNumberChar = true := by
  unfold isUnsigned at unsigned
  split at unsigned
  · rfl
  · simpa [isNumberChar] using isFraction_chars unsigned
  · obtain ⟨digit, fraction⟩ := Bool.and_eq_true_iff.mp unsigned
    rw [List.all_cons, all_chars_of_rest (isFraction_chars fraction)]
    simp [isNumberChar, digit]

theorem isNumber_chars (number : isNumber text = true) : text.all isNumberChar = true := by
  unfold isNumber at number
  split at number
  · simpa [isNumberChar] using isUnsigned_chars number
  · exact isUnsigned_chars number

def Stops (rest : List Char) : Prop := rest.takeWhile isNumberChar = []

theorem takeWhile_literal {literal rest : List Char} (chars : literal.all isNumberChar = true)
    (stops : Stops rest) : (literal ++ rest).takeWhile isNumberChar = literal ∧
      (literal ++ rest).dropWhile isNumberChar = rest := by
  rw [List.all_eq_true] at chars
  have dropped : rest.dropWhile isNumberChar = rest := by
    have whole := @List.takeWhile_append_dropWhile _ isNumberChar rest
    rwa [stops, List.nil_append] at whole
  constructor
  · rw [List.takeWhile_append_of_pos chars, stops, List.append_nil]
  · rw [List.dropWhile_append_of_pos chars, dropped]

def Solid (text : List Char) : Prop := ∃ char rest, text = char :: rest ∧ isBlank char = false

theorem Solid.skip (solid : Solid text) : skip text = text := by
  obtain ⟨char, rest, rfl, plain⟩ := solid
  unfold Json.skip
  rw [List.dropWhile_cons, plain]
  rfl

theorem numberChar_ne {char other : Char} (number : isNumberChar char = true)
    (differs : isNumberChar other = false) : char ≠ other := by
  rintro rfl
  rw [number] at differs
  cases differs

theorem numberChar_solid {char : Char} (number : isNumberChar char = true) :
    isBlank char = false := by
  have space := @numberChar_ne char ' ' number (by decide)
  have tab := @numberChar_ne char '\t' number (by decide)
  have newline := @numberChar_ne char '\n' number (by decide)
  have carriage := @numberChar_ne char '\r' number (by decide)
  simp [isBlank, space, tab, newline, carriage]

variable {α : Type} {item : List Char → Option (α × List Char)}

theorem readItems_write {close : Char} (write : α → List Char)
    (blank : ∀ text, item (' ' :: text) = item text) (solid : isBlank close = false)
    (comma : close ≠ ',') (stops : isNumberChar close = false) (items : List α)
    (nonempty : items ≠ []) (bound : Nat) (enough : items.length ≤ bound)
    (reads : ∀ value ∈ items, ∀ rest, Stops rest → item (write value ++ rest) = some (value, rest))
    (rest : List Char) :
    readItems item close bound ([',', ' '].intercalate (items.map write) ++ close :: rest) =
      some (items, rest) := by
  induction items generalizing bound with
  | nil => exact absurd rfl nonempty
  | cons value more ih =>
    cases bound with
    | zero => cases enough
    | succ bound =>
      have here := reads value List.mem_cons_self
      cases more with
      | nil =>
        have closing : Stops (close :: rest) := by simp [Stops, stops]
        have skipped : skip (close :: rest) = close :: rest := Solid.skip ⟨close, rest, rfl, solid⟩
        simp only [List.map_cons, List.map_nil, List.intercalate_singleton, readItems]
        rw [here _ closing]
        simp [skipped, comma]
      | cons next more =>
        have later := ih nofun bound (Nat.le_of_succ_le_succ enough)
          fun other member => reads other (List.mem_cons_of_mem _ member)
        have spaced : ∀ text, readItems item close bound (' ' :: text) =
            readItems item close bound text := by
          intro text
          cases bound with
          | zero => rfl
          | succ bound => simp only [readItems, blank]
        have going (text : List Char) : Stops (',' :: text) := by simp [Stops, isNumberChar]
        have skipped (text : List Char) : skip (',' :: text) = ',' :: text := rfl
        simp only [List.map_cons, List.intercalate_cons_cons, List.append_assoc,
          List.cons_append, List.nil_append] at later ⊢
        rw [readItems, here _ (going _)]
        simp [skipped, spaced, later]

section Values

variable {φ : Type} (numbers : Numbers φ)

theorem dumps_head (value : Json φ) (rest : List Char) :
    ∃ char more, dumps numbers value ++ rest = char :: more ∧ isBlank char = false ∧
      char ≠ ']' := by
  cases value with
  | num value =>
    have literal := numbers.literal value
    have chars := isNumber_chars literal
    simp only [dumps]
    cases text : numbers.write value with
    | nil =>
      rw [text] at literal
      exact absurd literal (by decide)
    | cons char more =>
      rw [text, List.all_cons] at chars
      have first := (Bool.and_eq_true_iff.mp chars).1
      exact ⟨char, more ++ rest, rfl, numberChar_solid first, numberChar_ne first (by decide)⟩
  | bool value => cases value <;> exact ⟨_, _, rfl, by decide, by decide⟩
  | _ => exact ⟨_, _, rfl, by decide, by decide⟩

theorem dumpItems_eq (items : List (Json φ)) : dumpItems numbers items = items.map (dumps numbers) := by
  induction items with
  | nil => rfl
  | cons item rest ih => rw [dumpItems, ih, List.map_cons]

def dumpMember (member : List UInt16 × Json φ) : List Char :=
  writeUnits member.1 ++ ':' :: ' ' :: dumps numbers member.2

variable (members : List (List UInt16 × Json φ))

theorem dumpMembers_eq : dumpMembers numbers members = members.map (dumpMember numbers) := by
  induction members with
  | nil => rfl
  | cons member rest ih => rw [dumpMembers, ih, List.map_cons, dumpMember]

theorem length_intercalate (texts : List (List Char)) (nonempty : ∀ text ∈ texts, text ≠ []) :
    texts.length ≤ ([',', ' '].intercalate texts).length ∧
      ∀ text ∈ texts, text.length ≤ ([',', ' '].intercalate texts).length := by
  induction texts with
  | nil => simp
  | cons text more ih =>
    have own := List.length_pos_iff.mpr (nonempty text List.mem_cons_self)
    obtain ⟨count, each⟩ := ih fun other member => nonempty other (List.mem_cons_of_mem _ member)
    cases more with
    | nil =>
      simp only [List.intercalate_singleton, List.mem_singleton, List.length_singleton]
      exact ⟨own, fun other same => same ▸ le_rfl⟩
    | cons next more =>
      simp only [List.intercalate_cons_cons, List.length_append, List.length_cons,
        List.length_nil] at count each ⊢
      refine ⟨by omega, ?_⟩
      intro other member
      rcases List.mem_cons.mp member with rfl | later
      · omega
      · have short := each other later
        omega

theorem readValue_blank (bound : Nat) (text : List Char) :
    readValue numbers bound (' ' :: text) = readValue numbers bound text := by
  cases bound <;> rfl

theorem readMember_blank (value : List Char → Option (α × List Char)) (text : List Char) :
    readMember value (' ' :: text) = readMember value text := rfl

def ReadsBack (value : Json φ) : Prop :=
  ∀ bound rest, (dumps numbers value).length < bound → Stops rest →
    readValue numbers bound (dumps numbers value ++ rest) = some (value, rest)

theorem starts_otherwise {word more : List Char} {char : Char} (nonempty : word ≠ [])
    (starts : word.head? ≠ some char) : ¬word <+: char :: more := by
  intro front
  cases word with
  | nil => exact nonempty rfl
  | cons first rest => exact starts (congrArg some (List.cons_prefix_cons.mp front).1)

theorem readValue_number (bound : Nat) (char : Char) (more : List Char)
    (number : isNumberChar char = true) :
    readValue numbers (bound + 1) (char :: more) = readNumber numbers (char :: more) := by
  have skipped : skip (char :: more) = char :: more :=
    Solid.skip ⟨char, more, rfl, numberChar_solid number⟩
  have differs (word : List Char) (other : Char) (starts : word.head? = some other)
      (plain : isNumberChar other = false) : ¬word <+: char :: more := by
    refine starts_otherwise ?_ ?_
    · rintro rfl
      cases starts
    · rw [starts]
      exact fun same => numberChar_ne number plain (Option.some.inj same).symm
  unfold readValue
  simp only [skipped]
  rw [if_neg (differs _ 'n' rfl (by decide)), if_neg (differs _ 't' rfl (by decide)),
    if_neg (differs _ 'f' rfl (by decide))]
  split
  · rename_i same
    exact absurd (List.cons.inj same).1 (numberChar_ne number (by decide))
  · rename_i same
    exact absurd (List.cons.inj same).1 (numberChar_ne number (by decide))
  · rename_i same
    exact absurd (List.cons.inj same).1 (numberChar_ne number (by decide))
  · rfl

theorem readsBack_num (value : φ) : ReadsBack numbers (.num value) := by
  intro bound rest enough stops
  obtain ⟨bound, rfl⟩ := Nat.exists_eq_succ_of_ne_zero (Nat.ne_zero_of_lt enough)
  have literal := numbers.literal value
  have chars := isNumber_chars literal
  obtain ⟨taken, dropped⟩ := takeWhile_literal chars stops
  have read : readNumber numbers (numbers.write value ++ rest) = some (.num value, rest) := by
    unfold readNumber
    simp only [taken, dropped, literal, if_true, numbers.read_write]
  unfold dumps
  cases text : numbers.write value with
  | nil =>
    rw [text] at literal
    exact absurd literal (by decide)
  | cons char more =>
    rw [text] at chars read
    rw [List.all_cons] at chars
    rw [List.cons_append, readValue_number _ _ _ _ (Bool.and_eq_true_iff.mp chars).1]
    exact read

theorem readsBack_str (units : List UInt16) : ReadsBack numbers (.str units) := by
  intro bound rest enough _
  obtain ⟨bound, rfl⟩ := Nat.exists_eq_succ_of_ne_zero (Nat.ne_zero_of_lt enough)
  have text : dumps numbers (.str units) ++ rest =
      '"' :: (units.flatMap writeUnit ++ '"' :: rest) := by
    simp [dumps, writeUnits]
  rw [text]
  unfold readValue
  have skipped : skip ('"' :: (units.flatMap writeUnit ++ '"' :: rest)) =
      '"' :: (units.flatMap writeUnit ++ '"' :: rest) := rfl
  simp only [skipped]
  rw [if_neg (starts_otherwise (by decide) (by decide)), if_neg (starts_otherwise (by decide) (by decide)),
    if_neg (starts_otherwise (by decide) (by decide)), readUnits_writeUnits]
  rfl

theorem readItems_dumps (close : Char) (write : α → List Char)
    (blank : ∀ text, item (' ' :: text) = item text) (solid : isBlank close = false)
    (comma : close ≠ ',') (stops : isNumberChar close = false) (items : List α)
    (nonempty : items ≠ []) (some : ∀ value ∈ items, write value ≠ []) (bound : Nat)
    (enough : ([',', ' '].intercalate (items.map write)).length < bound)
    (reads : ∀ value ∈ items, (write value).length < bound → ∀ rest, Stops rest →
      item (write value ++ rest) = .some (value, rest)) (rest : List Char) :
    readItems item close bound ([',', ' '].intercalate (items.map write) ++ close :: rest) =
      .some (items, rest) := by
  have written : ∀ text ∈ items.map write, text ≠ [] := by
    intro text member
    obtain ⟨value, among, rfl⟩ := List.mem_map.mp member
    exact some value among
  obtain ⟨count, each⟩ := length_intercalate (items.map write) written
  rw [List.length_map] at count
  refine readItems_write write blank solid comma stops items nonempty bound (by omega) ?_ rest
  intro value member
  have short := each (write value) (List.mem_map_of_mem member)
  exact reads value member (by omega)

theorem readsBack_arr (items : List (Json φ))
    (each : ∀ item ∈ items, ReadsBack numbers item) : ReadsBack numbers (.arr items) := by
  intro bound rest enough _
  obtain ⟨bound, rfl⟩ := Nat.exists_eq_succ_of_ne_zero (Nat.ne_zero_of_lt enough)
  have text : dumps numbers (.arr items) =
      '[' :: ([',', ' '].intercalate (items.map (dumps numbers)) ++ [']']) := by
    rw [dumps, dumpItems_eq]
    rfl
  rw [text, List.length_cons, List.length_append, List.length_singleton] at enough
  have whole : dumps numbers (.arr items) ++ rest =
      '[' :: ([',', ' '].intercalate (items.map (dumps numbers)) ++ ']' :: rest) := by
    rw [text]
    simp
  rw [whole]
  unfold readValue
  simp only [show ∀ more, skip ('[' :: more) = '[' :: more from fun _ => rfl]
  rw [if_neg (starts_otherwise (by decide) (by decide)), if_neg (starts_otherwise (by decide) (by decide)),
    if_neg (starts_otherwise (by decide) (by decide))]
  cases items with
  | nil => rfl
  | cons item more =>
    have written : ∀ value ∈ item :: more, dumps numbers value ≠ [] := by
      intro value _ empty
      obtain ⟨char, later, same, -⟩ := dumps_head numbers value []
      rw [empty] at same
      cases same
    have read := readItems_dumps ']' (dumps numbers) (readValue_blank numbers bound) rfl (by decide)
      (by decide) (item :: more) nofun written bound (by omega)
      (fun value member short later stops => each value member bound later short stops) rest
    obtain ⟨char, later, starts, solid, open_⟩ : ∃ char later,
        [',', ' '].intercalate ((item :: more).map (dumps numbers)) ++ ']' :: rest =
          char :: later ∧ isBlank char = false ∧ char ≠ ']' := by
      cases more with
      | nil =>
        simp only [List.map_cons, List.map_nil, List.intercalate_singleton]
        exact dumps_head numbers item _
      | cons next more =>
        simp only [List.map_cons, List.intercalate_cons_cons, List.append_assoc]
        exact dumps_head numbers item _
    rw [starts] at read ⊢
    simp only [Solid.skip ⟨char, later, rfl, solid⟩]
    split
    · rename_i same
      exact absurd (List.cons.inj same).1 open_
    · rw [read]
      rfl

theorem readMember_dumps (member : List UInt16 × Json φ) (bound : Nat)
    (reads : ReadsBack numbers member.2) (short : (dumpMember numbers member).length < bound)
    (rest : List Char) (stops : Stops rest) :
    readMember (readValue numbers bound) (dumpMember numbers member ++ rest) =
      some (member, rest) := by
  have text : dumpMember numbers member ++ rest =
      '"' :: (member.1.flatMap writeUnit ++
        '"' :: ':' :: ' ' :: (dumps numbers member.2 ++ rest)) := by
    simp [dumpMember, writeUnits]
  have value := reads bound rest (by
    simp only [dumpMember, List.length_append, List.length_cons] at short
    omega) stops
  rw [text]
  unfold readMember
  simp only [show ∀ more, skip ('"' :: more) = '"' :: more from fun _ => rfl]
  rw [readUnits_writeUnits]
  simp only [Option.bind_eq_bind, Option.bind_some,
    show ∀ more, skip (':' :: more) = ':' :: more from fun _ => rfl]
  rw [readValue_blank, value]
  rfl

theorem readsBack_obj (each : ∀ member ∈ members, ReadsBack numbers member.2) :
    ReadsBack numbers (.obj members) := by
  intro bound rest enough _
  obtain ⟨bound, rfl⟩ := Nat.exists_eq_succ_of_ne_zero (Nat.ne_zero_of_lt enough)
  have text : dumps numbers (.obj members) =
      '\x7b' :: ([',', ' '].intercalate (members.map (dumpMember numbers)) ++ ['\x7d']) := by
    rw [dumps, dumpMembers_eq]
    rfl
  rw [text, List.length_cons, List.length_append, List.length_singleton] at enough
  have whole : dumps numbers (.obj members) ++ rest =
      '\x7b' :: ([',', ' '].intercalate (members.map (dumpMember numbers)) ++ '\x7d' :: rest) := by
    rw [text]
    simp
  rw [whole]
  unfold readValue
  simp only [show ∀ more, skip ('\x7b' :: more) = '\x7b' :: more from fun _ => rfl]
  rw [if_neg (starts_otherwise (by decide) (by decide)), if_neg (starts_otherwise (by decide) (by decide)),
    if_neg (starts_otherwise (by decide) (by decide))]
  cases members with
  | nil => rfl
  | cons member more =>
    have read := readItems_dumps '\x7d' (dumpMember numbers)
      (readMember_blank (readValue numbers bound)) rfl (by decide) (by decide) (member :: more)
      nofun (fun _ _ => nofun) bound (by omega)
      (fun member among short later stops =>
        readMember_dumps numbers member bound (each member among) short later stops) rest
    obtain ⟨later, starts⟩ : ∃ later,
        [',', ' '].intercalate ((member :: more).map (dumpMember numbers)) ++ '\x7d' :: rest =
          '"' :: later := by
      cases more with
      | nil => exact ⟨_, rfl⟩
      | cons next more => exact ⟨_, rfl⟩
    rw [starts] at read ⊢
    simp only [show ∀ more, skip ('"' :: more) = '"' :: more from fun _ => rfl]
    rw [read]
    rfl

mutual

theorem readsBack : ∀ value : Json φ, ReadsBack numbers value
  | .null => by
    intro bound rest enough _
    obtain ⟨bound, rfl⟩ := Nat.exists_eq_succ_of_ne_zero (Nat.ne_zero_of_lt enough)
    rfl
  | .bool true => by
    intro bound rest enough _
    obtain ⟨bound, rfl⟩ := Nat.exists_eq_succ_of_ne_zero (Nat.ne_zero_of_lt enough)
    rfl
  | .bool false => by
    intro bound rest enough _
    obtain ⟨bound, rfl⟩ := Nat.exists_eq_succ_of_ne_zero (Nat.ne_zero_of_lt enough)
    rfl
  | .num value => readsBack_num numbers value
  | .str units => readsBack_str numbers units
  | .arr items => readsBack_arr numbers items (readsBack_items items)
  | .obj members => readsBack_obj numbers members (readsBack_members members)

theorem readsBack_items : ∀ items : List (Json φ), ∀ item ∈ items, ReadsBack numbers item
  | [] => fun _ member => nomatch member
  | item :: rest => List.forall_mem_cons.mpr ⟨readsBack item, readsBack_items rest⟩

theorem readsBack_members : ∀ members : List (List UInt16 × Json φ),
    ∀ member ∈ members, ReadsBack numbers member.2
  | [] => fun _ member => nomatch member
  | (_, value) :: rest => List.forall_mem_cons.mpr ⟨readsBack value, readsBack_members rest⟩

end

def isPrintable (char : Char) : Bool := 0x20 ≤ char.toNat && char.toNat ≤ 0x7E

theorem printable_of_number (chars : text.all isNumberChar = true) :
    text.all isPrintable = true := by
  rw [List.all_eq_true] at chars ⊢
  intro char member
  have number := chars char member
  unfold isNumberChar at number
  simp only [Bool.or_eq_true, beq_iff_eq] at number
  rcases number with ((((digit | rfl) | rfl) | rfl) | rfl) | rfl
  · have bounds := Char.isDigit_iff_toNat.mp digit
    simp only [isPrintable, Bool.and_eq_true, decide_eq_true_eq]
    have low : '0'.toNat = 48 := rfl
    have high : '9'.toNat = 57 := rfl
    omega
  all_goals rfl

theorem writeUnit_printable (unit : UInt16) : (writeUnit unit).all isPrintable = true := by
  unfold writeUnit
  cases escaped : escapes.lookup unit.toNat with
  | some char =>
    have cases : ∀ entry ∈ escapes, isPrintable entry.2 = true := by decide
    obtain ⟨before, after, split, -⟩ := List.lookup_eq_some_iff.mp escaped
    have member : (unit.toNat, char) ∈ escapes := by rw [split]; simp
    have printable := cases (unit.toNat, char) member
    simp only [List.all_cons, List.all_nil, printable]
    rfl
  | none =>
    simp only
    split_ifs with visible
    · have ascii : ∀ number < 128, (Char.ofNat number).toNat = number := by decide
      simp only [List.all_cons, List.all_nil, isPrintable, ascii unit.toNat (by omega)]
      simp [visible]
    · have digits : ∀ digit < 16, isPrintable (hexDigit digit) = true := by decide
      have digit (number : Nat) : isPrintable (hexDigit (number % 16)) = true :=
        digits _ (Nat.mod_lt _ (by decide))
      simp only [hex4, List.all_cons, List.all_nil, digit]
      rfl

theorem writeUnits_printable (units : List UInt16) : (writeUnits units).all isPrintable = true := by
  have inside : (units.flatMap writeUnit).all isPrintable = true := by
    rw [List.all_flatMap, List.all_eq_true]
    exact fun unit _ => writeUnit_printable unit
  unfold writeUnits
  simp only [List.cons_append, List.all_cons, List.all_append, inside, List.all_nil]
  rfl

theorem intercalate_printable (texts : List (List Char))
    (each : ∀ text ∈ texts, text.all isPrintable = true) :
    ([',', ' '].intercalate texts).all isPrintable = true := by
  induction texts with
  | nil => rfl
  | cons text more ih =>
    have own := each text List.mem_cons_self
    have later := ih fun other member => each other (List.mem_cons_of_mem _ member)
    cases more with
    | nil => simpa using own
    | cons next more =>
      rw [List.intercalate_cons_cons, List.all_append, List.all_append, own, later]
      rfl

mutual

theorem dumps_printable : ∀ value : Json φ, (dumps numbers value).all isPrintable = true
  | .null => rfl
  | .bool true => rfl
  | .bool false => rfl
  | .num value => printable_of_number (isNumber_chars (numbers.literal value))
  | .str units => writeUnits_printable units
  | .arr items => by
    have inside := intercalate_printable _ (dumpItems_printable items)
    simp only [dumps, List.cons_append, List.all_cons, List.all_append, inside, List.all_nil]
    rfl
  | .obj members => by
    have inside := intercalate_printable _ (dumpMembers_printable members)
    simp only [dumps, List.cons_append, List.all_cons, List.all_append, inside, List.all_nil]
    rfl

theorem dumpItems_printable : ∀ items : List (Json φ),
    ∀ text ∈ dumpItems numbers items, text.all isPrintable = true
  | [] => fun _ member => nomatch member
  | item :: rest => List.forall_mem_cons.mpr ⟨dumps_printable item, dumpItems_printable rest⟩

theorem dumpMembers_printable : ∀ members : List (List UInt16 × Json φ),
    ∀ text ∈ dumpMembers numbers members, text.all isPrintable = true
  | [] => fun _ member => nomatch member
  | (name, value) :: rest => by
    refine List.forall_mem_cons.mpr ⟨?_, dumpMembers_printable rest⟩
    simp only [List.all_append, List.all_cons, writeUnits_printable, dumps_printable value]
    rfl

end

theorem parse_dumps (value : Json φ) : parse numbers (dumps numbers value) = some value := by
  have read := readsBack numbers value ((dumps numbers value).length + 1) []
    (Nat.lt_succ_self _) rfl
  rw [List.append_nil] at read
  unfold parse
  rw [read]
  rfl

end Values

end Json

end Lib
