import HelpForge.Lib.Whitespace

set_option autoImplicit false

namespace HelpForge.Chatbot

/-- `str.isspace` of one character, which is also what `\s` matches. -/
def isSpace (char : Char) : Bool :=
  let code := char.toNat
  (9 ≤ code && code ≤ 13) || (28 ≤ code && code ≤ 32) || code == 0x85 || code == 0xA0 ||
    code == 0x1680 || (0x2000 ≤ code && code ≤ 0x200A) || code == 0x2028 || code == 0x2029 ||
    code == 0x202F || code == 0x205F || code == 0x3000

def strip (text : List Char) : List Char :=
  ((text.dropWhile isSpace).reverse.dropWhile isSpace).reverse

def stripped (text : String) : String := String.ofList (strip text.toList)

/-- `text.split(",")[0].strip()`. -/
def firstEntry (text : String) : String :=
  String.ofList (strip (text.toList.takeWhile (· != ',')))

def splitCommas (text : String) : List String :=
  (text.toList.splitOn ',').map String.ofList

/-- `text.partition(":")`, without the separator. -/
def partitionColon (text : String) : String × String :=
  (String.ofList (text.toList.takeWhile (· != ':')),
    String.ofList ((text.toList.dropWhile (· != ':')).drop 1))

def isAscii (text : String) : Bool := text.toList.all fun char => char.toNat < 128

/-- Digits, with single underscores between them, read onto `value`. -/
def readDigits (value : Nat) (afterDigit : Bool) : List Char → Option Nat
  | [] => if afterDigit then some value else none
  | char :: rest =>
    if char = '_' then if afterDigit then readDigits value false rest else none
    else if char.isDigit then readDigits (10 * value + (char.toNat - '0'.toNat)) true rest
    else none

def readWhole (digits : List Char) : Option Int :=
  -- A whole number without a sign; the interpreter refuses more than 4300 digits.
  if (digits.filter Char.isDigit).length > 4300 then none
  else (readDigits 0 false digits).map Int.ofNat

def parseInt (text : String) : Option Int :=
  match strip text.toList with
  | '-' :: digits => (readWhole digits).map fun value => -value
  | '+' :: digits => readWhole digits
  | digits => readWhole digits

variable (text : List Char)

theorem strip_eq_self (solid : ∀ char ∈ text, isSpace char = false) : strip text = text := by
  have keeps : ∀ chars : List Char, (∀ char ∈ chars, isSpace char = false) →
      chars.dropWhile isSpace = chars := by
    intro chars solid
    cases chars with
    | nil => rfl
    | cons first rest => simp [solid first (List.mem_cons_self ..)]
  unfold strip
  rw [keeps text solid, keeps _ (by simpa using solid), List.reverse_reverse]

theorem isSpace_of_isDigit (char : Char) (digit : char.isDigit = true) : isSpace char = false := by
  have range : 48 ≤ char.toNat ∧ char.toNat ≤ 57 := by
    simp only [Char.isDigit, Bool.and_eq_true, decide_eq_true_eq, ge_iff_le,
      UInt32.le_iff_toNat_le] at digit
    exact digit
  simp only [isSpace, Bool.or_eq_false_iff, Bool.and_eq_false_iff, decide_eq_false_iff_not,
    beq_eq_false_iff_ne]
  omega

theorem readDigits_digits (digits : List Char) (value : Nat) (afterDigit : Bool)
    (all : ∀ char ∈ digits, char.isDigit = true) (some_ : digits ≠ [] ∨ afterDigit = true) :
    readDigits value afterDigit digits = some (Nat.ofDigitChars 10 digits value) := by
  induction digits generalizing value afterDigit with
  | nil => simpa [readDigits] using some_
  | cons char rest ih =>
    have digit := all char (List.mem_cons_self ..)
    have plain : char ≠ '_' := by
      rintro rfl
      exact absurd digit (by decide)
    rw [readDigits, if_neg plain, if_pos digit, Nat.ofDigitChars_cons]
    exact ih _ true (fun other member => all other (List.mem_cons_of_mem _ member)) (.inr rfl)

theorem parseInt_toString (value : Nat) (short : (Nat.toDigits 10 value).length ≤ 4300) :
    parseInt (toString value) = some (value : Int) := by
  have chars : (toString value).toList = Nat.toDigits 10 value := by
    rw [Nat.toString_eq_ofList_toDigits, String.toList_ofList]
  have all : ∀ char ∈ Nat.toDigits 10 value, char.isDigit = true := fun char member =>
    Nat.isDigit_of_mem_toDigits (by decide) (by decide) member
  have solid : strip (Nat.toDigits 10 value) = Nat.toDigits 10 value :=
    strip_eq_self _ fun char member => isSpace_of_isDigit char (all char member)
  have whole : readWhole (Nat.toDigits 10 value) = some (value : Int) := by
    unfold readWhole
    rw [List.filter_eq_self.mpr all, if_neg (by omega),
      readDigits_digits _ 0 false all (.inl Nat.toDigits_ne_nil), Nat.ofDigitChars_ten_toDigits]
    rfl
  have unsigned : ∀ (sign : Char) (rest : List Char), Nat.toDigits 10 value = sign :: rest →
      sign.isDigit = true := by
    intro sign rest first
    exact all sign (first ▸ List.mem_cons_self ..)
  unfold parseInt
  rw [chars, solid]
  split
  next digits first => exact absurd (unsigned '-' digits first) (by decide)
  next digits first => exact absurd (unsigned '+' digits first) (by decide)
  next => exact whole

/-! ### What stripping leaves

`str.strip` takes white space away at the ends, and nothing else.
-/

open Lib

theorem strip_eq_drops :
    strip text = (text.dropWhile isSpace).rdropWhile isSpace := rfl

theorem solid_strip : Whitespace.solid isSpace (strip text) = Whitespace.solid isSpace text := by
  rw [strip_eq_drops, Whitespace.solid_rdropWhile, Whitespace.solid_dropWhile]

theorem strip_eq_nil_iff : strip text = [] ↔ ∀ char ∈ text, isSpace char = true := by
  constructor
  · intro blank
    have kept := solid_strip text
    rw [blank] at kept
    have none_solid : text.filter (fun char => !isSpace char) = [] := kept.symm
    simpa using none_solid
  · intro blank
    rw [strip_eq_drops, List.dropWhile_eq_nil_iff.mpr blank]
    rfl

theorem head_strip {text rest : List Char} {first : Char} (begins : strip text = first :: rest) :
    isSpace first = false := by
  have before : strip text <+: text.dropWhile isSpace := List.rdropWhile_prefix _ _
  rw [begins] at before
  obtain ⟨tail, whole⟩ := before
  have opening := List.head?_dropWhile_not isSpace text
  rw [← whole] at opening
  simpa using opening

theorem last_strip {text : List Char} {last : Char} (ends : (strip text).getLast? = some last) :
    isSpace last = false := by
  have some_ : (text.dropWhile isSpace).rdropWhile isSpace ≠ [] := by
    intro blank
    rw [strip_eq_drops, blank] at ends
    cases ends
  have found : some last = some (((text.dropWhile isSpace).rdropWhile isSpace).getLast some_) := by
    rw [← List.getLast?_eq_some_getLast some_]
    exact ends.symm
  have stays := List.rdropWhile_last_not isSpace (text.dropWhile isSpace) some_
  rw [← Option.some.inj found] at stays
  simpa using stays

theorem strip_eq_self_iff :
    strip text = text ↔ (∀ char ∈ text.head?, isSpace char = false) ∧
      ∀ char ∈ text.getLast?, isSpace char = false := by
  constructor
  · intro trimmed
    constructor
    · intro char first
      obtain ⟨rest, begins⟩ := List.head?_eq_some_iff.mp first
      exact head_strip (trimmed.trans begins)
    · intro char last
      rw [← trimmed] at last
      exact last_strip last
  · rintro ⟨begins, ends⟩
    have front : text.dropWhile isSpace = text := by
      cases text with
      | nil => rfl
      | cons first rest => simp [begins first rfl]
    rw [strip_eq_drops, front, List.rdropWhile_eq_self_iff]
    intro some_
    simpa using ends _ (List.getLast?_eq_some_getLast some_)

theorem strip_strip : strip (strip text) = strip text := by
  rw [strip_eq_self_iff]
  constructor
  · intro char first
    obtain ⟨rest, begins⟩ := List.head?_eq_some_iff.mp first
    exact head_strip begins
  · intro char last
    exact last_strip last

end HelpForge.Chatbot
