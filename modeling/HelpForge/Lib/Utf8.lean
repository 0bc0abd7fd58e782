import Mathlib.Tactic.Common

set_option autoImplicit false

/-!
# UTF-8, read piece by piece

What is not UTF-8 becomes a replacement character; a leading byte order mark is left out.
-/

namespace Lib

variable {byte : Nat} (text : List Char)

namespace Utf8

def encode (text : List Char) : List UInt8 := text.flatMap String.utf8EncodeChar

/-- The character that has begun: its number so far, how many bytes are still to come, and
the bounds of the next one. -/
structure Pending where
  point : Nat := 0
  left : Nat := 0
  lower : Nat := 0x80
  upper : Nat := 0xBF
  deriving DecidableEq, Repr

def replacement : Char := Char.ofNat 0xFFFD

def byteOrderMark : Char := Char.ofNat 0xFEFF

def begin (byte : Nat) : List Char × Pending :=
  if byte ≤ 0x7F then ([Char.ofNat byte], {})
  else if 0xC2 ≤ byte ∧ byte ≤ 0xDF then ([], { point := byte - 0xC0, left := 1 })
  else if 0xE0 ≤ byte ∧ byte ≤ 0xEF then
    ([], { point := byte - 0xE0, left := 2
           lower := if byte = 0xE0 then 0xA0 else 0x80
           upper := if byte = 0xED then 0x9F else 0xBF })
  else if 0xF0 ≤ byte ∧ byte ≤ 0xF4 then
    ([], { point := byte - 0xF0, left := 3
           lower := if byte = 0xF0 then 0x90 else 0x80
           upper := if byte = 0xF4 then 0x8F else 0xBF })
  else ([replacement], {})

/-- The next byte; one that cannot go on begins a character of its own. -/
def push (pending : Pending) (byte : Nat) : List Char × Pending :=
  if pending.left = 0 then begin byte
  else if pending.lower ≤ byte ∧ byte ≤ pending.upper then
    let point := pending.point * 64 + (byte - 0x80)
    if pending.left = 1 then ([Char.ofNat point], {})
    else ([], { point, left := pending.left - 1 })
  else
    let (chars, pending) := begin byte
    (replacement :: chars, pending)

def pushAll : Pending → List UInt8 → List Char × Pending
  | pending, [] => ([], pending)
  | pending, byte :: rest =>
    let (chars, pending) := push pending byte.toNat
    let (later, pending) := pushAll pending rest
    (chars ++ later, pending)

structure TextDecoder where
  pending : Pending := {}
  bomSeen : Bool := false

def dropMark : List Char → List Char
  | [] => []
  | char :: rest => if char = byteOrderMark then rest else char :: rest

/-- `decoder.decode(bytes, { stream: true })` -/
def TextDecoder.decode (decoder : TextDecoder) (bytes : List UInt8) : List Char × TextDecoder :=
  let (chars, pending) := pushAll decoder.pending bytes
  (if decoder.bomSeen then chars else dropMark chars,
    { pending, bomSeen := decoder.bomSeen || !chars.isEmpty })

variable (decoder : TextDecoder)

theorem decode_nil : (decoder.decode []).1 = [] := by
  unfold TextDecoder.decode
  cases decoder.bomSeen <;> rfl

theorem pushAll_append (pending : Pending) (first second : List UInt8) :
    pushAll pending (first ++ second) =
      ((pushAll pending first).1 ++ (pushAll (pushAll pending first).2 second).1,
        (pushAll (pushAll pending first).2 second).2) := by
  induction first generalizing pending with
  | nil => rfl
  | cons byte rest ih =>
    simp only [List.cons_append, pushAll, ih, List.append_assoc]

theorem decode_append (first second : List UInt8) :
    decoder.decode (first ++ second) =
      ((decoder.decode first).1 ++ ((decoder.decode first).2.decode second).1,
        ((decoder.decode first).2.decode second).2) := by
  unfold TextDecoder.decode
  rw [pushAll_append]
  cases seen : decoder.bomSeen with
  | true => simp
  | false =>
    rcases found : (pushAll decoder.pending first).1 with _ | ⟨char, rest⟩
    · simp [found, dropMark]
    · by_cases mark : char = byteOrderMark <;> simp [found, dropMark, mark]

theorem toNat_ofNat (small : byte < 256) : (UInt8.ofNat byte).toNat = byte := by
  rw [UInt8.toNat_ofNat']
  exact Nat.mod_eq_of_lt small

theorem begin_two (low : 0xC2 ≤ byte) (high : byte ≤ 0xDF) :
    begin byte = ([], { point := byte - 0xC0, left := 1 }) := by
  unfold begin
  rw [if_neg (by omega), if_pos ⟨low, high⟩]

theorem begin_three (low : 0xE0 ≤ byte) (high : byte ≤ 0xEF) :
    begin byte = ([], {
      point := byte - 0xE0, left := 2
      lower := if byte = 0xE0 then 0xA0 else 0x80
      upper := if byte = 0xED then 0x9F else 0xBF }) := by
  unfold begin
  rw [if_neg (by omega), if_neg (by omega), if_pos ⟨low, high⟩]

theorem begin_four (low : 0xF0 ≤ byte) (high : byte ≤ 0xF4) :
    begin byte = ([], {
      point := byte - 0xF0, left := 3
      lower := if byte = 0xF0 then 0x90 else 0x80
      upper := if byte = 0xF4 then 0x8F else 0xBF }) := by
  unfold begin
  rw [if_neg (by omega), if_neg (by omega), if_neg (by omega), if_pos ⟨low, high⟩]

theorem push_last {point lower upper : Nat} (low : lower ≤ byte) (high : byte ≤ upper) :
    push { point, left := 1, lower, upper } byte =
      ([Char.ofNat (point * 64 + (byte - 0x80))], {}) := by
  unfold push
  rw [if_neg Nat.one_ne_zero, if_pos ⟨low, high⟩, if_pos rfl]

theorem push_more {point left lower upper : Nat} (low : lower ≤ byte) (high : byte ≤ upper) :
    push { point, left := left + 2, lower, upper } byte =
      ([], { point := point * 64 + (byte - 0x80), left := left + 1 }) := by
  unfold push
  rw [if_neg (Nat.succ_ne_zero _), if_pos ⟨low, high⟩, if_neg (by simp)]
  rfl

theorem push_idle (byte : Nat) : push {} byte = begin byte := rfl

theorem pushAll_two (first second : Nat) (low : 0xC2 ≤ first) (high : first ≤ 0xDF)
    (low' : 0x80 ≤ second) (high' : second ≤ 0xBF) :
    pushAll {} [UInt8.ofNat first, UInt8.ofNat second] =
      ([Char.ofNat ((first - 0xC0) * 64 + (second - 0x80))], {}) := by
  simp only [pushAll, toNat_ofNat (show first < 256 by omega),
    toNat_ofNat (show second < 256 by omega)]
  rw [push_idle, begin_two low high, push_last low' high']
  rfl

theorem pushAll_three (first second third : Nat) (low : 0xE0 ≤ first) (high : first ≤ 0xEF)
    (low' : (if first = 0xE0 then 0xA0 else 0x80) ≤ second)
    (high' : second ≤ if first = 0xED then 0x9F else 0xBF)
    (low'' : 0x80 ≤ third) (high'' : third ≤ 0xBF) :
    pushAll {} [UInt8.ofNat first, UInt8.ofNat second, UInt8.ofNat third] =
      ([Char.ofNat (((first - 0xE0) * 64 + (second - 0x80)) * 64 + (third - 0x80))], {}) := by
  have short : second < 256 := by split at high' <;> omega
  simp only [pushAll, toNat_ofNat (show first < 256 by omega), toNat_ofNat short,
    toNat_ofNat (show third < 256 by omega)]
  rw [push_idle, begin_three low high, push_more low' high', push_last low'' high'']
  rfl

theorem pushAll_four (first second third fourth : Nat) (low : 0xF0 ≤ first)
    (high : first ≤ 0xF4) (low' : (if first = 0xF0 then 0x90 else 0x80) ≤ second)
    (high' : second ≤ if first = 0xF4 then 0x8F else 0xBF)
    (low'' : 0x80 ≤ third ∧ 0x80 ≤ fourth) (high'' : third ≤ 0xBF ∧ fourth ≤ 0xBF) :
    pushAll {} [UInt8.ofNat first, UInt8.ofNat second, UInt8.ofNat third, UInt8.ofNat fourth] =
      ([Char.ofNat ((((first - 0xF0) * 64 + (second - 0x80)) * 64 + (third - 0x80)) * 64 +
        (fourth - 0x80))], {}) := by
  have short : second < 256 := by split at high' <;> omega
  simp only [pushAll, toNat_ofNat (show first < 256 by omega), toNat_ofNat short,
    toNat_ofNat (show third < 256 by omega), toNat_ofNat (show fourth < 256 by omega)]
  rw [push_idle, begin_four low high, push_more low' high', push_more low''.1 high''.1,
    push_last low''.2 high''.2]
  rfl

theorem pushAll_encodeChar (char : Char) :
    pushAll {} (String.utf8EncodeChar char) = ([char], {}) := by
  have same : Char.ofNat char.val.toNat = char := Char.ofNat_toNat char
  have bounds : char.val.toNat < 0xD800 ∨ (0xDFFF < char.val.toNat ∧ char.val.toNat < 0x110000) :=
    char.valid
  unfold String.utf8EncodeChar
  generalize char.val.toNat = v at same bounds
  simp only
  split_ifs with one two three
  · have first : (UInt8.ofNat v).toNat = v := toNat_ofNat (by omega)
    simp [pushAll, push, begin, first, one, same]
  · rw [pushAll_two _ _ (by omega) (by omega) (by omega) (by omega)]
    have whole : (v / 64 % 32 + 192 - 0xC0) * 64 + (v % 64 + 128 - 0x80) = v := by omega
    rw [whole, same]
  · rw [pushAll_three _ _ _ (by omega) (by omega) (by split <;> omega) (by split <;> omega)
      (by omega) (by omega)]
    have whole : ((v / 4096 % 16 + 224 - 0xE0) * 64 + (v / 64 % 64 + 128 - 0x80)) * 64 +
        (v % 64 + 128 - 0x80) = v := by omega
    rw [whole, same]
  · rw [pushAll_four _ _ _ _ (by omega) (by omega) (by split <;> omega) (by split <;> omega)
      (by omega) (by omega)]
    have whole : (((v / 262144 % 8 + 240 - 0xF0) * 64 + (v / 4096 % 64 + 128 - 0x80)) * 64 +
        (v / 64 % 64 + 128 - 0x80)) * 64 + (v % 64 + 128 - 0x80) = v := by omega
    rw [whole, same]

theorem pushAll_encode : pushAll {} (encode text) = (text, {}) := by
  induction text with
  | nil => rfl
  | cons char rest ih =>
    have whole : encode (char :: rest) = String.utf8EncodeChar char ++ encode rest := rfl
    rw [whole, pushAll_append, pushAll_encodeChar, ih]
    rfl

theorem decode_encode (plain : text.head? ≠ some byteOrderMark) :
    (({} : TextDecoder).decode (encode text)).1 = text := by
  unfold TextDecoder.decode
  rw [pushAll_encode]
  cases text with
  | nil => rfl
  | cons char rest =>
    have other : char ≠ byteOrderMark := fun same => plain (congrArg some same)
    simp [dropMark, other]

end Utf8

end Lib
