import Mathlib.Data.List.Basic
import Mathlib.Tactic.Common
import Mathlib.Algebra.Group.Nat.Defs

set_option autoImplicit false

/-!
# Addresses of the internet

Addresses of version 6 are in the one spelling that a serialised URL has for each.
-/

namespace Lib

structure Ipv4 where
  a : Fin 256
  b : Fin 256
  c : Fin 256
  d : Fin 256
  deriving DecidableEq, Repr

namespace Ipv4

def octets (address : Ipv4) : List Nat := [address.a, address.b, address.c, address.d]

def value (address : Ipv4) : Nat :=
  address.a * 2 ^ 24 + address.b * 2 ^ 16 + address.c * 2 ^ 8 + address.d

def text (address : Ipv4) : String :=
  String.ofList (['.'].intercalate (address.octets.map (Nat.toDigits 10)))

theorem not_mem_toDigits {char : Char} (other : char.isDigit = false) (number : Nat) :
    char ∉ Nat.toDigits 10 number := by
  intro member
  have digit := Nat.isDigit_of_mem_toDigits (by decide) (by decide) member
  rw [other] at digit
  cases digit

theorem splitOn_text (address : Ipv4) :
    address.text.toList.splitOn '.' = address.octets.map (Nat.toDigits 10) := by
  rw [text, String.toList_ofList]
  apply List.splitOn_intercalate
  · intro part among
    obtain ⟨octet, -, rfl⟩ := List.mem_map.mp among
    exact not_mem_toDigits (by decide) octet
  · simp [octets]

end Ipv4

/-- The addresses whose first bits, as many as `length`, are those of `base`. -/
structure Cidr where
  base : Ipv4
  length : Fin 33
  deriving DecidableEq, Repr

def Cidr.Contains (block : Cidr) (address : Ipv4) : Prop :=
  address.value / 2 ^ (32 - block.length.val) = block.base.value / 2 ^ (32 - block.length.val)

instance (block : Cidr) (address : Ipv4) : Decidable (block.Contains address) :=
  inferInstanceAs (Decidable (_ = _))

structure Ipv6 where
  p0 : Fin 65536
  p1 : Fin 65536
  p2 : Fin 65536
  p3 : Fin 65536
  p4 : Fin 65536
  p5 : Fin 65536
  p6 : Fin 65536
  p7 : Fin 65536
  deriving DecidableEq, Repr

namespace Ipv6

def pieces (address : Ipv6) : List Nat :=
  [address.p0, address.p1, address.p2, address.p3, address.p4, address.p5, address.p6, address.p7]

def value (address : Ipv6) : Nat :=
  address.p0 * 2 ^ 112 + address.p1 * 2 ^ 96 + address.p2 * 2 ^ 80 + address.p3 * 2 ^ 64 +
    address.p4 * 2 ^ 48 + address.p5 * 2 ^ 32 + address.p6 * 2 ^ 16 + address.p7

def zeros (pieces : List Nat) : Nat := (pieces.takeWhile (· == 0)).length

def compressed (pieces : List Nat) : Option Nat :=
  let run := fun start => zeros (pieces.drop start)
  (List.range pieces.length).find? fun start =>
    1 < run start && (List.range pieces.length).all fun other => run other ≤ run start

def joined (pieces : List Nat) : List Char :=
  [':'].intercalate (pieces.map (Nat.toDigits 16))

def serialize (pieces : List Nat) : List Char :=
  match compressed pieces with
  | none => joined pieces
  | some start =>
    joined (pieces.take start) ++ [':', ':'] ++
      joined (pieces.drop (start + zeros (pieces.drop start)))

def text (address : Ipv6) : String := String.ofList (serialize address.pieces)

example : serialize [0xfe80, 0, 0, 1, 0, 0, 0, 0x1f] = "fe80:0:0:1::1f".toList := by decide +kernel

theorem joined_cons (piece : Nat) (rest : List Nat) :
    ∃ tail, joined (piece :: rest) = Nat.toDigits 16 piece ++ tail := by
  cases rest with
  | nil => exact ⟨[], by simp [joined, List.intercalate]⟩
  | cons next rest =>
    exact ⟨':' :: joined (next :: rest), by
      simp [joined, List.intercalate]⟩

theorem serialize_cons (piece : Nat) (rest : List Nat) (nonzero : piece ≠ 0) :
    ∃ tail, serialize (piece :: rest) = Nat.toDigits 16 piece ++ tail := by
  unfold serialize
  cases found : compressed (piece :: rest) with
  | none => exact joined_cons piece rest
  | some start =>
    cases start with
    | zero =>
      have run := List.find?_some found
      simp [zeros, nonzero] at run
    | succ start =>
      obtain ⟨tail, first⟩ := joined_cons piece (rest.take start)
      simp only [List.take_succ_cons, first, List.append_assoc]
      exact ⟨_, rfl⟩

def mapped (address : Ipv4) : Ipv6 :=
  ⟨0, 0, 0, 0, 0, 0xffff, ⟨address.a * 256 + address.b, by omega⟩,
    ⟨address.c * 256 + address.d, by omega⟩⟩

theorem compressed_mapped (high low : Nat) :
    compressed [0, 0, 0, 0, 0, 0xffff, high, low] = some 0 := by
  by_cases upper : high = 0 <;> by_cases lower : low = 0 <;>
    simp [compressed, List.range_succ, zeros, upper, lower]

theorem serialize_mapped (high low : Nat) :
    serialize [0, 0, 0, 0, 0, 0xffff, high, low] =
      "::ffff:".toList ++ (Nat.toDigits 16 high ++ ':' :: Nat.toDigits 16 low) := by
  have ones : Nat.toDigits 16 0xffff = ['f', 'f', 'f', 'f'] := by decide +kernel
  rw [serialize, compressed_mapped]
  simp [zeros, joined, List.intercalate, ones]

theorem toDigits_above (number : Nat) (large : 16 ≤ number) :
    Nat.toDigits 16 number = Nat.toDigits 16 (number / 16) ++ [(number % 16).digitChar] :=
  Nat.toDigits_of_base_le (by decide) large

theorem forall_toDigits {holds : Char → Prop} (digits : ∀ value < 16, holds (Nat.digitChar value))
    (number : Nat) : ∀ char ∈ Nat.toDigits 16 number, holds char := by
  induction number using Nat.strongRecOn with
  | ind number ih =>
    intro char member
    by_cases small : number < 16
    · rw [Nat.toDigits_of_lt_base small, List.mem_singleton] at member
      rw [member]
      exact digits number small
    · rw [toDigits_above number (by omega), List.mem_append, List.mem_singleton] at member
      rcases member with above | last
      · exact ih (number / 16) (by omega) char above
      · rw [last]
        exact digits _ (Nat.mod_lt _ (by decide))

end Ipv6

end Lib
