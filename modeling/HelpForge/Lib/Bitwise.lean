import Mathlib.Data.BitVec
import Mathlib.Tactic.Common

set_option autoImplicit false

/-!
# Bitwise operators of 32 bits

Operands are taken modulo `2 ^ 32`; only the unsigned shift has an unsigned result.
-/

namespace Lib.Bitwise

def bits (value : Int) : BitVec 32 := BitVec.ofInt 32 value

def shiftLeft (value : Int) (count : Nat) : Int := (bits value <<< (count % 32)).toInt

def or (one other : Int) : Int := (bits one ||| bits other).toInt

def and (one other : Int) : Int := (bits one &&& bits other).toInt

def shiftRightUnsigned (value : Int) (count : Nat) : Int :=
  ((bits value >>> (count % 32)).toNat : Nat)

variable (word : BitVec 32)

@[simp] theorem bits_toInt : bits word.toInt = word := BitVec.ofInt_toInt

@[simp] theorem bits_toNat : bits (word.toNat : Int) = word := by
  simp [bits]

@[simp] theorem bits_natCast (value : Nat) : bits (value : Int) = BitVec.ofNat 32 value := by
  simp [bits]

@[simp] theorem bits_shiftLeft (value : Int) (count : Nat) :
    bits (shiftLeft value count) = bits value <<< (count % 32) := bits_toInt _

@[simp] theorem bits_or (one other : Int) : bits (or one other) = bits one ||| bits other :=
  bits_toInt _

@[simp] theorem bits_shiftRightUnsigned (value : Int) (count : Nat) :
    bits (shiftRightUnsigned value count) = bits value >>> (count % 32) := bits_toNat _

theorem and_eq_and_iff (one other mask mask' : Int) :
    and one mask = and other mask' ↔ bits one &&& bits mask = bits other &&& bits mask' :=
  BitVec.toInt_inj

theorem masked_eq_iff (one other : BitVec 32) (low : Nat) :
    one &&& BitVec.allOnes 32 <<< low = other &&& BitVec.allOnes 32 <<< low ↔
      one.toNat / 2 ^ low = other.toNat / 2 ^ low := by
  have shifted : one.toNat / 2 ^ low = other.toNat / 2 ^ low ↔ one >>> low = other >>> low := by
    rw [← BitVec.toNat_inj, BitVec.toNat_ushiftRight, BitVec.toNat_ushiftRight,
      Nat.shiftRight_eq_div_pow, Nat.shiftRight_eq_div_pow]
  rw [shifted]
  have masked (word : BitVec 32) (index : Nat) :
      (word &&& BitVec.allOnes 32 <<< low).getLsbD index =
        (word.getLsbD index && decide (low ≤ index)) := by
    by_cases inside : index < 32
    · by_cases below : index < low
      · simp only [BitVec.getLsbD_and, BitVec.getLsbD_shiftLeft, below, decide_true, Bool.not_true,
          Bool.and_false, Bool.false_and, decide_eq_false (Nat.not_le.mpr below)]
      · have above : index - low < 32 := by omega
        simp only [BitVec.getLsbD_and, BitVec.getLsbD_shiftLeft, inside, below, above, decide_true,
          decide_false, Bool.not_false, Bool.true_and, BitVec.getLsbD_allOnes,
          decide_eq_true (Nat.not_lt.mp below)]
    · simp only [BitVec.getLsbD_of_ge _ index (Nat.not_lt.mp inside), Bool.false_and]
  constructor
  · intro same
    apply BitVec.eq_of_getLsbD_eq
    intro index _
    have bit := congrArg (fun word => BitVec.getLsbD word (low + index)) same
    simpa only [masked, BitVec.getLsbD_ushiftRight, Nat.le_add_right, decide_true, Bool.and_true]
      using bit
  · intro same
    apply BitVec.eq_of_getLsbD_eq
    intro index _
    rw [masked, masked]
    by_cases above : low ≤ index
    · have bit := congrArg (fun word => BitVec.getLsbD word (index - low)) same
      have there : low + (index - low) = index := by omega
      simp only [BitVec.getLsbD_ushiftRight, there] at bit
      rw [bit]
    · simp [above]

end Lib.Bitwise
