import BumpinHost.Library.ByteMemory
import Mathlib.Data.Nat.Bitwise

/-!
# Bit fields of machine words

Packet headers and instruction words pack several unsigned fields into one
word.  These lemmas read a shift-and-mask field as a quotient and remainder,
which is the form linear arithmetic understands.
-/

namespace BumpinHost.BitFields

/-- The field of `width` bits at `shift`, as arithmetic. -/
theorem toNat_field (word : Word) (shift width : Nat)
    (fits : 2 ^ width ≤ 2 ^ 32) :
    ((word >>> shift) &&& BitVec.ofNat 32 (2 ^ width - 1)).toNat =
      word.toNat / 2 ^ shift % 2 ^ width := by
  have positive : 0 < 2 ^ width := Nat.two_pow_pos width
  have maskValue : (2 ^ width - 1) % 2 ^ 32 = 2 ^ width - 1 :=
    Nat.mod_eq_of_lt (by omega)
  rw [BitVec.toNat_and, BitVec.toNat_ushiftRight, BitVec.toNat_ofNat, maskValue,
    Nat.shiftRight_eq_div_pow, Nat.and_two_pow_sub_one_eq_mod]

/-- The lowest field of a word, as arithmetic. -/
theorem toNat_lowField (word : Word) (width : Nat) (fits : 2 ^ width ≤ 2 ^ 32) :
    (word &&& BitVec.ofNat 32 (2 ^ width - 1)).toNat = word.toNat % 2 ^ width := by
  have field := toNat_field word 0 width fits
  simpa using field

/-- Testing one bit of a word by a mask. -/
theorem mask_bit_ne_zero (word : Word) (bit : Nat) (fits : bit < 32) :
    (word &&& BitVec.ofNat 32 (2 ^ bit) != 0) = (word.toNat / 2 ^ bit % 2 == 1) := by
  have maskValue : 2 ^ bit % 2 ^ 32 = 2 ^ bit :=
    Nat.mod_eq_of_lt (Nat.pow_lt_pow_right (by decide) fits)
  have masked : (word &&& BitVec.ofNat 32 (2 ^ bit)).toNat =
      (word.toNat.testBit bit).toNat * 2 ^ bit := by
    rw [BitVec.toNat_and, BitVec.toNat_ofNat, maskValue, Nat.and_two_pow]
  rw [Nat.testBit_eq_decide_div_mod_eq] at masked
  have positive : 0 < 2 ^ bit := Nat.two_pow_pos bit
  by_cases set : word.toNat / 2 ^ bit % 2 = 1
  · have nonzero : word &&& BitVec.ofNat 32 (2 ^ bit) ≠ 0 := by
      intro zero
      rw [zero] at masked
      simp only [set, decide_true, Bool.toNat_true, one_mul] at masked
      exact Nat.ne_of_gt positive masked.symm
    rw [set, beq_self_eq_true, bne_iff_ne]
    exact nonzero
  · have zero : word &&& BitVec.ofNat 32 (2 ^ bit) = 0 := by
      apply BitVec.eq_of_toNat_eq
      rw [masked]
      simp [set]
    rw [zero, bne_self_eq_false]
    exact (beq_eq_false_iff_ne.mpr set).symm

end BumpinHost.BitFields
