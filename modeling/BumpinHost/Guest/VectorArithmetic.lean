import BumpinHost.Guest.VectorPermutation

/-!
# Vector arithmetic that the host does not have

The guest adds with saturation, averages signed values, compares unsigned values and shifts
a whole register by bits.  The host has the sums that wrap, the averages of unsigned values,
the comparisons of signed values and shifts of the two halves.
-/

namespace BumpinHost.Guest

open Lanes (lane lane_lane eq_of_lanes getLsbD_lane)

def simdeMmAddsEpu32 (simde : Simde) (a b : Vec) : Vec :=
  simde.addEpi32 a (simde.minEpu32 (simde.xorSi128 a (simde.cmpeqEpi32 a a)) b)

/-- The sum, or the greatest value when the sum does not fit. -/
def saturatingSum {width : Nat} (a b : BitVec width) : BitVec width :=
  BitVec.ofNat width (min (a.toNat + b.toNat) (2 ^ width - 1))

/-- The rounded mean of signed values. -/
def signedAverage {width : Nat} (a b : BitVec width) : BitVec width :=
  BitVec.ofInt width ((a.toInt + b.toInt + 1) / 2)

/-- An average of values with flipped signs, flipped back. -/
def flippedAverage (simde : Simde) (average : Vec → Vec → Vec) (c a b : Vec) : Vec :=
  simde.xorSi128 c (average (simde.xorSi128 c a) (simde.xorSi128 c b))

def simdeMmAvgEpi8 (simde : Simde) (a b : Vec) : Vec :=
  flippedAverage simde simde.avgEpu8 (simde.set1Epi8 128) a b

def simdeMmAvgEpi16 (simde : Simde) (a b : Vec) : Vec :=
  flippedAverage simde simde.avgEpu16 (simde.set1Epi16 32768) a b

/-- A comparison of values with flipped signs. -/
def flippedComparison (simde : Simde) (compare : Vec → Vec → Vec) (c a b : Vec) : Vec :=
  compare (simde.xorSi128 a c) (simde.xorSi128 b c)

def simdeMmCmpgtEpu8 (simde : Simde) (a b : Vec) : Vec :=
  flippedComparison simde simde.cmpgtEpi8 (simde.set1Epi8 128) a b

def simdeMmCmpgtEpu16 (simde : Simde) (a b : Vec) : Vec :=
  flippedComparison simde simde.cmpgtEpi16 (simde.set1Epi16 32768) a b

def simdeMmVsr (simde : Simde) (a b : Vec) : Vec :=
  let b := simde.srliEpi64 (simde.slliEpi64 b 61) 61
  simde.insertPs (simde.srlEpi64 a b) (simde.srlEpi64 (simde.srliSi128 a 4) b) 0x10

section OneLane

variable {bits : Nat}

theorem toNat_unsignedAverage {width : Nat} (a b : BitVec width) :
    (unsignedAverage a b).toNat = (a.toNat + b.toNat + 1) / 2 := by
  have first := a.isLt
  have second := b.isLt
  rw [unsignedAverage, BitVec.toNat_ofNat, Nat.mod_eq_of_lt (by omega)]

/-- With signs flipped on the way in and out, the unsigned average is the signed one. -/
theorem flippedAverage_eq (a b : BitVec (bits + 1)) :
    (BitVec.intMin (bits + 1) ^^^ unsignedAverage (BitVec.intMin (bits + 1) ^^^ a)
      (BitVec.intMin (bits + 1) ^^^ b)) = signedAverage a b := by
  rw [signedAverage, ← BitVec.ofInt_toInt (x := BitVec.intMin (bits + 1) ^^^ _)]
  congr 1
  rw [BitVec.xor_comm, Lanes.toInt_xor_intMin, toNat_unsignedAverage,
    BitVec.xor_comm _ a, BitVec.xor_comm _ b]
  have first := Lanes.toNat_xor_intMin a
  have second := Lanes.toNat_xor_intMin b
  omega

/-- With signs flipped the signed comparison is the unsigned one. -/
theorem slt_flipped (a b : BitVec (bits + 1)) :
    (b ^^^ BitVec.intMin (bits + 1)).slt (a ^^^ BitVec.intMin (bits + 1)) = b.ult a := by
  rw [BitVec.slt, BitVec.ult, Lanes.toInt_xor_intMin, Lanes.toInt_xor_intMin]
  congr 1
  simp only [sub_lt_sub_iff_right, Nat.cast_lt]

theorem toNat_saturatingSum {width : Nat} (a b : BitVec width) :
    (saturatingSum a b).toNat = min (a.toNat + b.toNat) (2 ^ width - 1) := by
  have positive := Nat.two_pow_pos width
  rw [saturatingSum, BitVec.toNat_ofNat, Nat.mod_eq_of_lt (by omega)]

/-- What is added is at most what is left up to the greatest value. -/
theorem saturatingSum_eq {width : Nat} (a b : BitVec width) :
    (a + if ~~~a ≤ b then ~~~a else b) = saturatingSum a b := by
  apply BitVec.eq_of_toNat_eq
  have complement : (~~~a).toNat = 2 ^ width - 1 - a.toNat := BitVec.toNat_not
  have first := a.isLt
  have second := b.isLt
  rw [toNat_saturatingSum]
  split
  case isTrue saturates =>
      rw [BitVec.le_def, complement] at saturates
      rw [BitVec.toNat_add, complement, Nat.mod_eq_of_lt (by omega)]
      omega
  case isFalse fits =>
      rw [BitVec.le_def, complement] at fits
      rw [BitVec.toNat_add, Nat.mod_eq_of_lt (by omega)]
      omega

end OneLane

section Lanes

variable (simde : Simde)

theorem simdeMmAddsEpu32_lanes : Lanewise₂ 32 (simdeMmAddsEpu32 simde) saturatingSum := by
  intro a b index inside
  unfold simdeMmAddsEpu32
  rw [simde.addEpi32_lane _ _ _ inside, simde.minEpu32_lane _ _ _ inside, simde.xorSi128_eq,
    Lanes.lane_xor, simde.cmpeqEpi32_lane _ _ _ inside]
  simp only [beq_self_eq_true, laneMask, if_true, BitVec.xor_allOnes]
  exact saturatingSum_eq ..

theorem simdeMmAvgEpi8_lanes : Lanewise₂ 8 (simdeMmAvgEpi8 simde) signedAverage := by
  intro a b index inside
  unfold simdeMmAvgEpi8 flippedAverage
  simp only [simde.xorSi128_eq, Lanes.lane_xor, simde.avgEpu8_lane _ _ _ inside,
    simde.set1Epi8_lane _ _ inside]
  exact flippedAverage_eq ..

theorem simdeMmAvgEpi16_lanes : Lanewise₂ 16 (simdeMmAvgEpi16 simde) signedAverage := by
  intro a b index inside
  unfold simdeMmAvgEpi16 flippedAverage
  simp only [simde.xorSi128_eq, Lanes.lane_xor, simde.avgEpu16_lane _ _ _ inside,
    simde.set1Epi16_lane _ _ inside]
  exact flippedAverage_eq ..

theorem simdeMmCmpgtEpu8_lanes :
    Lanewise₂ 8 (simdeMmCmpgtEpu8 simde) fun a b => laneMask (b.ult a) := by
  intro a b index inside
  unfold simdeMmCmpgtEpu8 flippedComparison
  simp only [simde.xorSi128_eq, Lanes.lane_xor, simde.cmpgtEpi8_lane _ _ _ inside,
    simde.set1Epi8_lane _ _ inside]
  exact congrArg laneMask (slt_flipped ..)

theorem simdeMmCmpgtEpu16_lanes :
    Lanewise₂ 16 (simdeMmCmpgtEpu16 simde) fun a b => laneMask (b.ult a) := by
  intro a b index inside
  unfold simdeMmCmpgtEpu16 flippedComparison
  simp only [simde.xorSi128_eq, Lanes.lane_xor, simde.cmpgtEpi16_lane _ _ _ inside,
    simde.set1Epi16_lane _ _ inside]
  exact congrArg laneMask (slt_flipped ..)

variable (a b : Vec) {index : Nat}

/-- The count is the lowest three bits. -/
theorem shiftCount :
    (lane 64 (simde.srliEpi64 (simde.slliEpi64 b 61) 61) 0).toNat = b.toNat % 8 := by
  rw [simde.srliEpi64_lane _ _ _ (by decide), simde.slliEpi64_lane _ _ _ (by decide),
    BitVec.toNat_ushiftRight, BitVec.toNat_shiftLeft, Lanes.toNat_lane, Nat.shiftRight_eq_div_pow,
    Nat.shiftLeft_eq]
  omega

/-- A bit of a half, of which the bits above are gone. -/
theorem getLsbD_srlEpi64 (count : Vec) {half part bit : Nat} (isHalf : half < 2) (isPart : part < 2)
    (inside : bit < 32) :
    (lane 32 (simde.srlEpi64 a count) (2 * half + part)).getLsbD bit =
      (decide ((lane 64 count 0).toNat + (32 * part + bit) < 64) &&
        a.getLsbD (64 * half + ((lane 64 count 0).toNat + (32 * part + bit)))) := by
  have halves : lane 32 (lane (32 * 2) (simde.srlEpi64 a count) half) part =
      lane 32 (simde.srlEpi64 a count) (2 * half + part) := lane_lane _ 2 isPart
  rw [← halves, simde.srlEpi64_lane _ _ _ isHalf, getLsbD_lane, BitVec.getLsbD_ushiftRight,
    getLsbD_lane]
  simp only [inside, decide_true, Bool.true_and]

/-- Lane 1 comes from the register moved down by 4 bytes, where its upper bits are not cut. -/
theorem getLsbD_simdeMmVsr {bit : Nat} (isLane : index < 4) (inside : bit < 32) :
    (lane 32 (simdeMmVsr simde a b) index).getLsbD bit =
      a.getLsbD (b.toNat % 8 + (32 * index + bit)) := by
  have count := shiftCount simde b
  have small : b.toNat % 8 < 8 := Nat.mod_lt _ (by decide)
  unfold simdeMmVsr
  dsimp only
  rw [simde.insertPs_lane _ _ _ _ isLane]
  obtain rfl | rfl | rfl | rfl : index = 0 ∨ index = 1 ∨ index = 2 ∨ index = 3 := by omega
  · rw [if_neg (by decide), if_neg (by decide),
      getLsbD_srlEpi64 simde _ _ (by decide : 0 < 2) (by decide : 0 < 2) inside, count,
      decide_eq_true (by omega), Bool.true_and]
    congr 1
    omega
  · rw [if_neg (by decide), if_pos (by decide),
      getLsbD_srlEpi64 simde _ _ (by decide : 0 < 2) (by decide : 0 < 2) inside, count,
      decide_eq_true (by omega), Bool.true_and, simde.srliSi128_eq, BitVec.getLsbD_ushiftRight]
    congr 1
    omega
  · rw [if_neg (by decide), if_neg (by decide),
      getLsbD_srlEpi64 simde _ _ (by decide : 1 < 2) (by decide : 0 < 2) inside, count,
      decide_eq_true (by omega), Bool.true_and]
    congr 1
    omega
  · rw [if_neg (by decide), if_neg (by decide),
      getLsbD_srlEpi64 simde _ _ (by decide : 1 < 2) (by decide : 1 < 2) inside, count]
    by_cases cut : b.toNat % 8 + (32 * 1 + bit) < 64
    · rw [decide_eq_true cut, Bool.true_and]
      congr 1
      omega
    · rw [decide_eq_false cut, Bool.false_and, BitVec.getLsbD_of_ge _ _ (by omega)]

/-- The two shifted halves and the lane inserted between them are the shifted register. -/
theorem simdeMmVsr_eq : simdeMmVsr simde a b = a >>> (b.toNat % 8) := by
  refine @eq_of_lanes 32 128 _ _ 4 rfl fun index isLane => ?_
  apply BitVec.eq_of_getLsbD_eq
  intro bit inside
  rw [getLsbD_simdeMmVsr simde a b isLane inside, getLsbD_lane, BitVec.getLsbD_ushiftRight,
    decide_eq_true inside, Bool.true_and]

end Lanes

/-- Whatever intrinsics keep their documentation, the helpers do what the guest's instructions
do: sums that saturate, means of signed lanes, unsigned comparisons, and the whole register
shifted right by the lowest three bits of the count. -/
theorem vectorHelpers_guestMeaning (simde : Simde) :
    Lanewise₂ 32 (simdeMmAddsEpu32 simde) saturatingSum ∧
      Lanewise₂ 8 (simdeMmAvgEpi8 simde) signedAverage ∧
      Lanewise₂ 16 (simdeMmAvgEpi16 simde) signedAverage ∧
      Lanewise₂ 8 (simdeMmCmpgtEpu8 simde) (fun a b => laneMask (b.ult a)) ∧
      Lanewise₂ 16 (simdeMmCmpgtEpu16 simde) (fun a b => laneMask (b.ult a)) ∧
      ∀ a b, simdeMmVsr simde a b = a >>> (b.toNat % 8) :=
  ⟨simdeMmAddsEpu32_lanes simde, simdeMmAvgEpi8_lanes simde, simdeMmAvgEpi16_lanes simde,
    simdeMmCmpgtEpu8_lanes simde, simdeMmCmpgtEpu16_lanes simde, simdeMmVsr_eq simde⟩

/-- The intrinsics computed lane by lane keep their documentation. -/
theorem vectorHelpers_guestMeaning_documented :
    simdeMmVsr Simde.documented (0x80 <<< 120) 3 = 0x10 <<< 120 :=
  (vectorHelpers_guestMeaning Simde.documented).2.2.2.2.2 _ _

end BumpinHost.Guest
