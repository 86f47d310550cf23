import BumpinHost.Guest.Intrinsics
import BumpinHost.Library.ByteMemory

/-!
# Permutations of vector bytes

A register of the guest is kept with its bytes reversed.  A permutation selects 16 bytes out
of two registers, and tables of masks make unaligned accesses out of aligned ones: each
half of an unaligned value is shuffled out of its block, or both blocks are loaded and a
permutation selects from them.
-/

namespace BumpinHost.Guest

open Lanes (lane ofLanes lane_ofLanes lane_lane eq_of_lanes getLsbD_lane)

def vectorMaskL : List Byte := [
  0x0F, 0x0E, 0x0D, 0x0C, 0x0B, 0x0A, 0x09, 0x08, 0x07, 0x06, 0x05, 0x04, 0x03, 0x02, 0x01, 0x00,
  0xFF, 0x0F, 0x0E, 0x0D, 0x0C, 0x0B, 0x0A, 0x09, 0x08, 0x07, 0x06, 0x05, 0x04, 0x03, 0x02, 0x01,
  0xFF, 0xFF, 0x0F, 0x0E, 0x0D, 0x0C, 0x0B, 0x0A, 0x09, 0x08, 0x07, 0x06, 0x05, 0x04, 0x03, 0x02,
  0xFF, 0xFF, 0xFF, 0x0F, 0x0E, 0x0D, 0x0C, 0x0B, 0x0A, 0x09, 0x08, 0x07, 0x06, 0x05, 0x04, 0x03,
  0xFF, 0xFF, 0xFF, 0xFF, 0x0F, 0x0E, 0x0D, 0x0C, 0x0B, 0x0A, 0x09, 0x08, 0x07, 0x06, 0x05, 0x04,
  0xFF, 0xFF, 0xFF, 0xFF, 0xFF, 0x0F, 0x0E, 0x0D, 0x0C, 0x0B, 0x0A, 0x09, 0x08, 0x07, 0x06, 0x05,
  0xFF, 0xFF, 0xFF, 0xFF, 0xFF, 0xFF, 0x0F, 0x0E, 0x0D, 0x0C, 0x0B, 0x0A, 0x09, 0x08, 0x07, 0x06,
  0xFF, 0xFF, 0xFF, 0xFF, 0xFF, 0xFF, 0xFF, 0x0F, 0x0E, 0x0D, 0x0C, 0x0B, 0x0A, 0x09, 0x08, 0x07,
  0xFF, 0xFF, 0xFF, 0xFF, 0xFF, 0xFF, 0xFF, 0xFF, 0x0F, 0x0E, 0x0D, 0x0C, 0x0B, 0x0A, 0x09, 0x08,
  0xFF, 0xFF, 0xFF, 0xFF, 0xFF, 0xFF, 0xFF, 0xFF, 0xFF, 0x0F, 0x0E, 0x0D, 0x0C, 0x0B, 0x0A, 0x09,
  0xFF, 0xFF, 0xFF, 0xFF, 0xFF, 0xFF, 0xFF, 0xFF, 0xFF, 0xFF, 0x0F, 0x0E, 0x0D, 0x0C, 0x0B, 0x0A,
  0xFF, 0xFF, 0xFF, 0xFF, 0xFF, 0xFF, 0xFF, 0xFF, 0xFF, 0xFF, 0xFF, 0x0F, 0x0E, 0x0D, 0x0C, 0x0B,
  0xFF, 0xFF, 0xFF, 0xFF, 0xFF, 0xFF, 0xFF, 0xFF, 0xFF, 0xFF, 0xFF, 0xFF, 0x0F, 0x0E, 0x0D, 0x0C,
  0xFF, 0xFF, 0xFF, 0xFF, 0xFF, 0xFF, 0xFF, 0xFF, 0xFF, 0xFF, 0xFF, 0xFF, 0xFF, 0x0F, 0x0E, 0x0D,
  0xFF, 0xFF, 0xFF, 0xFF, 0xFF, 0xFF, 0xFF, 0xFF, 0xFF, 0xFF, 0xFF, 0xFF, 0xFF, 0xFF, 0x0F, 0x0E,
  0xFF, 0xFF, 0xFF, 0xFF, 0xFF, 0xFF, 0xFF, 0xFF, 0xFF, 0xFF, 0xFF, 0xFF, 0xFF, 0xFF, 0xFF, 0x0F]

def vectorMaskR : List Byte := [
  0xFF, 0xFF, 0xFF, 0xFF, 0xFF, 0xFF, 0xFF, 0xFF, 0xFF, 0xFF, 0xFF, 0xFF, 0xFF, 0xFF, 0xFF, 0xFF,
  0x00, 0xFF, 0xFF, 0xFF, 0xFF, 0xFF, 0xFF, 0xFF, 0xFF, 0xFF, 0xFF, 0xFF, 0xFF, 0xFF, 0xFF, 0xFF,
  0x01, 0x00, 0xFF, 0xFF, 0xFF, 0xFF, 0xFF, 0xFF, 0xFF, 0xFF, 0xFF, 0xFF, 0xFF, 0xFF, 0xFF, 0xFF,
  0x02, 0x01, 0x00, 0xFF, 0xFF, 0xFF, 0xFF, 0xFF, 0xFF, 0xFF, 0xFF, 0xFF, 0xFF, 0xFF, 0xFF, 0xFF,
  0x03, 0x02, 0x01, 0x00, 0xFF, 0xFF, 0xFF, 0xFF, 0xFF, 0xFF, 0xFF, 0xFF, 0xFF, 0xFF, 0xFF, 0xFF,
  0x04, 0x03, 0x02, 0x01, 0x00, 0xFF, 0xFF, 0xFF, 0xFF, 0xFF, 0xFF, 0xFF, 0xFF, 0xFF, 0xFF, 0xFF,
  0x05, 0x04, 0x03, 0x02, 0x01, 0x00, 0xFF, 0xFF, 0xFF, 0xFF, 0xFF, 0xFF, 0xFF, 0xFF, 0xFF, 0xFF,
  0x06, 0x05, 0x04, 0x03, 0x02, 0x01, 0x00, 0xFF, 0xFF, 0xFF, 0xFF, 0xFF, 0xFF, 0xFF, 0xFF, 0xFF,
  0x07, 0x06, 0x05, 0x04, 0x03, 0x02, 0x01, 0x00, 0xFF, 0xFF, 0xFF, 0xFF, 0xFF, 0xFF, 0xFF, 0xFF,
  0x08, 0x07, 0x06, 0x05, 0x04, 0x03, 0x02, 0x01, 0x00, 0xFF, 0xFF, 0xFF, 0xFF, 0xFF, 0xFF, 0xFF,
  0x09, 0x08, 0x07, 0x06, 0x05, 0x04, 0x03, 0x02, 0x01, 0x00, 0xFF, 0xFF, 0xFF, 0xFF, 0xFF, 0xFF,
  0x0A, 0x09, 0x08, 0x07, 0x06, 0x05, 0x04, 0x03, 0x02, 0x01, 0x00, 0xFF, 0xFF, 0xFF, 0xFF, 0xFF,
  0x0B, 0x0A, 0x09, 0x08, 0x07, 0x06, 0x05, 0x04, 0x03, 0x02, 0x01, 0x00, 0xFF, 0xFF, 0xFF, 0xFF,
  0x0C, 0x0B, 0x0A, 0x09, 0x08, 0x07, 0x06, 0x05, 0x04, 0x03, 0x02, 0x01, 0x00, 0xFF, 0xFF, 0xFF,
  0x0D, 0x0C, 0x0B, 0x0A, 0x09, 0x08, 0x07, 0x06, 0x05, 0x04, 0x03, 0x02, 0x01, 0x00, 0xFF, 0xFF,
  0x0E, 0x0D, 0x0C, 0x0B, 0x0A, 0x09, 0x08, 0x07, 0x06, 0x05, 0x04, 0x03, 0x02, 0x01, 0x00, 0xFF]

def vectorShiftTableL : List Byte := [
  0x0F, 0x0E, 0x0D, 0x0C, 0x0B, 0x0A, 0x09, 0x08, 0x07, 0x06, 0x05, 0x04, 0x03, 0x02, 0x01, 0x00,
  0x10, 0x0F, 0x0E, 0x0D, 0x0C, 0x0B, 0x0A, 0x09, 0x08, 0x07, 0x06, 0x05, 0x04, 0x03, 0x02, 0x01,
  0x11, 0x10, 0x0F, 0x0E, 0x0D, 0x0C, 0x0B, 0x0A, 0x09, 0x08, 0x07, 0x06, 0x05, 0x04, 0x03, 0x02,
  0x12, 0x11, 0x10, 0x0F, 0x0E, 0x0D, 0x0C, 0x0B, 0x0A, 0x09, 0x08, 0x07, 0x06, 0x05, 0x04, 0x03,
  0x13, 0x12, 0x11, 0x10, 0x0F, 0x0E, 0x0D, 0x0C, 0x0B, 0x0A, 0x09, 0x08, 0x07, 0x06, 0x05, 0x04,
  0x14, 0x13, 0x12, 0x11, 0x10, 0x0F, 0x0E, 0x0D, 0x0C, 0x0B, 0x0A, 0x09, 0x08, 0x07, 0x06, 0x05,
  0x15, 0x14, 0x13, 0x12, 0x11, 0x10, 0x0F, 0x0E, 0x0D, 0x0C, 0x0B, 0x0A, 0x09, 0x08, 0x07, 0x06,
  0x16, 0x15, 0x14, 0x13, 0x12, 0x11, 0x10, 0x0F, 0x0E, 0x0D, 0x0C, 0x0B, 0x0A, 0x09, 0x08, 0x07,
  0x17, 0x16, 0x15, 0x14, 0x13, 0x12, 0x11, 0x10, 0x0F, 0x0E, 0x0D, 0x0C, 0x0B, 0x0A, 0x09, 0x08,
  0x18, 0x17, 0x16, 0x15, 0x14, 0x13, 0x12, 0x11, 0x10, 0x0F, 0x0E, 0x0D, 0x0C, 0x0B, 0x0A, 0x09,
  0x19, 0x18, 0x17, 0x16, 0x15, 0x14, 0x13, 0x12, 0x11, 0x10, 0x0F, 0x0E, 0x0D, 0x0C, 0x0B, 0x0A,
  0x1A, 0x19, 0x18, 0x17, 0x16, 0x15, 0x14, 0x13, 0x12, 0x11, 0x10, 0x0F, 0x0E, 0x0D, 0x0C, 0x0B,
  0x1B, 0x1A, 0x19, 0x18, 0x17, 0x16, 0x15, 0x14, 0x13, 0x12, 0x11, 0x10, 0x0F, 0x0E, 0x0D, 0x0C,
  0x1C, 0x1B, 0x1A, 0x19, 0x18, 0x17, 0x16, 0x15, 0x14, 0x13, 0x12, 0x11, 0x10, 0x0F, 0x0E, 0x0D,
  0x1D, 0x1C, 0x1B, 0x1A, 0x19, 0x18, 0x17, 0x16, 0x15, 0x14, 0x13, 0x12, 0x11, 0x10, 0x0F, 0x0E,
  0x1E, 0x1D, 0x1C, 0x1B, 0x1A, 0x19, 0x18, 0x17, 0x16, 0x15, 0x14, 0x13, 0x12, 0x11, 0x10, 0x0F]

def vectorShiftTableR : List Byte := [
  0x1F, 0x1E, 0x1D, 0x1C, 0x1B, 0x1A, 0x19, 0x18, 0x17, 0x16, 0x15, 0x14, 0x13, 0x12, 0x11, 0x10,
  0x1E, 0x1D, 0x1C, 0x1B, 0x1A, 0x19, 0x18, 0x17, 0x16, 0x15, 0x14, 0x13, 0x12, 0x11, 0x10, 0x0F,
  0x1D, 0x1C, 0x1B, 0x1A, 0x19, 0x18, 0x17, 0x16, 0x15, 0x14, 0x13, 0x12, 0x11, 0x10, 0x0F, 0x0E,
  0x1C, 0x1B, 0x1A, 0x19, 0x18, 0x17, 0x16, 0x15, 0x14, 0x13, 0x12, 0x11, 0x10, 0x0F, 0x0E, 0x0D,
  0x1B, 0x1A, 0x19, 0x18, 0x17, 0x16, 0x15, 0x14, 0x13, 0x12, 0x11, 0x10, 0x0F, 0x0E, 0x0D, 0x0C,
  0x1A, 0x19, 0x18, 0x17, 0x16, 0x15, 0x14, 0x13, 0x12, 0x11, 0x10, 0x0F, 0x0E, 0x0D, 0x0C, 0x0B,
  0x19, 0x18, 0x17, 0x16, 0x15, 0x14, 0x13, 0x12, 0x11, 0x10, 0x0F, 0x0E, 0x0D, 0x0C, 0x0B, 0x0A,
  0x18, 0x17, 0x16, 0x15, 0x14, 0x13, 0x12, 0x11, 0x10, 0x0F, 0x0E, 0x0D, 0x0C, 0x0B, 0x0A, 0x09,
  0x17, 0x16, 0x15, 0x14, 0x13, 0x12, 0x11, 0x10, 0x0F, 0x0E, 0x0D, 0x0C, 0x0B, 0x0A, 0x09, 0x08,
  0x16, 0x15, 0x14, 0x13, 0x12, 0x11, 0x10, 0x0F, 0x0E, 0x0D, 0x0C, 0x0B, 0x0A, 0x09, 0x08, 0x07,
  0x15, 0x14, 0x13, 0x12, 0x11, 0x10, 0x0F, 0x0E, 0x0D, 0x0C, 0x0B, 0x0A, 0x09, 0x08, 0x07, 0x06,
  0x14, 0x13, 0x12, 0x11, 0x10, 0x0F, 0x0E, 0x0D, 0x0C, 0x0B, 0x0A, 0x09, 0x08, 0x07, 0x06, 0x05,
  0x13, 0x12, 0x11, 0x10, 0x0F, 0x0E, 0x0D, 0x0C, 0x0B, 0x0A, 0x09, 0x08, 0x07, 0x06, 0x05, 0x04,
  0x12, 0x11, 0x10, 0x0F, 0x0E, 0x0D, 0x0C, 0x0B, 0x0A, 0x09, 0x08, 0x07, 0x06, 0x05, 0x04, 0x03,
  0x11, 0x10, 0x0F, 0x0E, 0x0D, 0x0C, 0x0B, 0x0A, 0x09, 0x08, 0x07, 0x06, 0x05, 0x04, 0x03, 0x02,
  0x10, 0x0F, 0x0E, 0x0D, 0x0C, 0x0B, 0x0A, 0x09, 0x08, 0x07, 0x06, 0x05, 0x04, 0x03, 0x02, 0x01]

def simdeMmPermEpi8 (simde : Simde) (a b c : Vec) : Vec :=
  let d := simde.set1Epi8 0xF
  let e := simde.subEpi8 d (simde.andSi128 c d)
  simde.blendvEpi8 (simde.shuffleEpi8 a e) (simde.shuffleEpi8 b e) (simde.slliEpi32 c 3)

/-- The 16 bytes of a table that belong to an offset. -/
def tableRow (table : List Byte) (offset : Nat) : Vec :=
  ofLanes (fun index => table.getD (16 * offset + index) 0) 16

/-- A byte of a register in the order of the guest. -/
def guestByte (register : Vec) (index : Nat) : Byte := lane 8 register (15 - index)

/-- A byte of two registers one after the other. -/
def pairByte (first second : Vec) (index : Nat) : Byte :=
  if index < 16 then guestByte first index else guestByte second (index - 16)

/-- A byte of two blocks of memory one after the other. -/
def blockByte (first second : Vec) (index : Nat) : Byte :=
  if index < 16 then lane 8 first index else lane 8 second (index - 16)

section Permutation

variable (simde : Simde) (a b c : Vec) {index : Nat}

/-- A byte of a vector whose words are known. -/
theorem lane_eight (value : Vec) (index : Nat) :
    lane 8 value index = lane 8 (lane 32 value (index / 4)) (index % 4) := by
  have inWord : lane 8 (lane (8 * 4) value (index / 4)) (index % 4) =
      lane 8 value (4 * (index / 4) + index % 4) :=
    lane_lane value 4 (Nat.mod_lt index (by decide))
  rwa [Nat.div_add_mod, eq_comm] at inWord

/-- Shifting the words by three bits moves bit 4 of each byte to its top. -/
theorem msb_lane_slliEpi32 (inside : index < 16) :
    (lane 8 (simde.slliEpi32 c 3) index).msb = (lane 8 c index).getLsbD 4 := by
  rw [lane_eight, simde.slliEpi32_lane 3 c (index / 4) (by omega), lane_eight c,
    BitVec.msb_eq_getLsbD_last, getLsbD_lane, getLsbD_lane, BitVec.getLsbD_shiftLeft]
  have bit : 8 * (index % 4) + 7 - 3 = 8 * (index % 4) + 4 := by omega
  have inWord : 8 * (index % 4) + 7 < 32 := by omega
  have shifted : ¬ 8 * (index % 4) + 7 < 3 := by omega
  simp [bit, inWord, shifted]

/-- The index that selects from a reversed register. -/
theorem toNat_reversedIndex (control : Byte) :
    ((0xF : Byte) - (control &&& 0xF)).toNat = 15 - control.toNat % 16 := by
  have low : (control &&& 0xF).toNat = control.toNat % 16 := by
    rw [BitVec.toNat_and]
    exact Nat.and_two_pow_sub_one_eq_mod _ 4
  have bound : control.toNat % 16 < 16 := Nat.mod_lt _ (by decide)
  rw [BitVec.toNat_sub, low, show (0xF : Byte).toNat = 15 from rfl]
  omega

theorem lane_simdeMmPermEpi8 (inside : index < 16) :
    lane 8 (simdeMmPermEpi8 simde a b c) index =
      if (lane 8 c index).getLsbD 4 then lane 8 b (15 - (lane 8 c index).toNat % 16)
      else lane 8 a (15 - (lane 8 c index).toNat % 16) := by
  have control : lane 8 (simde.subEpi8 (simde.set1Epi8 0xF)
      (simde.andSi128 c (simde.set1Epi8 0xF))) index = 0xF - (lane 8 c index &&& 0xF) := by
    rw [simde.subEpi8_lane _ _ _ inside, simde.andSi128_eq, Lanes.lane_and,
      simde.set1Epi8_lane _ _ inside]
  have selects : ∀ source : Vec, lane 8 (simde.shuffleEpi8 source
      (simde.subEpi8 (simde.set1Epi8 0xF) (simde.andSi128 c (simde.set1Epi8 0xF)))) index =
        lane 8 source (15 - (lane 8 c index).toNat % 16) := by
    intro source
    have small : ((0xF : Byte) - (lane 8 c index &&& 0xF)).msb = false := by
      rw [BitVec.msb_eq_false_iff_two_mul_lt, toNat_reversedIndex]
      omega
    rw [simde.shuffleEpi8_lane _ _ _ inside, control, small, toNat_reversedIndex,
      Nat.mod_eq_of_lt (by omega)]
    rfl
  unfold simdeMmPermEpi8
  dsimp only
  rw [simde.blendvEpi8_lane _ _ _ _ inside, msb_lane_slliEpi32 simde c inside, selects, selects]

/-- Each byte of the result is the byte of the two registers that the low five bits of its
control select. -/
theorem simdeMmPermEpi8_selects (inside : index < 16) :
    guestByte (simdeMmPermEpi8 simde a b c) index =
      pairByte a b ((guestByte c index).toNat % 32) := by
  unfold guestByte
  rw [lane_simdeMmPermEpi8 simde a b c (by omega)]
  generalize lane 8 c (15 - index) = control
  have bit : control.getLsbD 4 = decide (control.toNat / 16 % 2 = 1) := by
    rw [BitVec.getLsbD, Nat.testBit_eq_decide_div_mod_eq]
  rw [bit]
  unfold pairByte guestByte
  by_cases second : control.toNat / 16 % 2 = 1
  · rw [if_pos (decide_eq_true second), if_neg (by omega)]
    congr 1
    omega
  · rw [if_neg (by simpa using second), if_pos (by omega)]
    congr 1
    omega

end Permutation

theorem vectorMaskL_eq : ∀ offset < 16, ∀ index < 16,
    vectorMaskL.getD (16 * offset + index) 0 =
      if index < offset then 0xFF else BitVec.ofNat 8 (15 - index + offset) := by decide

theorem vectorMaskR_eq : ∀ offset < 16, ∀ index < 16,
    vectorMaskR.getD (16 * offset + index) 0 =
      if index < offset then BitVec.ofNat 8 (offset - 1 - index) else 0xFF := by decide

theorem vectorShiftTableL_eq : ∀ offset < 16, ∀ index < 16,
    vectorShiftTableL.getD (16 * offset + index) 0 = BitVec.ofNat 8 (15 + offset - index) := by
  decide

theorem vectorShiftTableR_eq : ∀ offset < 16, ∀ index < 16,
    vectorShiftTableR.getD (16 * offset + index) 0 = BitVec.ofNat 8 (31 - offset - index) := by
  decide

theorem lane_tableRow (table : List Byte) (offset : Nat) {index : Nat} (inside : index < 16) :
    lane 8 (tableRow table offset) index = table.getD (16 * offset + index) 0 :=
  lane_ofLanes _ inside (by decide)

section Unaligned

variable (simde : Simde) (first second : Vec) {offset index : Nat}

/-- The half of an unaligned value that is in the first block, reversed. -/
theorem lane_shuffle_vectorMaskL (row : offset < 16) (inside : index < 16) :
    lane 8 (simde.shuffleEpi8 first (tableRow vectorMaskL offset)) index =
      if index < offset then 0 else lane 8 first (15 - index + offset) := by
  rw [simde.shuffleEpi8_lane _ _ _ inside, lane_tableRow _ _ inside,
    vectorMaskL_eq offset row index inside]
  by_cases below : index < offset
  · rw [if_pos below, if_pos below]
    rfl
  · have toNat : (BitVec.ofNat 8 (15 - index + offset)).toNat = 15 - index + offset := by
      rw [BitVec.toNat_ofNat]
      omega
    have positive : (BitVec.ofNat 8 (15 - index + offset)).msb = false := by
      rw [BitVec.msb_eq_false_iff_two_mul_lt, toNat]
      omega
    rw [if_neg below, if_neg below, positive, toNat, Nat.mod_eq_of_lt (by omega)]
    rfl

/-- The half that is in the second block. -/
theorem lane_shuffle_vectorMaskR (row : offset < 16) (inside : index < 16) :
    lane 8 (simde.shuffleEpi8 second (tableRow vectorMaskR offset)) index =
      if index < offset then lane 8 second (offset - 1 - index) else 0 := by
  rw [simde.shuffleEpi8_lane _ _ _ inside, lane_tableRow _ _ inside,
    vectorMaskR_eq offset row index inside]
  by_cases below : index < offset
  · have toNat : (BitVec.ofNat 8 (offset - 1 - index)).toNat = offset - 1 - index := by
      rw [BitVec.toNat_ofNat]
      omega
    have positive : (BitVec.ofNat 8 (offset - 1 - index)).msb = false := by
      rw [BitVec.msb_eq_false_iff_two_mul_lt, toNat]
      omega
    rw [if_pos below, if_pos below, positive, toNat, Nat.mod_eq_of_lt (by omega)]
    rfl
  · rw [if_neg below, if_neg below]
    rfl

/-- Both halves together are the bytes from the offset on. -/
theorem guestByte_halves (row : offset < 16) (inside : index < 16) :
    guestByte (simde.shuffleEpi8 first (tableRow vectorMaskL offset) |||
      simde.shuffleEpi8 second (tableRow vectorMaskR offset)) index =
        blockByte first second (offset + index) := by
  unfold guestByte blockByte
  rw [Lanes.lane_or, lane_shuffle_vectorMaskL simde first row (by omega),
    lane_shuffle_vectorMaskR simde second row (by omega)]
  by_cases inSecond : 15 - index < offset
  · rw [if_pos inSecond, if_pos inSecond, if_neg (by omega)]
    refine BitVec.zero_or.trans ?_
    congr 1
    omega
  · rw [if_neg inSecond, if_neg inSecond, if_pos (by omega)]
    refine BitVec.or_zero.trans ?_
    congr 1
    omega

/-- A block loaded with the first row is reversed. -/
theorem guestByte_reversed (inside : index < 16) :
    guestByte (simde.shuffleEpi8 first (tableRow vectorMaskL 0)) index = lane 8 first index := by
  unfold guestByte
  rw [lane_shuffle_vectorMaskL simde first (by decide) (by omega), if_neg (Nat.not_lt_zero _)]
  congr 1
  omega

theorem guestByte_tableRow (table : List Byte) (inside : index < 16) :
    guestByte (tableRow table offset) index = table.getD (16 * offset + (15 - index)) 0 :=
  lane_tableRow table offset (by omega)

/-- A control from the left table shifts two registers to the left. -/
theorem guestByte_shiftedLeft (row : offset < 16) (inside : index < 16) :
    guestByte (simdeMmPermEpi8 simde first second (tableRow vectorShiftTableL offset)) index =
      pairByte first second (offset + index) := by
  rw [simdeMmPermEpi8_selects simde _ _ _ inside, guestByte_tableRow _ inside,
    vectorShiftTableL_eq offset row _ (by omega), BitVec.toNat_ofNat]
  congr 1
  omega

/-- A control from the right table shifts them to the right. -/
theorem guestByte_shiftedRight (row : offset < 16) (inside : index < 16) :
    guestByte (simdeMmPermEpi8 simde first second (tableRow vectorShiftTableR offset)) index =
      pairByte first second (16 - offset + index) := by
  rw [simdeMmPermEpi8_selects simde _ _ _ inside, guestByte_tableRow _ inside,
    vectorShiftTableR_eq offset row _ (by omega), BitVec.toNat_ofNat]
  congr 1
  omega

theorem eq_of_guestBytes {register other : Vec}
    (same : ∀ index < 16, guestByte register index = guestByte other index) : register = other := by
  refine eq_of_lanes 16 (show 128 = 8 * 16 from rfl) fun index inside => ?_
  have byte := same (15 - index) (by omega)
  unfold guestByte at byte
  rwa [show 15 - (15 - index) = index by omega] at byte

/-- Whatever two blocks hold, both ways to load the 16 bytes from any offset into them give
the same register: the two halves, or the blocks shifted by a permutation. -/
theorem unalignedLoads_agree (row : offset < 16) :
    simdeMmPermEpi8 simde (simde.shuffleEpi8 first (tableRow vectorMaskL 0))
        (simde.shuffleEpi8 second (tableRow vectorMaskL 0)) (tableRow vectorShiftTableL offset) =
      simde.shuffleEpi8 first (tableRow vectorMaskL offset) |||
        simde.shuffleEpi8 second (tableRow vectorMaskR offset) ∧
    ∀ index < 16, guestByte (simde.shuffleEpi8 first (tableRow vectorMaskL offset) |||
      simde.shuffleEpi8 second (tableRow vectorMaskR offset)) index =
        blockByte first second (offset + index) := by
  refine ⟨eq_of_guestBytes fun index inside => ?_, fun index inside =>
    guestByte_halves simde first second row inside⟩
  rw [guestByte_shiftedLeft simde _ _ row inside,
    guestByte_halves simde first second row inside]
  unfold pairByte blockByte
  split
  case isTrue inFirst => exact guestByte_reversed simde first inFirst
  case isFalse => exact guestByte_reversed simde second (by omega)

theorem unalignedLoads_agree_five :
    simdeMmPermEpi8 .documented
        (Simde.documented.shuffleEpi8 0x0F0E0D0C0B0A09080706050403020100 (tableRow vectorMaskL 0))
        (Simde.documented.shuffleEpi8 0x1F1E1D1C1B1A19181716151413121110 (tableRow vectorMaskL 0))
        (tableRow vectorShiftTableL 5) =
      Simde.documented.shuffleEpi8 0x0F0E0D0C0B0A09080706050403020100 (tableRow vectorMaskL 5) |||
        Simde.documented.shuffleEpi8 0x1F1E1D1C1B1A19181716151413121110
          (tableRow vectorMaskR 5) :=
  (unalignedLoads_agree .documented _ _ (by decide)).1

end Unaligned

end BumpinHost.Guest
