import BumpinHost.Library.ByteMemory
import Mathlib.Tactic.IntervalCases

/-!
# Little-endian 64-bit cells

A cell is eight bytes, least significant first.  A load need not start where a
store did: it takes its bytes from whatever cells it meets.
-/

namespace BumpinHost.Memory

/-- Byte `index` of a 64-bit value, counted from the least significant one. -/
def byteOf (value : BitVec 64) (index : Nat) : Byte :=
  value.extractLsb' (8 * index) 8

/-- Load the little-endian 64-bit value at a position. -/
def loadU64Le (mem : Memory) (position : Nat) : BitVec 64 :=
  BitVec.ofNat 64 <|
    (List.range 8).foldr (fun index high => 256 * high + (mem (position + index)).toNat) 0

/-- Store a 64-bit value, least significant byte first. -/
def storeU64Le (mem : Memory) (start : Nat) (value : BitVec 64) : Memory := fun position =>
  if start ≤ position ∧ position < start + 8 then byteOf value (position - start)
  else mem position

theorem storeU64Le_of_outside (mem : Memory) {start position : Nat} {value : BitVec 64}
    (outside : position < start ∨ start + 8 ≤ position) :
    storeU64Le mem start value position = mem position := by
  unfold storeU64Le
  rw [if_neg (by omega)]

theorem storeU64Le_inside (mem : Memory) {start index : Nat} {value : BitVec 64}
    (inside : index < 8) :
    storeU64Le mem start value (start + index) = byteOf value index := by
  unfold storeU64Le
  rw [if_pos (by omega), Nat.add_sub_cancel_left]

theorem byteOf_loadU64Le (mem : Memory) (position : Nat) {index : Nat} (inside : index < 8) :
    byteOf (loadU64Le mem position) index = mem (position + index) := by
  have byte : ∀ index, (mem (position + index)).toNat < 256 := fun index =>
    (mem (position + index)).isLt
  have := byte 0
  have := byte 1
  have := byte 2
  have := byte 3
  have := byte 4
  have := byte 5
  have := byte 6
  have := byte 7
  apply BitVec.eq_of_toNat_eq
  simp only [byteOf, loadU64Le, BitVec.extractLsb'_toNat, BitVec.toNat_ofNat,
    Nat.shiftRight_eq_div_pow, List.range, List.range.loop, List.foldr]
  interval_cases index <;> omega

theorem eq_of_bytes {value other : BitVec 64}
    (bytes : ∀ index < 8, byteOf value index = byteOf other index) : value = other := by
  apply BitVec.eq_of_getLsbD_eq
  intro bit small
  have byte := congrArg (fun b => b.getLsbD (bit % 8)) (bytes (bit / 8) (by omega))
  have here : 8 * (bit / 8) + bit % 8 = bit := by omega
  have inByte : bit % 8 < 8 := by omega
  simpa only [byteOf, BitVec.getLsbD_extractLsb', inByte, decide_true, Bool.true_and, here]
    using byte

/-- A loaded value is the one whose bytes are those in memory. -/
theorem loadU64Le_eq_iff {mem : Memory} {position : Nat} {value : BitVec 64} :
    loadU64Le mem position = value ↔
      ∀ index < 8, mem (position + index) = byteOf value index := by
  constructor
  · rintro rfl index inside
    exact (byteOf_loadU64Le mem position inside).symm
  · intro bytes
    apply eq_of_bytes
    intro index inside
    rw [byteOf_loadU64Le mem position inside]
    exact bytes index inside

theorem byteOf_zero (index : Nat) : byteOf 0 index = 0 := by
  simp [byteOf]

/-- What is loaded is zero when every byte is. -/
theorem loadU64Le_eq_zero_iff {mem : Memory} {position : Nat} :
    loadU64Le mem position = 0 ↔ ∀ index < 8, mem (position + index) = 0 := by
  rw [loadU64Le_eq_iff]
  simp only [byteOf_zero]

end BumpinHost.Memory
