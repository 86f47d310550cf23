import Mathlib.Data.BitVec
import Mathlib.Tactic.IntervalCases
import Mathlib.Tactic.Ring

/-!
# Byte memory with big-endian words

Memory is a total map from byte positions to bytes.  A 32-bit address selects
the first byte of an access; the bytes after it are the next positions, so an
access that starts near the top of the address range runs past it instead of
wrapping to position zero.
-/

namespace BumpinHost

/-- An 8-bit byte. -/
abbrev Byte := BitVec 8

/-- A 32-bit unsigned machine word. -/
abbrev Word := BitVec 32

/-- Byte-addressed memory. -/
abbrev Memory := Nat → Byte

namespace Memory

/-- Load the big-endian 16-bit value at a position. -/
def loadU16 (mem : Memory) (position : Nat) : BitVec 16 :=
  mem position ++ mem (position + 1)

/-- Load the big-endian 32-bit word at an address. -/
def loadU32 (mem : Memory) (addr : Word) : Word :=
  (mem addr.toNat ++ mem (addr.toNat + 1)) ++
    (mem (addr.toNat + 2) ++ mem (addr.toNat + 3))

/-- Store a word at an address, most significant byte first. -/
def storeU32 (mem : Memory) (addr value : Word) : Memory := fun position =>
  if position = addr.toNat then value.extractLsb' 24 8
  else if position = addr.toNat + 1 then value.extractLsb' 16 8
  else if position = addr.toNat + 2 then value.extractLsb' 8 8
  else if position = addr.toNat + 3 then value.extractLsb' 0 8
  else mem position

/-- Store a 16-bit value, most significant byte first. -/
def storeU16 (mem : Memory) (addr : Word) (value : BitVec 16) : Memory := fun position =>
  if position = addr.toNat then value.extractLsb' 8 8
  else if position = addr.toNat + 1 then value.extractLsb' 0 8
  else mem position

/-- Load the big-endian 64-bit value at an address. -/
def loadU64 (mem : Memory) (addr : Word) : BitVec 64 :=
  (loadU16 mem addr.toNat ++ loadU16 mem (addr.toNat + 2)) ++
    (loadU16 mem (addr.toNat + 4) ++ loadU16 mem (addr.toNat + 6))

/-- Store a 64-bit value, most significant byte first. -/
def storeU64 (mem : Memory) (addr : Word) (value : BitVec 64) : Memory := fun position =>
  if addr.toNat ≤ position ∧ position < addr.toNat + 8 then
    value.extractLsb' (8 * (addr.toNat + 7 - position)) 8
  else mem position

/-- Copy bytes to a position and the positions after it. -/
def writeBytes (mem : Memory) (start : Nat) (bytes : List Byte) : Memory := fun position =>
  if start ≤ position ∧ position < start + bytes.length then
    bytes.getD (position - start) 0
  else mem position

/-- Two word accesses touch no common byte. -/
def Apart (first second : Word) : Prop :=
  first.toNat + 4 ≤ second.toNat ∨ second.toNat + 4 ≤ first.toNat

instance (first second : Word) : Decidable (Apart first second) :=
  inferInstanceAs (Decidable (_ ∨ _))

theorem Apart.symm {first second : Word} (apart : Apart first second) :
    Apart second first :=
  Or.symm apart

/-- A word is put together from its four bytes. -/
theorem word_of_bytes (value : Word) :
    (value.extractLsb' 24 8 ++ value.extractLsb' 16 8) ++
      (value.extractLsb' 8 8 ++ value.extractLsb' 0 8) = value := by
  have upper : value.extractLsb' 24 8 ++ value.extractLsb' 16 8 =
      value.extractLsb' 16 16 := by
    rw [BitVec.extractLsb'_append_extractLsb'_eq_extractLsb' (by decide)]
  have lower : value.extractLsb' 8 8 ++ value.extractLsb' 0 8 =
      value.extractLsb' 0 16 := by
    rw [BitVec.extractLsb'_append_extractLsb'_eq_extractLsb' (by decide)]
  rw [upper, lower,
    BitVec.extractLsb'_append_extractLsb'_eq_extractLsb' (by decide)]
  exact BitVec.extractLsb'_eq_self

@[simp]
theorem loadU32_storeU32_same (mem : Memory) (addr value : Word) :
    loadU32 (storeU32 mem addr value) addr = value := by
  have bytes : loadU32 (storeU32 mem addr value) addr =
      (value.extractLsb' 24 8 ++ value.extractLsb' 16 8) ++
        (value.extractLsb' 8 8 ++ value.extractLsb' 0 8) := by
    simp [loadU32, storeU32]
  rw [bytes, word_of_bytes]

/-- Loads depend only on the four bytes they read. -/
theorem loadU32_congr {first second : Memory} {addr : Word}
    (same : ∀ position, addr.toNat ≤ position → position < addr.toNat + 4 →
      first position = second position) :
    loadU32 first addr = loadU32 second addr := by
  simp only [loadU32]
  rw [same addr.toNat (by omega) (by omega),
    same (addr.toNat + 1) (by omega) (by omega),
    same (addr.toNat + 2) (by omega) (by omega),
    same (addr.toNat + 3) (by omega) (by omega)]

/-- A store changes no byte outside the word it writes. -/
theorem storeU32_of_outside (mem : Memory) {addr value : Word} {position : Nat}
    (outside : position < addr.toNat ∨ addr.toNat + 4 ≤ position) :
    storeU32 mem addr value position = mem position := by
  simp only [storeU32]
  rw [if_neg (by omega), if_neg (by omega), if_neg (by omega),
    if_neg (by omega)]

/-- The bytes of a stored word. -/
theorem storeU32_inside (mem : Memory) {addr value : Word} {position : Nat}
    (lower : addr.toNat ≤ position) (upper : position < addr.toNat + 4) :
    storeU32 mem addr value position =
      value.extractLsb' (8 * (addr.toNat + 3 - position)) 8 := by
  obtain ⟨index, rfl⟩ := Nat.exists_eq_add_of_le lower
  have small : index < 4 := by omega
  rw [Nat.add_sub_add_left]
  interval_cases index <;> simp [storeU32]

theorem loadU32_storeU32_apart (mem : Memory) {addr other value : Word}
    (apart : Apart addr other) :
    loadU32 (storeU32 mem addr value) other = loadU32 mem other := by
  apply loadU32_congr
  intro position lower upper
  apply storeU32_of_outside
  rcases apart with before | after
  · right; omega
  · left; omega

/-- Loads depend only on the two bytes they read. -/
theorem loadU16_congr {first second : Memory} {start : Nat}
    (same : ∀ position, start ≤ position → position < start + 2 →
      first position = second position) :
    loadU16 first start = loadU16 second start := by
  simp only [loadU16]
  rw [same start (by omega) (by omega), same (start + 1) (by omega) (by omega)]

@[simp]
theorem loadU16_storeU16_same (mem : Memory) (addr : Word) (value : BitVec 16) :
    loadU16 (storeU16 mem addr value) addr.toNat = value := by
  have bytes : loadU16 (storeU16 mem addr value) addr.toNat =
      value.extractLsb' 8 8 ++ value.extractLsb' 0 8 := by
    simp [loadU16, storeU16]
  rw [bytes, BitVec.extractLsb'_append_extractLsb'_eq_extractLsb' (by decide)]
  exact BitVec.extractLsb'_eq_self

theorem storeU16_of_outside (mem : Memory) {addr : Word} {value : BitVec 16} {position : Nat}
    (outside : position < addr.toNat ∨ addr.toNat + 2 ≤ position) :
    storeU16 mem addr value position = mem position := by
  simp only [storeU16]
  rw [if_neg (by omega), if_neg (by omega)]

theorem writeBytes_of_outside (mem : Memory) {start position : Nat} {bytes : List Byte}
    (outside : position < start ∨ start + bytes.length ≤ position) :
    writeBytes mem start bytes position = mem position := by
  unfold writeBytes
  rw [if_neg (by omega)]

theorem writeBytes_inside (mem : Memory) {start index : Nat} {bytes : List Byte}
    (inside : index < bytes.length) :
    writeBytes mem start bytes (start + index) = bytes[index] := by
  unfold writeBytes
  rw [if_pos (by omega), Nat.add_sub_cancel_left, List.getD_eq_getElem?_getD,
    List.getElem?_eq_getElem inside, Option.getD_some]

end Memory

end BumpinHost
