import BumpinHost.Kernel.Files
import BumpinHost.Library.FiniteLoops

/-!
# Counted strings

`RtlInitAnsiString` looks for the end of a string with a 16-bit counter, which wraps,
and makes a descriptor of it; `ReadGuestAnsiString` reads the string back by the length
in its descriptor.
-/

namespace BumpinHost.Kernel

open Disc Memory

/-- The byte at which the search for the end of a string looks. -/
def ansiByte (mem : Memory) (sourceAddr : Word) (length : BitVec 16) : Byte :=
  mem (sourceAddr + length.setWidth 32).toNat

/-- One round of the search. -/
def countByte (mem : Memory) (sourceAddr : Word) (length : BitVec 16) : Option (BitVec 16) :=
  if ansiByte mem sourceAddr length ≠ 0 then some (length + 1) else none

/-- How far the counter gets.  A search that has not ended when the counter has taken all
its values never does. -/
def ansiLength (mem : Memory) (sourceAddr : Word) : Option (BitVec 16) :=
  if sourceAddr ≠ 0 then runLoop (countByte mem sourceAddr) id (2 ^ 16 + 1) 0 else some 0

/-- `Length`, `MaximumLength` and `Buffer`. -/
def storeAnsiString (mem : Memory) (destAddr : Word) (length maximumLength : BitVec 16)
    (buffer : Word) : Memory :=
  ((mem.storeU16 destAddr length).storeU16 (destAddr + 2) maximumLength).storeU32
    (destAddr + 4) buffer

/-- The memory that `RtlInitAnsiString` leaves, if it returns. -/
def rtlInitAnsiString (mem : Memory) (destAddr sourceAddr : Word) : Option Memory :=
  (ansiLength mem sourceAddr).map fun length =>
    storeAnsiString mem destAddr length (if sourceAddr ≠ 0 then length + 1 else 0) sourceAddr

/-- Guest memory has the bytes of a string at an address, and zero behind them. -/
structure HoldsAnsiString (mem : Memory) (sourceAddr : Word) (s : Name) : Prop where
  bytes : ∀ index, (inside : index < s.length) →
    mem (sourceAddr + BitVec.ofNat 32 index).toNat = s[index]
  nonzero : ∀ byte ∈ s, byte ≠ 0
  terminated : mem (sourceAddr + BitVec.ofNat 32 s.length).toNat = 0

/-- The position is one of a descriptor's. -/
def InDescriptor (destAddr : Word) (position : Nat) : Prop :=
  (destAddr.toNat ≤ position ∧ position < destAddr.toNat + 2) ∨
    ((destAddr + 2).toNat ≤ position ∧ position < (destAddr + 2).toNat + 2) ∨
    ((destAddr + 4).toNat ≤ position ∧ position < (destAddr + 4).toNat + 4)

/-- No byte of the string lies in the descriptor. -/
def DescriptorOutside (destAddr sourceAddr : Word) (s : Name) : Prop :=
  ∀ index < s.length, ¬ InDescriptor destAddr (sourceAddr + BitVec.ofNat 32 index).toNat

/-- `RtlInitAnsiString` returns, there is room for the terminator in the length it stores,
and whoever uses the descriptor later, with the string and the descriptor unchanged, reads
the string, or as much of it as a 16-bit length can count. -/
def EncodesAnsiString (mem : Memory) (destAddr sourceAddr : Word) (s : Name) : Prop :=
  ∃ after, rtlInitAnsiString mem destAddr sourceAddr = some after ∧
    loadU16 after destAddr.toNat < loadU16 after (destAddr + 2).toNat ∧
    ∀ later objectAttributesPtr,
      (∀ position, InDescriptor destAddr position → later position = after position) →
      (∀ index < s.length, later (sourceAddr + BitVec.ofNat 32 index).toNat =
        after (sourceAddr + BitVec.ofNat 32 index).toNat) →
      loadU32 later (objectAttributesPtr + 4) = destAddr →
        readGuestAnsiString later objectAttributesPtr = s.take (2 ^ 16 - 1)

variable {mem : Memory} {sourceAddr destAddr : Word} {s : Name}

theorem setWidth_ofNat {count : Nat} (small : count < 2 ^ 16) :
    (BitVec.ofNat 16 count).setWidth 32 = BitVec.ofNat 32 count := by
  apply BitVec.eq_of_toNat_eq
  rw [BitVec.toNat_setWidth, BitVec.toNat_ofNat, BitVec.toNat_ofNat, Nat.mod_eq_of_lt small]

/-- The search goes on inside the string. -/
theorem HoldsAnsiString.countByte_inside (holds : HoldsAnsiString mem sourceAddr s)
    {count : Nat} (small : count < 2 ^ 16) (inside : count < s.length) :
    countByte mem sourceAddr (BitVec.ofNat 16 count) = some (BitVec.ofNat 16 (count + 1)) := by
  have byte : ansiByte mem sourceAddr (BitVec.ofNat 16 count) = s[count] := by
    rw [ansiByte, setWidth_ofNat small, holds.bytes count inside]
  unfold countByte
  rw [if_pos (byte ▸ holds.nonzero _ (List.getElem_mem inside)), BitVec.ofNat_add]
  rfl

theorem HoldsAnsiString.countByte_end (holds : HoldsAnsiString mem sourceAddr s)
    (small : s.length < 2 ^ 16) :
    countByte mem sourceAddr (BitVec.ofNat 16 s.length) = none := by
  unfold countByte ansiByte
  rw [setWidth_ofNat small, holds.terminated]
  rfl

/-- From inside a short string the search comes to its end.  The induction is on what is
left of the string. -/
theorem HoldsAnsiString.runLoop_eq (holds : HoldsAnsiString mem sourceAddr s)
    (small : s.length < 2 ^ 16) {left count rounds : Nat} (rest : count + left = s.length)
    (enough : left < rounds) :
    runLoop (countByte mem sourceAddr) id rounds (BitVec.ofNat 16 count) =
      some (BitVec.ofNat 16 s.length) := by
  induction left generalizing count rounds with
  | zero =>
      obtain ⟨more, rfl⟩ := Nat.exists_eq_add_of_lt enough
      obtain rfl : count = s.length := rest
      unfold runLoop
      rw [holds.countByte_end small]
      rfl
  | succ left ih =>
      obtain ⟨more, rfl⟩ := Nat.exists_eq_add_of_lt enough
      unfold runLoop
      rw [holds.countByte_inside (by omega) (by omega)]
      exact ih (by omega) (by omega)

/-- The counter never leaves a string that is longer than it can count. -/
theorem HoldsAnsiString.not_endsWithin (holds : HoldsAnsiString mem sourceAddr s)
    (long : 2 ^ 16 ≤ s.length) (rounds : Nat) (length : BitVec 16) :
    ¬ EndsWithin (countByte mem sourceAddr) rounds length := by
  induction rounds generalizing length with
  | zero => exact id
  | succ rounds ih =>
      intro ends
      have goesOn := holds.countByte_inside length.isLt (length.isLt.trans_le long)
      rw [BitVec.ofNat_toNat, BitVec.setWidth_eq] at goesOn
      exact ih _ (ends _ goesOn)

/-- The counter has only so many values. -/
theorem endsWithin_countByte_iff {rounds : Nat} (enough : 2 ^ 16 < rounds)
    (length : BitVec 16) :
    EndsWithin (countByte mem sourceAddr) rounds length ↔
      ∃ more, EndsWithin (countByte mem sourceAddr) more length := by
  constructor
  · intro ends
    exact ⟨rounds, ends⟩
  · intro ends
    let values := (Finset.range (2 ^ 16)).image (BitVec.ofNat 16)
    have every : ∀ length : BitVec 16, length ∈ values := by
      intro length
      refine Finset.mem_image.mpr ⟨length.toNat, Finset.mem_range.mpr length.isLt, ?_⟩
      rw [BitVec.ofNat_toNat, BitVec.setWidth_eq]
    have few : values.card < rounds :=
      (Finset.card_image_le.trans_eq (Finset.card_range _)).trans_lt enough
    exact endsWithin_of_ends (fun length _ _ => every length) few ends

theorem ansiLength_isSome_iff (mem : Memory) (sourceAddr : Word) :
    (ansiLength mem sourceAddr).isSome ↔
      sourceAddr = 0 ∨ ∃ rounds, EndsWithin (countByte mem sourceAddr) rounds 0 := by
  unfold ansiLength
  by_cases null : sourceAddr = 0
  · rw [if_neg (not_not.mpr null)]
    exact iff_of_true rfl (.inl null)
  · rw [if_pos null, isSome_runLoop_iff, or_iff_right null,
      endsWithin_countByte_iff (Nat.lt_succ_self _)]

theorem storeAnsiString_outside {length maximumLength : BitVec 16} {buffer : Word}
    {position : Nat} (outside : ¬ InDescriptor destAddr position) :
    storeAnsiString mem destAddr length maximumLength buffer position = mem position := by
  unfold InDescriptor at outside
  unfold storeAnsiString
  rw [storeU32_of_outside _ (by omega), storeU16_of_outside _ (by omega),
    storeU16_of_outside _ (by omega)]

/-- The three fields lie apart, also where the descriptor wraps around. -/
theorem toNat_descriptor (destAddr : Word) :
    (destAddr + 2).toNat = (destAddr.toNat + 2) % 2 ^ 32 ∧
      (destAddr + 4).toNat = (destAddr.toNat + 4) % 2 ^ 32 := by
  constructor
  · rw [BitVec.toNat_add]
    rfl
  · rw [BitVec.toNat_add]
    rfl

theorem loadU16_storeAnsiString_length (mem : Memory) (destAddr : Word)
    (length maximumLength : BitVec 16) (buffer : Word) :
    loadU16 (storeAnsiString mem destAddr length maximumLength buffer) destAddr.toNat =
      length := by
  obtain ⟨maximumAt, bufferAt⟩ := toNat_descriptor destAddr
  have bound := destAddr.isLt
  refine Eq.trans ?_ (loadU16_storeU16_same mem destAddr length)
  apply loadU16_congr
  intro position lower upper
  unfold storeAnsiString
  rw [storeU32_of_outside _ (by omega), storeU16_of_outside _ (by omega)]

theorem loadU16_storeAnsiString_maximumLength (mem : Memory) (destAddr : Word)
    (length maximumLength : BitVec 16) (buffer : Word) :
    loadU16 (storeAnsiString mem destAddr length maximumLength buffer) (destAddr + 2).toNat =
      maximumLength := by
  obtain ⟨maximumAt, bufferAt⟩ := toNat_descriptor destAddr
  have bound := destAddr.isLt
  refine Eq.trans ?_
    (loadU16_storeU16_same (mem.storeU16 destAddr length) (destAddr + 2) maximumLength)
  apply loadU16_congr
  intro position lower upper
  unfold storeAnsiString
  rw [storeU32_of_outside _ (by omega)]

theorem loadU32_storeAnsiString_buffer (mem : Memory) (destAddr : Word)
    (length maximumLength : BitVec 16) (buffer : Word) :
    loadU32 (storeAnsiString mem destAddr length maximumLength buffer) (destAddr + 4) =
      buffer :=
  loadU32_storeU32_same ..

/-- A descriptor is read back as the bytes that its length counts. -/
theorem readGuestAnsiString_eq {later : Memory} {objectAttributesPtr : Word} {length : BitVec 16}
    (objectName : loadU32 later (objectAttributesPtr + 4) = destAddr)
    (stored : loadU16 later destAddr.toNat = length)
    (buffer : loadU32 later (destAddr + 4) = sourceAddr) (counted : length.toNat = s.length)
    (bytes : ∀ index, (inside : index < s.length) →
      later (sourceAddr + BitVec.ofNat 32 index).toNat = s[index]) :
    readGuestAnsiString later objectAttributesPtr = s := by
  unfold readGuestAnsiString
  dsimp only
  rw [objectName, stored, buffer, counted]
  apply List.ext_getElem
  · rw [List.length_map, List.length_range]
  · intro index inRange inside
    rw [List.getElem_map, List.getElem_range, bytes index inside]

theorem HoldsAnsiString.ansiLength_eq (holds : HoldsAnsiString mem sourceAddr s)
    (pointer : sourceAddr ≠ 0) (small : s.length < 2 ^ 16) :
    ansiLength mem sourceAddr = some (BitVec.ofNat 16 s.length) := by
  unfold ansiLength
  rw [if_pos pointer]
  exact holds.runLoop_eq small (Nat.zero_add _) (by omega)

theorem HoldsAnsiString.ansiLength_eq_none (holds : HoldsAnsiString mem sourceAddr s)
    (pointer : sourceAddr ≠ 0) (long : 2 ^ 16 ≤ s.length) : ansiLength mem sourceAddr = none := by
  rw [← Option.not_isSome_iff_eq_none, ansiLength_isSome_iff]
  rintro (null | ⟨rounds, ends⟩)
  · exact pointer null
  · exact holds.not_endsWithin long rounds 0 ends

/-- Room for the terminator is what the lengths of a full descriptor lack. -/
theorem maximumLength_room_iff {count : Nat} (small : count < 2 ^ 16) :
    BitVec.ofNat 16 count < BitVec.ofNat 16 count + 1 ↔ count < 2 ^ 16 - 1 := by
  rw [BitVec.lt_def, BitVec.toNat_add, BitVec.toNat_ofNat, Nat.mod_eq_of_lt small]
  change count < (count + 1) % 2 ^ 16 ↔ _
  omega

/-- What a later reader of the descriptor of a short string gets. -/
theorem HoldsAnsiString.decodes (holds : HoldsAnsiString mem sourceAddr s)
    (outside : DescriptorOutside destAddr sourceAddr s) (small : s.length < 2 ^ 16)
    {maximumLength : BitVec 16} {later : Memory} {objectAttributesPtr : Word}
    (sameDescriptor : ∀ position, InDescriptor destAddr position → later position =
      storeAnsiString mem destAddr (BitVec.ofNat 16 s.length) maximumLength sourceAddr position)
    (sameString : ∀ index < s.length, later (sourceAddr + BitVec.ofNat 32 index).toNat =
      storeAnsiString mem destAddr (BitVec.ofNat 16 s.length) maximumLength sourceAddr
        (sourceAddr + BitVec.ofNat 32 index).toNat)
    (objectName : loadU32 later (objectAttributesPtr + 4) = destAddr) :
    readGuestAnsiString later objectAttributesPtr = s := by
  have stored : loadU16 later destAddr.toNat = BitVec.ofNat 16 s.length := by
    refine Eq.trans ?_ (loadU16_storeAnsiString_length mem destAddr (BitVec.ofNat 16 s.length)
      maximumLength sourceAddr)
    apply loadU16_congr
    intro position lower upper
    exact sameDescriptor position (.inl ⟨lower, upper⟩)
  have buffer : loadU32 later (destAddr + 4) = sourceAddr := by
    refine Eq.trans ?_ (loadU32_storeAnsiString_buffer mem destAddr (BitVec.ofNat 16 s.length)
      maximumLength sourceAddr)
    apply loadU32_congr
    intro position lower upper
    exact sameDescriptor position (.inr (.inr ⟨lower, upper⟩))
  have counted : (BitVec.ofNat 16 s.length).toNat = s.length := by
    rw [BitVec.toNat_ofNat, Nat.mod_eq_of_lt small]
  apply readGuestAnsiString_eq objectName stored buffer counted
  intro index inside
  rw [sameString index inside, storeAnsiString_outside (outside index inside),
    holds.bytes index inside]

theorem HoldsAnsiString.encodes (holds : HoldsAnsiString mem sourceAddr s)
    (outside : DescriptorOutside destAddr sourceAddr s) (pointer : sourceAddr ≠ 0)
    (short : s.length < 2 ^ 16 - 1) : EncodesAnsiString mem destAddr sourceAddr s := by
  have small : s.length < 2 ^ 16 := by omega
  refine ⟨storeAnsiString mem destAddr (BitVec.ofNat 16 s.length)
    (BitVec.ofNat 16 s.length + 1) sourceAddr, ?_, ?_, ?_⟩
  · rw [rtlInitAnsiString, holds.ansiLength_eq pointer small, Option.map_some, if_pos pointer]
  · rw [loadU16_storeAnsiString_length, loadU16_storeAnsiString_maximumLength]
    exact (maximumLength_room_iff small).mpr short
  · intro later objectAttributesPtr sameDescriptor sameString objectName
    rw [List.take_of_length_le short.le]
    exact holds.decodes outside small sameDescriptor sameString objectName

/-- A null address, a string that fills the counter's range, and a longer one. -/
theorem HoldsAnsiString.of_encodes (holds : HoldsAnsiString mem sourceAddr s)
    (encodes : EncodesAnsiString mem destAddr sourceAddr s) :
    sourceAddr ≠ 0 ∧ s.length < 2 ^ 16 - 1 := by
  obtain ⟨after, returned, room, -⟩ := encodes
  obtain ⟨length, found, rfl⟩ := Option.map_eq_some_iff.mp returned
  rw [loadU16_storeAnsiString_length, loadU16_storeAnsiString_maximumLength] at room
  by_cases null : sourceAddr = 0
  · rw [ansiLength, if_neg (not_not.mpr null), Option.some_inj] at found
    rw [if_neg (not_not.mpr null), ← found] at room
    exact absurd room (by decide)
  · refine ⟨null, ?_⟩
    rcases Nat.lt_or_ge s.length (2 ^ 16) with small | long
    · rw [holds.ansiLength_eq null small, Option.some_inj] at found
      rw [if_pos null, ← found] at room
      exact (maximumLength_room_iff small).mp room
    · rw [holds.ansiLength_eq_none null long] at found
      cases found

/-- `RtlInitAnsiString` returns exactly when its loop ends, and a string is encoded exactly
when its address is not null and its length, and one more, are 16-bit numbers. -/
theorem rtlInitAnsiString_encodes_iff (holds : HoldsAnsiString mem sourceAddr s)
    (outside : DescriptorOutside destAddr sourceAddr s) :
    ((rtlInitAnsiString mem destAddr sourceAddr).isSome ↔
      sourceAddr = 0 ∨ ∃ rounds, EndsWithin (countByte mem sourceAddr) rounds 0) ∧
    (EncodesAnsiString mem destAddr sourceAddr s ↔
      sourceAddr ≠ 0 ∧ s.length < 2 ^ 16 - 1) := by
  constructor
  · rw [rtlInitAnsiString, Option.isSome_map, ansiLength_isSome_iff]
  · constructor
    · exact holds.of_encodes
    · rintro ⟨pointer, short⟩
      exact holds.encodes outside pointer short

/-- So many letters from 64 KiB on, and zeros elsewhere. -/
def letterMemory (count : Nat) : Memory := fun position =>
  if 0x10000 ≤ position ∧ position < 0x10000 + count then 0x61 else 0

theorem toNat_letter {index : Nat} (small : index ≤ 0x10000) :
    ((0x10000 : Word) + BitVec.ofNat 32 index).toNat = 0x10000 + index := by
  have start : (0x10000 : Word).toNat = 0x10000 := by decide
  rw [BitVec.toNat_add, BitVec.toNat_ofNat, start]
  omega

theorem letterMemory_holds {count : Nat} (fits : count ≤ 0x10000) :
    HoldsAnsiString (letterMemory count) 0x10000 (List.replicate count 0x61) := by
  constructor
  case bytes =>
      intro index inside
      rw [List.length_replicate] at inside
      rw [toNat_letter (by omega), letterMemory, if_pos (by omega), List.getElem_replicate]
  case nonzero =>
      intro byte member
      rw [List.eq_of_mem_replicate member]
      decide
  case terminated =>
      rw [List.length_replicate, toNat_letter fits, letterMemory, if_neg (by omega)]

/-- A descriptor near the start of memory. -/
theorem letters_outside {count : Nat} (fits : count ≤ 0x10000) :
    DescriptorOutside 0x40 0x10000 (List.replicate count 0x61) := by
  intro index inside inDescriptor
  rw [List.length_replicate] at inside
  rw [toNat_letter (by omega)] at inDescriptor
  unfold InDescriptor at inDescriptor
  have first : ((0x40 : Word) + 2).toNat = 0x42 := by decide
  have second : ((0x40 : Word) + 4).toNat = 0x44 := by decide
  have start : (0x40 : Word).toNat = 0x40 := by decide
  omega

theorem rtlInitAnsiString_encodes_iff_twoLetters :
    HoldsAnsiString (letterMemory 2) 0x10000 (List.replicate 2 0x61) ∧
      EncodesAnsiString (letterMemory 2) 0x40 0x10000 (List.replicate 2 0x61) := by
  have holds := letterMemory_holds (show 2 ≤ 0x10000 by decide)
  have outside := letters_outside (show 2 ≤ 0x10000 by decide)
  exact ⟨holds, (rtlInitAnsiString_encodes_iff holds outside).2.mpr
    ⟨by decide, by rw [List.length_replicate]; decide⟩⟩

/-- With 65535 letters the maximum length wraps to zero; with one more the counter wraps
before it meets the end, and the loop goes on for ever. -/
theorem longStrings_notEncoded :
    (HoldsAnsiString (letterMemory 65535) 0x10000 (List.replicate 65535 0x61) ∧
      DescriptorOutside 0x40 0x10000 (List.replicate 65535 0x61) ∧
      ¬ EncodesAnsiString (letterMemory 65535) 0x40 0x10000 (List.replicate 65535 0x61)) ∧
    (HoldsAnsiString (letterMemory 65536) 0x10000 (List.replicate 65536 0x61) ∧
      DescriptorOutside 0x40 0x10000 (List.replicate 65536 0x61) ∧
      ¬ ∃ rounds, EndsWithin (countByte (letterMemory 65536) 0x10000) rounds 0) := by
  have full := letterMemory_holds (show 65535 ≤ 0x10000 by decide)
  have tooLong := letterMemory_holds (show 65536 ≤ 0x10000 by decide)
  refine ⟨⟨full, letters_outside (by decide), ?_⟩, tooLong, letters_outside (by decide), ?_⟩
  · intro encodes
    have short := (full.of_encodes encodes).2
    rw [List.length_replicate] at short
    exact absurd short (by decide)
  · rintro ⟨rounds, ends⟩
    refine tooLong.not_endsWithin ?_ rounds 0 ends
    rw [List.length_replicate]
    decide

end BumpinHost.Kernel
