import BumpinHost.Disc.SearchTermination
import BumpinHost.Library.BumpAllocator
import BumpinHost.Library.TracedLoops

/-!
# What the search of a directory table reads

Both loops are run with a trace of the index of every byte of the table they read.
Offsets are 32-bit words here, as in the source, and the guards are 64-bit.  A round
reads the bytes of one entry, one after another, and none of them lies outside the table:
behind the guards the 32-bit indices do not wrap.
-/

namespace BumpinHost.Disc

/-- A computation that reads bytes of a table and does not fail. -/
abbrev TableReading := Traced Nat Empty

def readTableByte (table : List Byte) (index : Nat) : TableReading Byte := do
  Traced.log index
  return table.getD index 0

def readTableU16 (table : List Byte) (index : Word) : TableReading (BitVec 16) := do
  let low ← readTableByte table index.toNat
  let high ← readTableByte table (index.toNat + 1)
  return high ++ low

def readTableU32 (table : List Byte) (index : Word) : TableReading Word := do
  let byte0 ← readTableByte table index.toNat
  let byte1 ← readTableByte table (index.toNat + 1)
  let byte2 ← readTableByte table (index.toNat + 2)
  let byte3 ← readTableByte table (index.toNat + 3)
  return (byte3 ++ byte2) ++ (byte1 ++ byte0)

def readTableBytes (table : List Byte) (index : Nat) : Nat → TableReading (List Byte)
  | 0 => return []
  | count + 1 => do
      let byte ← readTableByte table index
      let bytes ← readTableBytes table (index + 1) count
      return byte :: bytes

section Loops

variable (table : List Byte) (tableSize : Word) (name targetLower : Name)

/-- What both loops read of an entry: its data, the length of its name, and the name,
unless that does not fit. -/
def readEntry (entryOffset : Word) : TableReading (Option (XdvdfsEntry × Byte × Name)) := do
  let startSector ← readTableU32 table (entryOffset + 4)
  let fileSize ← readTableU32 table (entryOffset + 8)
  let attributes ← readTableByte table (entryOffset + 12).toNat
  let nameLength ← readTableByte table (entryOffset + 13).toNat
  if nameLength = 0xFF then return none
  else if tableSize.setWidth 64 < entryOffset.setWidth 64 + 14 + nameLength.setWidth 64 then
    return none
  else do
    let entryName ← readTableBytes table (entryOffset + 14).toNat nameLength.toNat
    return some (⟨startSector, fileSize, attributes &&& 0x10 != 0⟩, nameLength, entryName)

/-- One round of the tree search. -/
def navigateRound (entryOffset : Word) : TableReading (Word ⊕ Option XdvdfsEntry) :=
  if tableSize.setWidth 64 < entryOffset.setWidth 64 + (14 : BitVec 64) then return .inr none
  else do
    let leftOffset ← readTableU16 table (entryOffset + 0)
    let rightOffset ← readTableU16 table (entryOffset + 2)
    match ← readEntry table tableSize entryOffset with
    | none => return .inr none
    | some (entry, _, entryName) =>
        if targetLower = toLower entryName then return .inr (some entry)
        else if name < entryName then
          if leftOffset = 0xFFFF ∨ leftOffset = 0 then return .inr none
          else return .inl (leftOffset.setWidth 32 * 4)
        else
          if rightOffset = 0xFFFF ∨ rightOffset = 0 then return .inr none
          else return .inl (rightOffset.setWidth 32 * 4)

/-- One round of the scan. -/
def scanRound (linearOffset : Word) : TableReading (Word ⊕ Option XdvdfsEntry) :=
  if linearOffset.setWidth 64 + (14 : BitVec 64) ≤ tableSize.setWidth 64 then do
    match ← readEntry table tableSize linearOffset with
    | none => return .inr none
    | some (entry, nameLength, entryName) =>
        if targetLower = toLower entryName then return .inr (some entry)
        else
          let linearOffset := linearOffset + (14 + nameLength.setWidth 32)
          return .inl ((linearOffset + 3) &&& ~~~3)
  else
    return .inr none

/-- The tree search from an offset, for so many rounds. -/
def navigateLoop (rounds : Nat) (entryOffset : Word) :
    TableReading (Option (Option XdvdfsEntry)) :=
  Traced.loop (navigateRound table tableSize name targetLower) rounds entryOffset

/-- The scan from an offset, for so many rounds. -/
def scanLoop (rounds : Nat) (linearOffset : Word) :
    TableReading (Option (Option XdvdfsEntry)) :=
  Traced.loop (scanRound table tableSize targetLower) rounds linearOffset

end Loops

/-- A 64-bit guard, in natural numbers. -/
theorem toNat_guard (offset : Word) (nameLength : Byte) :
    (offset.setWidth 64 + 14 + nameLength.setWidth 64 : BitVec 64).toNat =
      offset.toNat + 14 + nameLength.toNat := by
  have small := offset.isLt
  have short := nameLength.isLt
  have header : (14 : BitVec 64).toNat = 14 := rfl
  rw [BitVec.toNat_add, BitVec.toNat_add, header, BitVec.toNat_setWidth,
    BitVec.toNat_setWidth]
  omega

theorem toNat_headerGuard (offset : Word) :
    (offset.setWidth 64 + 14 : BitVec 64).toNat = offset.toNat + 14 := by
  have small := offset.isLt
  have header : (14 : BitVec 64).toNat = 14 := rfl
  rw [BitVec.toNat_add, header, BitVec.toNat_setWidth]
  omega

theorem toNat_tableSize (tableSize : Word) :
    (tableSize.setWidth 64 : BitVec 64).toNat = tableSize.toNat := by
  have small := tableSize.isLt
  rw [BitVec.toNat_setWidth]
  exact Nat.mod_eq_of_lt (by omega)

/-- Inside a header, an index does not wrap. -/
theorem toNat_field {offset tableSize : Word} (header : offset.toNat + 14 ≤ tableSize.toNat)
    {field : Nat} (inHeader : field ≤ 14) :
    (offset + BitVec.ofNat 32 field).toNat = offset.toNat + field := by
  have size := tableSize.isLt
  rw [BitVec.toNat_add, BitVec.toNat_ofNat]
  omega

theorem readTableU16_eq (table : List Byte) (index : Word) :
    readTableU16 table index =
      ⟨List.range' index.toNat 2, .ok (tableU16 table index.toNat)⟩ :=
  rfl

theorem readTableU32_eq (table : List Byte) (index : Word) :
    readTableU32 table index =
      ⟨List.range' index.toNat 4, .ok (tableU32 table index.toNat)⟩ :=
  rfl

theorem readTableByte_eq (table : List Byte) (index : Nat) :
    readTableByte table index = ⟨List.range' index 1, .ok (table.getD index 0)⟩ :=
  rfl

theorem readTableBytes_eq {table : List Byte} {index count : Nat}
    (inside : index + count ≤ table.length) :
    readTableBytes table index count =
      ⟨List.range' index count, .ok ((table.drop index).take count)⟩ := by
  induction count generalizing index with
  | zero => rfl
  | succ count ih =>
      have present : index < table.length := by omega
      rw [readTableBytes, readTableByte_eq, Traced.mk_bind, ih (by omega), Traced.mk_bind,
        List.drop_eq_getElem_cons present, List.take_succ_cons,
        List.getD_eq_getElem _ _ present]
      simp [List.range'_succ, pure, Traced.lift]

/-- The fields from the third on, and a name, lie one behind the other. -/
theorem fieldReads (offset count : Nat) :
    List.range' (offset + 4) 4 ++ (List.range' (offset + 8) 4 ++ (List.range' (offset + 12) 1 ++
      (List.range' (offset + 13) 1 ++ List.range' (offset + 14) count))) =
        List.range' (offset + 4) (10 + count) := by
  have last : List.range' (offset + 13) 1 ++ List.range' (offset + 14) count =
      List.range' (offset + 13) (1 + count) := List.range'_append_1
  have third : List.range' (offset + 12) 1 ++ List.range' (offset + 13) (1 + count) =
      List.range' (offset + 12) (1 + (1 + count)) := List.range'_append_1
  have second : List.range' (offset + 8) 4 ++ List.range' (offset + 12) (1 + (1 + count)) =
      List.range' (offset + 8) (4 + (1 + (1 + count))) := List.range'_append_1
  have first : List.range' (offset + 4) 4 ++
      List.range' (offset + 8) (4 + (1 + (1 + count))) =
        List.range' (offset + 4) (4 + (4 + (1 + (1 + count)))) := List.range'_append_1
  rw [last, third, second, first]
  congr 1
  omega

/-- The number of bytes of the entry at an offset that fit in the table: none, the
header, or the header and the name. -/
def entryBytes (table : List Byte) (offset : Nat) : Nat :=
  if table.length < offset + 14 then 0
  else
    match entryAt table offset with
    | none => 14
    | some (header, _) => 14 + header.nameLength.toNat

theorem entryBytes_inside {table : List Byte} {offset index : Nat}
    (read : index ∈ List.range' offset (entryBytes table offset)) : index < table.length := by
  obtain ⟨position, inEntry, rfl⟩ := List.mem_range'.mp read
  unfold entryBytes at inEntry
  split at inEntry
  · cases inEntry
  · rename_i header
    cases present : entryAt table offset with
    | none =>
        rw [present] at inEntry
        dsimp only at inEntry
        omega
    | some read =>
        have inside := le_of_entryAt present
        rw [present] at inEntry
        dsimp only at inEntry
        omega

section Rounds

variable {table : List Byte} {tableSize : Word} (length : table.length = tableSize.toNat)

include length

theorem headerGuard_iff (offset : Word) :
    tableSize.setWidth 64 < (offset.setWidth 64 + 14 : BitVec 64) ↔
      table.length < offset.toNat + 14 := by
  rw [BitVec.lt_def, toNat_headerGuard, toNat_tableSize, length]

theorem nameGuard_iff (offset : Word) (nameLength : Byte) :
    tableSize.setWidth 64 < (offset.setWidth 64 + 14 + nameLength.setWidth 64 : BitVec 64) ↔
      table.length < offset.toNat + 14 + nameLength.toNat := by
  rw [BitVec.lt_def, toNat_guard, toNat_tableSize, length]

/-- Behind the guard of the header, the rest of it and the name are read one byte after
another. -/
theorem readEntry_eq {offset : Word} (header : ¬ table.length < offset.toNat + 14) :
    readEntry table tableSize offset =
      ⟨List.range' (offset.toNat + 4) (entryBytes table offset.toNat - 4),
        .ok ((entryAt table offset.toNat).map fun read =>
          (read.1.entry, read.1.nameLength, read.2))⟩ := by
  have fits : offset.toNat + 14 ≤ tableSize.toNat := by omega
  have start : (offset + 4).toNat = offset.toNat + 4 := toNat_field fits (by decide)
  have size : (offset + 8).toNat = offset.toNat + 8 := toNat_field fits (by decide)
  have attributes : (offset + 12).toNat = offset.toNat + 12 := toNat_field fits (by decide)
  have lengthField : (offset + 13).toNat = offset.toNat + 13 := toNat_field fits (by decide)
  have nameField : (offset + 14).toNat = offset.toNat + 14 := toNat_field fits (by decide)
  unfold readEntry entryBytes entryAt
  simp only [readTableU32_eq, readTableByte_eq, Traced.mk_bind, nameGuard_iff length,
    start, size, attributes, lengthField, nameField, if_neg header]
  have headerOnly := fieldReads offset.toNat 0
  have nameLength : (readHeader table offset.toNat).nameLength =
      table.getD (offset.toNat + 13) 0 := rfl
  simp only [nameLength]
  by_cases padding : table.getD (offset.toNat + 13) 0 = 0xFF
  · simp only [if_pos padding]
    exact congrArg₂ Traced.mk headerOnly rfl
  · by_cases outside :
        table.length < offset.toNat + 14 + (table.getD (offset.toNat + 13) 0).toNat
    · simp only [if_neg padding, if_pos outside]
      exact congrArg₂ Traced.mk headerOnly rfl
    · simp only [if_neg padding, if_neg outside]
      rw [readTableBytes_eq (Nat.le_of_not_lt outside), Traced.mk_bind, Traced.pure_eq,
        List.append_nil]
      refine congrArg₂ Traced.mk ?_ rfl
      have named := fieldReads offset.toNat (table.getD (offset.toNat + 13) 0).toNat
      have count : 14 + (table.getD (offset.toNat + 13) 0).toNat - 4 =
          10 + (table.getD (offset.toNat + 13) 0).toNat := by omega
      rw [nameLength, count, ← named]

omit length in
theorem entryAt_eq_none {offset : Word} (header : table.length < offset.toNat + 14) :
    entryAt table offset.toNat = none := by
  unfold entryAt
  rw [if_pos header]

omit length in
theorem readHeader_of_entryAt {offset : Nat} {header : EntryHeader} {entryName : Name}
    (present : entryAt table offset = some (header, entryName)) :
    header = readHeader table offset := by
  unfold entryAt at present
  dsimp only at present
  split at present
  · cases present
  split at present
  · cases present
  split at present
  · cases present
  · exact (Prod.mk.inj (Option.some.inj present)).1.symm

omit length in
/-- Behind the guard, the header is read at least. -/
theorem le_entryBytes {offset : Nat} (header : ¬ table.length < offset + 14) :
    14 ≤ entryBytes table offset := by
  unfold entryBytes
  rw [if_neg header]
  cases entryAt table offset with
  | none => exact le_rfl
  | some read => exact Nat.le_add_right 14 _

/-- How a round ends that goes on to an offset, or stops at this one. -/
def roundEnd (next : Option Nat) (found : Option XdvdfsEntry) : Word ⊕ Option XdvdfsEntry :=
  match next with
  | some offset => .inl (BitVec.ofNat 32 offset)
  | none => .inr found

omit length in
theorem childOffset_word (childOffset : BitVec 16) :
    childOffset.setWidth 32 * 4 = BitVec.ofNat 32 (childOffset.toNat * 4) := by
  apply BitVec.eq_of_toNat_eq
  have four : (4 : Word).toNat = 4 := rfl
  rw [BitVec.toNat_mul, BitVec.toNat_setWidth, four, BitVec.toNat_ofNat]
  omega

omit length in
/-- The offsets of both children and the rest are the bytes of the entry. -/
theorem childFields_append {offset : Nat} (header : ¬ table.length < offset + 14) :
    List.range' offset 2 ++ (List.range' (offset + 2) 2 ++
        List.range' (offset + 4) (entryBytes table offset - 4)) =
      List.range' offset (entryBytes table offset) := by
  have atLeast := le_entryBytes header
  have second : List.range' (offset + 2) 2 ++
      List.range' (offset + 4) (entryBytes table offset - 4) =
        List.range' (offset + 2) (2 + (entryBytes table offset - 4)) :=
    List.range'_append_1
  rw [second, List.range'_append_1]
  congr 1
  omega

omit length in
/-- The first two fields of an entry are the offsets of its children. -/
theorem childFields_eq {offset : Nat} {header : EntryHeader} {entryName : Name}
    (present : entryAt table offset = some (header, entryName)) :
    tableU16 table offset = header.leftOffset ∧
      tableU16 table (offset + 2) = header.rightOffset := by
  rw [readHeader_of_entryAt present]
  exact ⟨rfl, rfl⟩

/-- A round of the tree search reads the entry at its offset from the first byte on. -/
theorem navigateRound_eq (name : Name) (offset : Word) :
    navigateRound table tableSize name (toLower name) offset =
      ⟨List.range' offset.toNat (entryBytes table offset.toNat),
        .ok (roundEnd (navigateNext table name offset.toNat)
          (foundAt table name offset.toNat))⟩ := by
  unfold navigateRound navigateNext foundAt
  simp only [headerGuard_iff length]
  by_cases header : table.length < offset.toNat + 14
  · rw [if_pos header, entryAt_eq_none header, entryBytes, if_pos header]
    rfl
  · have fits : offset.toNat + 14 ≤ tableSize.toNat := by omega
    have left : (offset + 0).toNat = offset.toNat + 0 := toNat_field fits (by decide)
    have right : (offset + 2).toNat = offset.toNat + 2 := toNat_field fits (by decide)
    rw [if_neg header, readTableU16_eq, readTableU16_eq, left, right, Nat.add_zero,
      Traced.mk_bind, Traced.mk_bind, readEntry_eq length header, Traced.mk_bind]
    cases present : entryAt table offset.toNat with
    | none =>
        rw [← childFields_append header]
        simp [Traced.pure_eq, roundEnd]
    | some read =>
        obtain ⟨entryHeader, entryName⟩ := read
        obtain ⟨leftOffset, rightOffset⟩ := childFields_eq present
        rw [← childFields_append header, leftOffset, rightOffset]
        simp only [Option.map_some, childOffset_word]
        by_cases same : toLower name = toLower entryName
        · simp [same, Traced.pure_eq, roundEnd]
        · by_cases before : name < entryName
          · by_cases leaf : entryHeader.leftOffset = 0xFFFF ∨ entryHeader.leftOffset = 0
            · simp only [if_neg same, if_pos before, if_pos leaf]
              simp [Traced.pure_eq, roundEnd]
            · simp only [if_neg same, if_pos before, if_neg leaf]
              simp [Traced.pure_eq, roundEnd]
          · by_cases leaf : entryHeader.rightOffset = 0xFFFF ∨ entryHeader.rightOffset = 0
            · simp only [if_neg same, if_neg before, if_pos leaf]
              simp [Traced.pure_eq, roundEnd]
            · simp only [if_neg same, if_neg before, if_neg leaf]
              simp [Traced.pure_eq, roundEnd]

omit length in
theorem nextOffset_word (offset : Word) (nameLength : Byte) :
    (offset + (14 + nameLength.setWidth 32) + 3) &&& ~~~3 =
      BitVec.ofNat 32 (nextOffset offset.toNat nameLength) := by
  have small := offset.isLt
  have short := nameLength.isLt
  have header : (14 : Word).toNat = 14 := rfl
  have three : (3 : Word).toNat = 3 := rfl
  have power : (4 : Word).toNat = 2 ^ 2 := rfl
  have mask : (3 : Word) = 4 - 1 := rfl
  have sum : (offset + (14 + nameLength.setWidth 32) + 3).toNat =
      (offset.toNat + (14 + nameLength.toNat) + 3) % 2 ^ 32 := by
    rw [BitVec.toNat_add, BitVec.toNat_add, BitVec.toNat_add, header, three,
      BitVec.toNat_setWidth]
    omega
  apply BitVec.eq_of_toNat_eq
  rw [mask, BumpAllocator.toNat_and_not_mask _ power, ← mask, sum, BitVec.toNat_ofNat, nextOffset]
  omega

/-- A round of the scan reads the entry at its offset from the third field on. -/
theorem scanRound_eq (name : Name) (offset : Word) :
    scanRound table tableSize (toLower name) offset =
      ⟨List.range' (offset.toNat + 4) (entryBytes table offset.toNat - 4),
        .ok (roundEnd (scanNext table name offset.toNat)
          (foundAt table name offset.toNat))⟩ := by
  unfold scanRound scanNext foundAt
  simp only [← BitVec.not_lt, headerGuard_iff length]
  by_cases header : table.length < offset.toNat + 14
  · rw [if_neg (not_not.mpr header), entryAt_eq_none header, entryBytes, if_pos header]
    rfl
  · rw [if_pos header, readEntry_eq length header, Traced.mk_bind]
    cases present : entryAt table offset.toNat with
    | none => simp [Traced.pure_eq, roundEnd]
    | some read =>
        obtain ⟨entryHeader, entryName⟩ := read
        simp only [Option.map_some, nextOffset_word]
        by_cases same : toLower name = toLower entryName
        · simp [same, Traced.pure_eq, roundEnd]
        · simp [same, Traced.pure_eq, roundEnd]

end Rounds

section Loop

variable {round : Word → TableReading (Word ⊕ Option XdvdfsEntry)} {next : Nat → Option Nat}
  {found : Nat → Option XdvdfsEntry} {reads : Word → List Nat}
  (rounds_eq : ∀ offset, round offset =
    ⟨reads offset, .ok (roundEnd (next offset.toNat) (found offset.toNat))⟩)

include rounds_eq

/-- Without its trace, a loop over words is the loop over the offsets they stand for. -/
theorem loop_result (small : ∀ {offset later}, next offset = some later → later < 2 ^ 32)
    (rounds : Nat) (offset : Word) :
    (Traced.loop round rounds offset).result =
      .ok (runLoop next found rounds offset.toNat) := by
  induction rounds generalizing offset with
  | zero => rfl
  | succ rounds ih =>
      rw [Traced.loop_succ, rounds_eq, Traced.mk_bind, runLoop]
      cases goesOn : next offset.toNat with
      | none => rfl
      | some later =>
          have same : (BitVec.ofNat 32 later : Word).toNat = later := by
            rw [BitVec.toNat_ofNat]
            exact Nat.mod_eq_of_lt (small goesOn)
          have rest := ih (BitVec.ofNat 32 later)
          rw [same] at rest
          exact rest

theorem loop_keeps {tableSize : Word}
    (inside : ∀ offset, ∀ index ∈ reads offset, index < tableSize.toNat) (rounds : Nat)
    (offset : Word) : (Traced.loop round rounds offset).Keeps (· < tableSize.toNat) := by
  refine Traced.Keeps.loop (fun offset _ => ?_) (fun _ _ _ _ => trivial) rounds trivial
  rw [rounds_eq]
  exact inside offset

end Loop

theorem navigateNext_small {table : List Byte} {name : Name} {offset later : Nat}
    (goesOn : navigateNext table name offset = some later) : later < 2 ^ 32 := by
  have word : ∀ childOffset : BitVec 16, childOffset.toNat * 4 < 2 ^ 32 := by
    intro childOffset
    have small := childOffset.isLt
    omega
  unfold navigateNext at goesOn
  cases present : entryAt table offset with
  | none =>
      rw [present] at goesOn
      cases goesOn
  | some read =>
      rw [present] at goesOn
      dsimp only at goesOn
      generalize (if name < read.2 then read.1.leftOffset else read.1.rightOffset) =
        childOffset at goesOn
      split at goesOn
      · cases goesOn
      · split at goesOn
        · cases goesOn
        · rw [← Option.some.inj goesOn]
          exact word childOffset

theorem scanNext_small {table : List Byte} {name : Name} {offset later : Nat}
    (goesOn : scanNext table name offset = some later) : later < 2 ^ 32 := by
  obtain ⟨header, entryName, -, -, rfl⟩ := scanNext_eq_some_iff.mp goesOn
  unfold nextOffset
  omega

/-- At every offset, and in every round from there on, both loops read bytes of the table
only: those of the entry at the offset, from its first or third field on, as far as they
fit.  Without the trace, they are the tree search and the scan. -/
theorem searchDirectory_readsInside {table : List Byte} {tableSize : Word}
    (length : table.length = tableSize.toNat) (name : Name) (rounds : Nat) (offset : Word) :
    ((navigateRound table tableSize name (toLower name) offset).events =
        List.range' offset.toNat (entryBytes table offset.toNat) ∧
      (scanRound table tableSize (toLower name) offset).events =
        List.range' (offset.toNat + 4) (entryBytes table offset.toNat - 4)) ∧
      (∀ index ∈ (navigateLoop table tableSize name (toLower name) rounds offset).events,
        index < tableSize.toNat) ∧
      (∀ index ∈ (scanLoop table tableSize (toLower name) rounds offset).events,
        index < tableSize.toNat) ∧
      (navigateLoop table tableSize name (toLower name) rounds offset).result =
        .ok (navigate table name (toLower name) rounds offset.toNat) ∧
      (scanLoop table tableSize (toLower name) rounds offset).result =
        .ok (scanLinear table (toLower name) rounds offset.toNat) := by
  have navigates := navigateRound_eq length name
  have scans := scanRound_eq length name
  have entry : ∀ offset : Word, ∀ index ∈ List.range' offset.toNat
      (entryBytes table offset.toNat), index < tableSize.toNat :=
    fun offset index read => length ▸ entryBytes_inside read
  have fields : ∀ offset : Word, ∀ index ∈ List.range' (offset.toNat + 4)
      (entryBytes table offset.toNat - 4), index < tableSize.toNat := by
    intro offset index read
    refine entry offset index ?_
    rw [List.mem_range'_1] at read ⊢
    omega
  rw [navigate_eq_runLoop, scanLinear_eq_runLoop]
  refine ⟨⟨?_, ?_⟩, ?_, ?_, ?_, ?_⟩
  · rw [navigates offset]
  · rw [scans offset]
  · exact loop_keeps navigates entry rounds offset
  · exact loop_keeps scans fields rounds offset
  · exact loop_result navigates navigateNext_small rounds offset
  · exact loop_result scans scanNext_small rounds offset

/-- The search that never ends reads inside its table, here for three rounds. -/
theorem cyclicTable_readsInside :
    cyclicTable.length = (32 : Word).toNat ∧
      ∀ index ∈ (navigateLoop cyclicTable 32 [0x7A] (toLower [0x7A]) 3 0).events,
        index < (32 : Word).toNat :=
  ⟨by decide, (searchDirectory_readsInside (by decide) [0x7A] 3 0).2.1⟩

end BumpinHost.Disc
