import BumpinHost.Kernel.FileCursors

/-!
# What a read says it delivered

`NtReadFile` counts what its caller may have of the file, by the size in the disc
entry, and puts that count in the status block.  What the stream gave is never asked.
-/

namespace BumpinHost.Kernel

open Disc Memory Cursors

/-- A byte of a filled status block, which ends with the number of bytes. -/
def statusBlockByte (ioStatusBlockPtr information : Word) (position : Nat) : Option Byte :=
  if (ioStatusBlockPtr + 4).toNat ≤ position ∧
      position < (ioStatusBlockPtr + 4).toNat + 4 then
    some (information.extractLsb' (8 * ((ioStatusBlockPtr + 4).toNat + 3 - position)) 8)
  else if ioStatusBlockPtr.toNat ≤ position ∧ position < ioStatusBlockPtr.toNat + 4 then
    some 0
  else none

/-- The number of bytes between an offset and the end of the file, at most so many. -/
def bytesLeft (entry : XdvdfsEntry) (offset : BitVec 64) (length : Word) : Nat :=
  min length.toNat (entry.fileSize.toNat - offset.toNat)

/-- The byte of the image at an offset of a file, if the image is that long. -/
def imageByte (image : XdvdfsImage) (entry : XdvdfsEntry) (offset : Nat) : Option Byte :=
  image.file.bytes[entry.startSector.toNat * kSectorSize + offset]?

namespace FilesState

variable (s : FilesState) (t : ThreadId) (call : ReadCall) (state : FileHandleState)

/-- `NtReadFile` from its start to its end. -/
def readFileCall : FilesState × ReadOutcome :=
  let (read, outcome) := s.ntReadFile call
  (read.completeRead t (readCompletion call outcome), outcome)

/-- If the call succeeds and its status block says `count`, then the buffer has so many
bytes of the image, and the position is behind them. -/
def ReportsDelivered : Prop :=
  ∀ count : Word, (s.readFileCall t call).2.status = 0 → call.ioStatusBlockPtr ≠ 0 →
    loadU32 (s.readFileCall t call).1.mem (call.ioStatusBlockPtr + 4) = count →
      (∀ index < count.toNat,
        imageByte s.image state.entry ((s.readOffset call state).toNat + index) =
          some ((s.readFileCall t call).1.mem (call.bufferPtr.toNat + index))) ∧
      ∃ moved,
        (s.readFileCall t call).1.fileState call.handle =
            some { state with position := moved } ∧
          moved.toNat = (s.readOffset call state).toNat + count.toNat

/-- The image has the bytes that are asked for, its stream is still good, and the status
block spoils none of them in the buffer.  A byte that is there already does no harm. -/
structure Delivers (count : Nat) : Prop where
  contained : state.entry.startSector.toNat * kSectorSize +
    (s.readOffset call state).toNat + count ≤ s.image.file.bytes.length
  streams : s.image.file.failed = true → ∀ index < count,
    statusBlockByte call.ioStatusBlockPtr (BitVec.ofNat 32 count)
        (call.bufferPtr.toNat + index) = none →
      imageByte s.image state.entry ((s.readOffset call state).toNat + index) =
        some (s.mem (call.bufferPtr.toNat + index))
  unspoiled : ∀ index < count, ∀ byte,
    statusBlockByte call.ioStatusBlockPtr (BitVec.ofNat 32 count)
        (call.bufferPtr.toNat + index) = some byte →
      imageByte s.image state.entry ((s.readOffset call state).toNat + index) = some byte

end FilesState

theorem storeIoStatus_eq (mem : Memory) {ioStatusBlockPtr : Word}
    (block : ioStatusBlockPtr ≠ 0) (information : Word) (position : Nat) :
    storeIoStatus mem ioStatusBlockPtr ⟨0, information⟩ position =
      (statusBlockByte ioStatusBlockPtr information position).getD (mem position) := by
  unfold storeIoStatus statusBlockByte
  rw [if_pos block]
  dsimp only
  by_cases inInformation : (ioStatusBlockPtr + 4).toNat ≤ position ∧
      position < (ioStatusBlockPtr + 4).toNat + 4
  · rw [if_pos inInformation, storeU32_inside _ inInformation.1 inInformation.2]
    rfl
  · rw [if_neg inInformation, storeU32_of_outside _ (by omega)]
    by_cases inStatus : ioStatusBlockPtr.toNat ≤ position ∧
        position < ioStatusBlockPtr.toNat + 4
    · rw [if_pos inStatus, storeU32_inside _ inStatus.1 inStatus.2]
      simp
    · rw [if_neg inStatus, storeU32_of_outside _ (by omega)]
      rfl

theorem loadU32_storeIoStatus (mem : Memory) {ioStatusBlockPtr : Word}
    (block : ioStatusBlockPtr ≠ 0) (ioStatus : IoStatus) :
    loadU32 (storeIoStatus mem ioStatusBlockPtr ioStatus) (ioStatusBlockPtr + 4) =
      ioStatus.information := by
  unfold storeIoStatus
  rw [if_pos block, loadU32_storeU32_same]

namespace FilesState

variable {s : FilesState} {t : ThreadId} {call : ReadCall} {state : FileHandleState}

theorem bytesToRead_eq (entry : XdvdfsEntry) (offset : BitVec 64) (length : Word) :
    bytesToRead entry offset length = BitVec.ofNat 32 (bytesLeft entry offset length) := by
  apply BitVec.eq_of_toNat_eq
  have bound := length.isLt
  rw [toNat_bytesToRead, BitVec.toNat_ofNat, bytesLeft, Nat.mod_eq_of_lt (by omega)]

/-- What the stream gives of a file that reaches behind the offset. -/
theorem readBytes_data (image : XdvdfsImage) (entry : XdvdfsEntry) {offset : BitVec 64}
    (small : offset.toNat < 2 ^ 32) (count : Word) :
    (readBytes image entry offset count).2 =
      if image.file.failed then []
      else slice image.file.bytes (entry.startSector.toNat * kSectorSize + offset.toNat)
        count.toNat := by
  obtain ⟨position, low⟩ := toNat_readPosition entry small
  have above : ¬ (readPosition entry offset).msb = true := by
    rw [BitVec.msb_eq_decide, decide_eq_true_iff]
    omega
  change (image.file.transfer (readPosition entry offset) count.toNat).1 = _
  unfold DiscFile.transfer
  by_cases failed : image.file.failed = true
  · rw [if_pos failed, if_pos failed]
  · rw [if_neg failed, if_neg failed, if_neg above, position]
    rfl

theorem readFileCall_status (found : s.fileState call.handle = some state) :
    (s.readFileCall t call).2.status = 0 := by
  unfold readFileCall ntReadFile
  rw [found]

/-- The position goes behind the bytes that were counted, whatever the stream gave. -/
theorem readFileCall_position (found : s.fileState call.handle = some state) :
    ∃ moved,
      (s.readFileCall t call).1.fileState call.handle =
          some { state with position := moved } ∧
        moved.toNat = (s.readOffset call state).toNat +
          bytesLeft state.entry (s.readOffset call state) call.length := by
  refine ⟨s.readOffset call state + (bytesToRead state.entry (s.readOffset call state)
    call.length).setWidth 64, ?_, ?_⟩
  · unfold readFileCall
    dsimp only
    rw [completeRead_fileState]
    unfold ntReadFile
    rw [found]
    exact Function.update_self ..
  · rw [toNat_position, toNat_bytesToRead, bytesLeft]

theorem readFileCall_mem (found : s.fileState call.handle = some state) :
    (s.readFileCall t call).1.mem =
      storeIoStatus (s.mem.writeBytes call.bufferPtr.toNat (s.ntReadFile call).2.data)
        call.ioStatusBlockPtr
        ⟨0, BitVec.ofNat 32 (bytesLeft state.entry (s.readOffset call state) call.length)⟩ := by
  unfold readFileCall
  dsimp only
  rw [completeRead_mem, ← bytesToRead_eq]
  unfold ntReadFile
  rw [found]
  rfl

theorem readFileCall_information (found : s.fileState call.handle = some state)
    (block : call.ioStatusBlockPtr ≠ 0) :
    loadU32 (s.readFileCall t call).1.mem (call.ioStatusBlockPtr + 4) =
      BitVec.ofNat 32 (bytesLeft state.entry (s.readOffset call state) call.length) := by
  rw [readFileCall_mem found, loadU32_storeIoStatus _ block]

/-- What a read of at least one byte copies. -/
theorem ntReadFile_data (found : s.fileState call.handle = some state)
    (some : 0 < bytesLeft state.entry (s.readOffset call state) call.length) :
    (s.ntReadFile call).2.data =
      if s.image.file.failed then []
      else slice s.image.file.bytes
        (state.entry.startSector.toNat * kSectorSize + (s.readOffset call state).toNat)
        (bytesLeft state.entry (s.readOffset call state) call.length) := by
  have size := state.entry.fileSize.isLt
  have counted := toNat_bytesToRead state.entry (s.readOffset call state) call.length
  have small : (s.readOffset call state).toNat < 2 ^ 32 := by
    unfold bytesLeft at some
    omega
  have positive : 0 < bytesToRead state.entry (s.readOffset call state) call.length := by
    rw [BitVec.lt_def, counted]
    exact some
  unfold ntReadFile
  rw [found]
  dsimp only
  rw [if_pos positive, readBytes_data s.image state.entry small, counted, bytesLeft]

/-- What lies in the buffer after the call, when the image has the bytes. -/
theorem readFileCall_buffer (found : s.fileState call.handle = some state)
    (block : call.ioStatusBlockPtr ≠ 0)
    {count : Nat} (counted : bytesLeft state.entry (s.readOffset call state) call.length = count)
    (contained : state.entry.startSector.toNat * kSectorSize +
      (s.readOffset call state).toNat + count ≤ s.image.file.bytes.length)
    {index : Nat} (inside : index < count) :
    some ((s.readFileCall t call).1.mem (call.bufferPtr.toNat + index)) =
      (statusBlockByte call.ioStatusBlockPtr (BitVec.ofNat 32 count)
        (call.bufferPtr.toNat + index)).or
        (if s.image.file.failed then some (s.mem (call.bufferPtr.toNat + index))
          else imageByte s.image state.entry ((s.readOffset call state).toNat + index)) := by
  have positive : 0 < bytesLeft state.entry (s.readOffset call state) call.length := by omega
  rw [readFileCall_mem found, storeIoStatus_eq _ block, counted, ntReadFile_data found positive,
    counted]
  cases statusBlockByte call.ioStatusBlockPtr (BitVec.ofNat 32 count)
      (call.bufferPtr.toNat + index) with
  | some byte => rfl
  | none =>
      rw [Option.getD_none, Option.none_or]
      by_cases failed : s.image.file.failed = true
      · rw [if_pos failed, if_pos failed, writeBytes_of_outside]
        right
        exact Nat.le_add_right _ _
      · have whole := length_slice s.image.file.bytes
          (state.entry.startSector.toNat * kSectorSize + (s.readOffset call state).toNat) count
        rw [if_neg failed, if_neg failed, writeBytes_inside _ (by omega)]
        unfold imageByte slice
        rw [List.getElem_take, List.getElem_drop, ← List.getElem?_eq_getElem, Nat.add_assoc]

theorem bytesLeft_lt (entry : XdvdfsEntry) (offset : BitVec 64) (length : Word) :
    bytesLeft entry offset length < 2 ^ 32 := by
  have asked := length.isLt
  unfold bytesLeft
  omega

/-- A call with a status block is judged by the buffer alone. -/
theorem reportsDelivered_iff_buffer (found : s.fileState call.handle = some state)
    (block : call.ioStatusBlockPtr ≠ 0) {count : Nat}
    (counted : bytesLeft state.entry (s.readOffset call state) call.length = count) :
    ReportsDelivered s t call state ↔
      ∀ index < count,
        imageByte s.image state.entry ((s.readOffset call state).toNat + index) =
          some ((s.readFileCall t call).1.mem (call.bufferPtr.toNat + index)) := by
  have information := readFileCall_information (t := t) found block
  have position := readFileCall_position (t := t) found
  have stored : (BitVec.ofNat 32 count).toNat = count := by
    rw [BitVec.toNat_ofNat, Nat.mod_eq_of_lt (counted ▸ bytesLeft_lt ..)]
  rw [counted] at information position
  constructor
  · intro reports
    obtain ⟨delivered, -⟩ := reports _ (readFileCall_status found) block information
    rw [stored] at delivered
    exact delivered
  · intro delivered reported _ _ same
    obtain rfl : BitVec.ofNat 32 count = reported := information.symm.trans same
    rw [stored]
    exact ⟨delivered, position⟩

/-- The last byte that was delivered is one of the image. -/
theorem contained_of_buffer {count : Nat} (positive : 0 < count)
    (delivered : ∀ index < count,
      imageByte s.image state.entry ((s.readOffset call state).toNat + index) =
        some ((s.readFileCall t call).1.mem (call.bufferPtr.toNat + index))) :
    state.entry.startSector.toNat * kSectorSize + (s.readOffset call state).toNat + count ≤
      s.image.file.bytes.length := by
  have last := delivered (count - 1) (by omega)
  unfold imageByte at last
  have inImage := (List.getElem?_eq_some_iff.mp last).1
  omega

theorem Delivers.of_buffer (found : s.fileState call.handle = some state)
    (block : call.ioStatusBlockPtr ≠ 0) {count : Nat}
    (counted : bytesLeft state.entry (s.readOffset call state) call.length = count)
    (positive : 0 < count)
    (delivered : ∀ index < count,
      imageByte s.image state.entry ((s.readOffset call state).toNat + index) =
        some ((s.readFileCall t call).1.mem (call.bufferPtr.toNat + index))) :
    Delivers s call state count := by
  have contained := contained_of_buffer positive delivered
  constructor
  case contained => exact contained
  case streams =>
      intro failed index inside elsewhere
      rw [delivered index inside, readFileCall_buffer found block counted contained inside,
        elsewhere, Option.none_or, if_pos failed]
  case unspoiled =>
      intro index inside byte written
      rw [delivered index inside, readFileCall_buffer found block counted contained inside,
        written, Option.some_or]

theorem Delivers.buffer {count : Nat} (delivers : Delivers s call state count)
    (found : s.fileState call.handle = some state) (block : call.ioStatusBlockPtr ≠ 0)
    (counted : bytesLeft state.entry (s.readOffset call state) call.length = count)
    {index : Nat} (inside : index < count) :
    imageByte s.image state.entry ((s.readOffset call state).toNat + index) =
      some ((s.readFileCall t call).1.mem (call.bufferPtr.toNat + index)) := by
  rw [readFileCall_buffer found block counted delivers.contained inside]
  cases written : statusBlockByte call.ioStatusBlockPtr (BitVec.ofNat 32 count)
      (call.bufferPtr.toNat + index) with
  | some byte => exact delivers.unspoiled index inside byte written
  | none =>
      rw [Option.none_or]
      by_cases failed : s.image.file.failed = true
      · rw [if_pos failed]
        exact delivers.streams failed index inside written
      · rw [if_neg failed]

end FilesState

open FilesState

/-- A read of an open file reports only what it delivered exactly when it has no status
block, or nothing of the file is left for it, or the image delivers what is left. -/
theorem ntReadFile_reportsDelivered_iff {s : FilesState} {call : ReadCall}
    {state : FileHandleState} (found : s.fileState call.handle = some state) (t : ThreadId) :
    ReportsDelivered s t call state ↔
      call.ioStatusBlockPtr = 0 ∨
        bytesLeft state.entry (s.readOffset call state) call.length = 0 ∨
        Delivers s call state
          (bytesLeft state.entry (s.readOffset call state) call.length) := by
  by_cases block : call.ioStatusBlockPtr = 0
  · refine iff_of_true ?_ (.inl block)
    intro count _ stores
    exact absurd block stores
  rw [or_iff_right block, reportsDelivered_iff_buffer found block rfl]
  constructor
  · intro delivered
    rcases Nat.eq_zero_or_pos
      (bytesLeft state.entry (s.readOffset call state) call.length) with nothing | positive
    · exact .inl nothing
    · exact .inr (Delivers.of_buffer found block rfl positive delivered)
  · rintro (nothing | delivers) index inside
    · omega
    · exact delivers.buffer found block rfl inside

/-- Four bytes, with a status block behind the buffer. -/
def readFourReported : ReadCall := ⟨firstHandle, 0, 0, 0, 0x60, 0x40, 4, 0⟩

theorem ntReadFile_reportsDelivered_iff_inside :
    descriptorOpen.fileState firstHandle = some ⟨descriptorFile, 0⟩ ∧
      ReportsDelivered descriptorOpen 0 readFourReported ⟨descriptorFile, 0⟩ := by
  have found : descriptorOpen.fileState readFourReported.handle =
      some ⟨descriptorFile, 0⟩ := by decide
  refine ⟨found, (ntReadFile_reportsDelivered_iff found 0).mpr ?_⟩
  right
  right
  have four : bytesLeft descriptorFile
      (descriptorOpen.readOffset readFourReported ⟨descriptorFile, 0⟩) 4 = 4 := by decide
  change Delivers descriptorOpen readFourReported ⟨descriptorFile, 0⟩ (bytesLeft descriptorFile
    (descriptorOpen.readOffset readFourReported ⟨descriptorFile, 0⟩) 4)
  rw [four]
  constructor
  case contained =>
      change 0x20 * kSectorSize + 0 + 4 ≤ descriptorBytes.length
      rw [length_descriptorBytes]
      decide
  case streams => exact fun failed => absurd failed Bool.false_ne_true
  case unspoiled =>
      intro index inside byte written
      have outside : ∀ index < 4, statusBlockByte 0x60 4 (0x40 + index) = none := by decide
      have none : statusBlockByte 0x60 4 (0x40 + index) = none := outside index inside
      rw [show statusBlockByte readFourReported.ioStatusBlockPtr (BitVec.ofNat 32 4)
        (readFourReported.bufferPtr.toNat + index) = statusBlockByte 0x60 4 (0x40 + index)
        from rfl, none] at written
      cases written

/-- The directory says 64 bytes, and the image ends after 28 of them. -/
def truncatedTable : List Byte :=
  [0, 0, 0, 0, 0x20, 0, 0, 0, 64, 0, 0, 0, 0x80, 1, 0x61, 0xFF]

def truncatedFile : XdvdfsEntry := ⟨0x20, 64, false⟩

def truncatedBytes : List Byte :=
  (truncatedTable ++ List.replicate 65520 0) ++
    (kMagic ++ (storedU32 0 ++ (storedU32 16 ++ [])))

def truncatedImage : XdvdfsImage := ⟨⟨truncatedBytes, false⟩, 0, 16⟩

def truncatedMounted : FilesState := { discMounted with image := truncatedImage }

theorem openImage_truncatedBytes : openImage truncatedBytes = some truncatedImage := by
  refine openImage_eq ?_ rfl
  rw [List.length_append, List.length_replicate]
  rfl

theorem ntOpenFile_truncatedMounted :
    truncatedMounted.ntOpenFile openDescriptorFile =
      (truncatedMounted.openDiscFile truncatedFile, some (0, firstHandle)) := by
  have path : readGuestAnsiString truncatedMounted.mem openDescriptorFile.objectAttributesPtr =
      [0x64, 0x3A, 0x5C, 0x61] := by decide
  have begins : truncatedImage.file.bytes = truncatedTable ++ (List.replicate 65520 0 ++
      (kMagic ++ (storedU32 0 ++ (storedU32 16 ++ [])))) := List.append_assoc ..
  have split : splitPath [0x61] = [[0x61]] := by decide
  have found : navigate truncatedTable [0x61] (toLower [0x61]) (truncatedTable.length + 1) 0 =
      some (some truncatedFile) := by decide
  have resolved : resolvePath truncatedMounted.image ([0x64, 0x3A, 0x5C, 0x61].drop 3) .initial =
      (truncatedImage, some (true, truncatedFile)) :=
    resolvePath_rootTable rfl begins rfl rfl split found .initial
  have opened : truncatedMounted.openGuestFile [0x64, 0x3A, 0x5C, 0x61] =
      (truncatedMounted.openDiscFile truncatedFile, some (0, firstHandle)) := by
    unfold FilesState.openGuestFile
    rw [if_neg (by decide), if_pos (by decide), resolved]
    rfl
  unfold ntOpenFile
  rw [path, opened]
  rfl

/-- Sixty-four bytes, of which the image has twenty-eight. -/
def readTruncated : ReadCall := ⟨firstHandle, 0, 0, 0, 0x90, 0x40, 64, 0⟩

/-- A file that was opened on a truncated image: the read reports 64 bytes, and the
position is behind them. -/
theorem truncatedRead_reportsMissingBytes :
    openImage truncatedBytes = some truncatedImage ∧ truncatedMounted.IsBoot ∧
      truncatedMounted.ntOpenFile openDescriptorFile =
        (truncatedMounted.openDiscFile truncatedFile, some (0, firstHandle)) ∧
      ¬ ReportsDelivered (truncatedMounted.openDiscFile truncatedFile) 0 readTruncated
        ⟨truncatedFile, 0⟩ := by
  refine ⟨openImage_truncatedBytes, ⟨rfl, rfl, rfl, rfl⟩, ntOpenFile_truncatedMounted, ?_⟩
  intro reports
  have found : (truncatedMounted.openDiscFile truncatedFile).fileState firstHandle =
      some ⟨truncatedFile, 0⟩ := by decide
  have block : readTruncated.ioStatusBlockPtr ≠ 0 := by decide
  obtain ⟨delivered, -⟩ := reports _ (readFileCall_status found) block
    (readFileCall_information found block)
  have missing := delivered 28 (by decide)
  unfold imageByte at missing
  have inImage := (List.getElem?_eq_some_iff.mp missing).1
  have length : truncatedBytes.length = kVolumeDescriptorOffset + 28 := by
    unfold truncatedBytes
    rw [List.length_append, List.length_append, List.length_replicate]
    rfl
  change 0x20 * kSectorSize + (0 + 28) < truncatedBytes.length at inImage
  rw [length] at inImage
  exact absurd inImage (by decide)

end BumpinHost.Kernel
