import BumpinHost.Kernel.FileHandles
import BumpinHost.Library.Cursors

/-!
# File handles as cursors

As long as every open file lies inside the image no read is short, and each handle
is a cursor over its file's bytes: the calls on it, whatever the other threads do on
other handles, move it as an independent cursor moves.
-/

namespace BumpinHost.Kernel

open Disc Memory Cursors

/-- The bytes of a file. -/
def fileContents (image : XdvdfsImage) (entry : XdvdfsEntry) : List Byte :=
  slice image.file.bytes (entry.startSector.toNat * kSectorSize) entry.fileSize.toNat

/-- The file ends before the image does. -/
def EntryInside (image : XdvdfsImage) (entry : XdvdfsEntry) : Prop :=
  entry.startSector.toNat * kSectorSize + entry.fileSize.toNat ≤ image.file.bytes.length

/-- Every open file lies inside the image, whose stream is good. -/
structure FilesState.EntriesInside (s : FilesState) : Prop where
  streaming : s.image.file.failed = false
  inside : ∀ handle state, s.fileState handle = some state → EntryInside s.image state.entry

/-- The calls that work on open handles, and guest code. -/
def CursorCall : FileLabel → Prop
  | .openFile _ _ _ => False
  | .close _ _ => False
  | _ => True

/-- Runs of those calls, from any state. -/
def fileCursorSystem : Transition.System FilesState FileLabel :=
  (filesSystem fun _ => True).restrict fun _ label => CursorCall label

/-- The cursors that the two maps stand for. -/
def FilesState.cursors (s : FilesState) : Word → Option (Cursor Byte) := fun handle =>
  (s.fileState handle).map fun state =>
    ⟨fileContents s.image state.entry, state.position.toNat⟩

/-- What a call does to a cursor. -/
def fileEvent : FileLabel → Option (Event Word Byte)
  | .readFile _ call outcome =>
      if outcome.status = 0 then
        some (.read call.handle (call.byteOffsetPtr != 0) outcome.offset.toNat
          call.length.toNat outcome.data)
      else none
  | .queryInformation _ call outcome =>
      outcome.position.map fun position => .queryPosition call.handle position.toNat
  | .setInformation _ call outcome =>
      outcome.position.map fun position => .setPosition call.handle position.toNat
  | _ => none

/-- What a read of an open file does: it takes its offset from the caller or the
position, copies the bytes that the file has there, and leaves the position behind
them; it reports their number, which the end of the call puts in the status block. -/
structure ReadDelivers (s : FilesState) (t : ThreadId) (call : ReadCall)
    (state : FileHandleState) (outcome : ReadOutcome) (after : FilesState) : Prop where
  succeeds : outcome.status = 0
  offset : outcome.offset =
    if call.byteOffsetPtr ≠ 0 then loadU64 s.mem call.byteOffsetPtr else state.position
  count : outcome.bytesRead.toNat =
    min call.length.toNat (state.entry.fileSize.toNat - outcome.offset.toNat)
  length : outcome.data.length = outcome.bytesRead.toNat
  data : outcome.data =
    slice (fileContents s.image state.entry) outcome.offset.toNat outcome.bytesRead.toNat
  buffer : ∀ index, (inside : index < outcome.data.length) →
    after.mem (call.bufferPtr.toNat + index) = outcome.data[index]
  elsewhere : ∀ position, position < call.bufferPtr.toNat ∨
    call.bufferPtr.toNat + outcome.bytesRead.toNat ≤ position →
      after.mem position = s.mem position
  position : ∃ moved, after.fileState call.handle = some { state with position := moved } ∧
    moved.toNat = outcome.offset.toNat + outcome.bytesRead.toNat
  others : ∀ other, other ≠ call.handle → after.fileState other = s.fileState other
  reports : after.completions t = some (FilesState.readCompletion call outcome)

/-- What a query of the position does. -/
structure QueryTells (s : FilesState) (call : InformationCall) (state : FileHandleState)
    (outcome : InformationOutcome) (after : FilesState) : Prop where
  outcome : outcome = ⟨⟨0, 8⟩, some state.position⟩
  mem : after.mem =
    storeIoStatus (s.mem.storeU64 call.fileInformationPtr state.position)
      call.ioStatusBlockPtr ⟨0, 8⟩

/-- What a setting of the position does. -/
structure SetMoves (s : FilesState) (call : InformationCall) (state : FileHandleState)
    (outcome : InformationOutcome) (after : FilesState) : Prop where
  outcome : outcome = ⟨⟨0, 0⟩, some (loadU64 s.mem call.fileInformationPtr)⟩
  position : after.fileState call.handle =
    some { state with position := loadU64 s.mem call.fileInformationPtr }
  others : ∀ other, other ≠ call.handle → after.fileState other = s.fileState other

/-- What each call does to the file that its handle names. -/
def CallsMeetSpec (s : FilesState) (after : FilesState) : FileLabel → Prop
  | .readFile t call outcome => ∀ state, s.fileState call.handle = some state →
      ReadDelivers s t call state outcome after
  | .queryInformation _ call outcome => after.fileState = s.fileState ∧
      (call.infoClass = kFilePositionInformation →
        ∀ state, s.fileState call.handle = some state → QueryTells s call state outcome after)
  | .setInformation _ call outcome => call.infoClass = kFilePositionInformation →
      ∀ state, s.fileState call.handle = some state → SetMoves s call state outcome after
  | .completeRead t => after.fileState = s.fileState ∧
      ∃ completion, s.completions t = some completion ∧
        after.mem = storeIoStatus s.mem completion.ioStatusBlockPtr
          ⟨completion.status, completion.bytesRead⟩
  | .guestStore => after.fileState = s.fileState
  | .openFile _ _ _ => True
  | .close _ _ => True

namespace FilesState

variable {s after : FilesState} {label : FileLabel}

/-- The bytes that are left of the file, at most those that are asked for. -/
theorem toNat_bytesToRead (entry : XdvdfsEntry) (offset : BitVec 64) (length : Word) :
    (bytesToRead entry offset length).toNat =
      min length.toNat (entry.fileSize.toNat - offset.toNat) := by
  have size := entry.fileSize.isLt
  have asked := length.isLt
  have wideSize : (entry.fileSize.setWidth 64).toNat = entry.fileSize.toNat := by
    rw [BitVec.toNat_setWidth, Nat.mod_eq_of_lt (by omega)]
  have wide : (length.setWidth 64).toNat = length.toNat := by
    rw [BitVec.toNat_setWidth, Nat.mod_eq_of_lt (by omega)]
  unfold bytesToRead
  by_cases inside : offset < entry.fileSize.setWidth 64
  · have remaining : (entry.fileSize.setWidth 64 - offset).toNat =
        entry.fileSize.toNat - offset.toNat := by
      rw [BitVec.toNat_sub_of_le (BitVec.le_of_lt inside), wideSize]
    rw [if_pos inside]
    dsimp only
    rw [BitVec.toNat_setWidth]
    split
    case isTrue less =>
        rw [BitVec.lt_def, remaining, wide] at less
        rw [remaining, Nat.mod_eq_of_lt (by omega), min_eq_right (by omega)]
    case isFalse enough =>
        rw [BitVec.lt_def, remaining, wide] at enough
        rw [wide, Nat.mod_eq_of_lt (by omega), min_eq_left (by omega)]
  · rw [if_neg inside]
    rw [BitVec.lt_def, wideSize] at inside
    have past : entry.fileSize.toNat - offset.toNat = 0 := by omega
    rw [past, Nat.min_zero]
    rfl

theorem transfer_inside {file : DiscFile} (streaming : file.failed = false)
    {position : BitVec 64} (seeks : position.toNat < 2 ^ 63) {count : Nat}
    (inside : position.toNat + count ≤ file.bytes.length) :
    file.transfer position count = (slice file.bytes position.toNat count, file) := by
  have above : ¬ position.msb = true := by
    rw [BitVec.msb_eq_decide, decide_eq_true_iff]
    omega
  have whole : ((file.bytes.drop position.toNat).take count).length = count := by
    rw [List.length_take, List.length_drop]
    omega
  obtain ⟨bytes, failed⟩ := file
  cases streaming
  unfold DiscFile.transfer
  dsimp only at whole ⊢
  rw [if_neg Bool.false_ne_true, if_neg above, whole, decide_eq_false (Nat.lt_irrefl count)]
  rfl

/-- An offset in a file is a position of the image that is not below zero. -/
theorem toNat_readPosition (entry : XdvdfsEntry) {offset : BitVec 64}
    (small : offset.toNat < 2 ^ 32) :
    (readPosition entry offset).toNat =
        entry.startSector.toNat * kSectorSize + offset.toNat ∧
      (readPosition entry offset).toNat < 2 ^ 63 := by
  have sector := entry.startSector.isLt
  have position : (readPosition entry offset).toNat =
      entry.startSector.toNat * kSectorSize + offset.toNat := by
    unfold readPosition kSectorSize
    rw [BitVec.toNat_add, BitVec.toNat_mul, BitVec.toNat_setWidth, BitVec.toNat_ofNat,
      Nat.mod_eq_of_lt (show entry.startSector.toNat < 2 ^ 64 by omega)]
    omega
  refine ⟨position, ?_⟩
  rw [position, kSectorSize]
  omega

/-- A read of a file inside the image gets what it asks for and leaves the stream good. -/
theorem readBytes_inside {image : XdvdfsImage} (streaming : image.file.failed = false)
    {entry : XdvdfsEntry} (inside : EntryInside image entry) {offset : BitVec 64}
    {count : Word} (here : offset.toNat + count.toNat ≤ entry.fileSize.toNat) :
    readBytes image entry offset count =
      (image, slice (fileContents image entry) offset.toNat count.toNat) := by
  have size := entry.fileSize.isLt
  obtain ⟨position, low⟩ :=
    toNat_readPosition entry (show offset.toNat < 2 ^ 32 by omega)
  unfold EntryInside at inside
  have inFile : (readPosition entry offset).toNat + count.toNat ≤ image.file.bytes.length := by
    rw [position]
    omega
  have transferred := transfer_inside streaming low inFile
  have shorter : count.toNat ≤ entry.fileSize.toNat - offset.toNat := by omega
  unfold readBytes
  rw [show entry.startSector.setWidth 64 * BitVec.ofNat 64 kSectorSize + offset =
    readPosition entry offset from rfl, transferred]
  dsimp only
  rw [position]
  unfold fileContents slice
  rw [List.drop_take, List.take_take, List.drop_drop, min_eq_left shorter]

/-- The critical section of a read of an open file. -/
theorem EntriesInside.ntReadFile_eq (good : s.EntriesInside) (call : ReadCall)
    {state : FileHandleState} (found : s.fileState call.handle = some state) :
    s.ntReadFile call =
      let offset := s.readOffset call state
      let count := bytesToRead state.entry offset call.length
      let data := slice (fileContents s.image state.entry) offset.toNat count.toNat
      ({ s with
        mem := s.mem.writeBytes call.bufferPtr.toNat data
        fileState := Function.update s.fileState call.handle
          (some { state with position := offset + count.setWidth 64 }) },
        ⟨0, count, offset, data⟩) := by
  have inside := good.inside call.handle state found
  have counted := toNat_bytesToRead state.entry (s.readOffset call state) call.length
  unfold ntReadFile
  rw [found]
  dsimp only
  by_cases some : 0 < bytesToRead state.entry (s.readOffset call state) call.length
  · have positive : 0 < (bytesToRead state.entry (s.readOffset call state) call.length).toNat :=
      some
    rw [if_pos some, readBytes_inside good.streaming inside (by omega)]
  · have none : bytesToRead state.entry (s.readOffset call state) call.length = 0 := by
      apply BitVec.eq_of_toNat_eq
      exact Nat.eq_zero_of_not_pos some
    rw [if_neg some, none]
    simp [slice]

theorem length_fileContents {image : XdvdfsImage} {entry : XdvdfsEntry}
    (inside : EntryInside image entry) :
    (fileContents image entry).length = entry.fileSize.toNat := by
  unfold EntryInside at inside
  unfold fileContents
  rw [length_slice]
  omega

/-- Cutting the length at the end of the file changes nothing. -/
theorem slice_bytesToRead {image : XdvdfsImage} {entry : XdvdfsEntry}
    (inside : EntryInside image entry) (offset : BitVec 64) (length : Word) :
    slice (fileContents image entry) offset.toNat
        (bytesToRead entry offset length).toNat =
      slice (fileContents image entry) offset.toNat length.toNat := by
  have whole := length_fileContents inside
  unfold slice
  rw [toNat_bytesToRead, ← whole, ← List.length_drop]
  rcases Nat.le_total length.toNat ((fileContents image entry).drop offset.toNat).length with
    short | long
  · rw [min_eq_left short]
  · rw [min_eq_right long, List.take_of_length_le long, List.take_length]

/-- The position moves without wrapping. -/
theorem toNat_position (entry : XdvdfsEntry) (offset : BitVec 64) (length : Word) :
    (offset + (bytesToRead entry offset length).setWidth 64).toNat =
      offset.toNat + (bytesToRead entry offset length).toNat := by
  have counted := toNat_bytesToRead entry offset length
  have size := entry.fileSize.isLt
  have bound := offset.isLt
  have count := (bytesToRead entry offset length).isLt
  rw [BitVec.toNat_add, BitVec.toNat_setWidth]
  omega

theorem EntriesInside.readDelivers (good : s.EntriesInside) (t : ThreadId) (call : ReadCall)
    {state : FileHandleState} (found : s.fileState call.handle = some state) :
    ReadDelivers s t call state (s.ntReadFile call).2
      ((s.ntReadFile call).1.setCompletion t
        (some (readCompletion call (s.ntReadFile call).2))) := by
  have inside := good.inside call.handle state found
  have whole := length_fileContents inside
  have counted := toNat_bytesToRead state.entry (s.readOffset call state) call.length
  have read := good.ntReadFile_eq call found
  have length : (slice (fileContents s.image state.entry) (s.readOffset call state).toNat
      (bytesToRead state.entry (s.readOffset call state) call.length).toNat).length =
        (bytesToRead state.entry (s.readOffset call state) call.length).toNat := by
    rw [length_slice, whole]
    omega
  rw [read]
  constructor
  case succeeds => rfl
  case offset => rfl
  case count => exact counted
  case length => exact length
  case data => rfl
  case buffer =>
      intro index lower
      exact Memory.writeBytes_inside _ lower
  case elsewhere =>
      intro position outside
      apply Memory.writeBytes_of_outside
      rw [length]
      exact outside
  case position =>
      refine ⟨_, Function.update_self .., ?_⟩
      exact toNat_position state.entry (s.readOffset call state) call.length
  case others =>
      intro other different
      exact Function.update_of_ne different ..
  case reports => exact Function.update_self ..

/-- Once the stream has failed, a read that has bytes to read reports them and copies none. -/
theorem ntReadFile_of_failed (failed : s.image.file.failed = true) (call : ReadCall)
    {state : FileHandleState} (found : s.fileState call.handle = some state)
    (reads : 0 < bytesToRead state.entry (s.readOffset call state) call.length) :
    (s.ntReadFile call).2 =
      ⟨0, bytesToRead state.entry (s.readOffset call state) call.length,
        s.readOffset call state, []⟩ := by
  unfold ntReadFile
  rw [found]
  dsimp only
  rw [if_pos reads, readBytes, DiscFile.transfer, if_pos failed]

theorem not_readDelivers_of_failed (failed : s.image.file.failed = true) (t : ThreadId)
    (call : ReadCall) {state : FileHandleState} (found : s.fileState call.handle = some state)
    (reads : 0 < bytesToRead state.entry (s.readOffset call state) call.length) :
    ¬ ReadDelivers s t call state (s.ntReadFile call).2 after := by
  intro delivers
  have length := delivers.length
  rw [ntReadFile_of_failed failed call found reads, List.length_nil] at length
  have positive : 0 < (bytesToRead state.entry (s.readOffset call state) call.length).toNat :=
    reads
  dsimp only at length
  omega

theorem queryTells (s : FilesState) (call : InformationCall) {state : FileHandleState}
    (found : s.fileState call.handle = some state)
    (asks : call.infoClass = kFilePositionInformation) :
    QueryTells s call state (s.ntQueryInformationFile call).2
      (s.ntQueryInformationFile call).1 := by
  unfold ntQueryInformationFile
  rw [found]
  dsimp only
  rw [if_pos asks]
  exact ⟨rfl, rfl⟩

theorem setMoves (s : FilesState) (call : InformationCall) {state : FileHandleState}
    (found : s.fileState call.handle = some state)
    (sets : call.infoClass = kFilePositionInformation) :
    SetMoves s call state (s.ntSetInformationFile call).2 (s.ntSetInformationFile call).1 := by
  unfold ntSetInformationFile
  rw [found]
  dsimp only
  rw [if_pos sets]
  refine ⟨rfl, Function.update_self .., ?_⟩
  intro other different
  exact Function.update_of_ne different ..

theorem completeRead_mem (s : FilesState) (t : ThreadId) (completion : ReadCompletion) :
    (s.completeRead t completion).mem =
      storeIoStatus s.mem completion.ioStatusBlockPtr
        ⟨completion.status, completion.bytesRead⟩ := by
  unfold completeRead
  dsimp only
  split <;> rfl

theorem EntriesInside.callsMeetSpec (good : s.EntriesInside) (step : FileStep s label after) :
    CallsMeetSpec s after label := by
  cases step with
  | openFile => trivial
  | readFile t call ready => exact fun state found => good.readDelivers t call found
  | completeRead t completion pending =>
      exact ⟨s.completeRead_fileState t completion, completion, pending,
        s.completeRead_mem t completion⟩
  | queryInformation t call ready =>
      exact ⟨(s.ntQueryInformationFile_keeps call).1,
        fun asks state found => s.queryTells call found asks⟩
  | setInformation t call ready => exact fun sets state found => s.setMoves call found sets
  | close => trivial
  | guestStore => rfl

theorem cursors_update (s : FilesState) (handle : Word) (state : FileHandleState) :
    FilesState.cursors { s with fileState := Function.update s.fileState handle (some state) } =
      Function.update s.cursors handle
        (some ⟨fileContents s.image state.entry, state.position.toNat⟩) := by
  funext other
  by_cases same : other = handle
  · subst same
    simp [cursors]
  · simp [cursors, same]

/-- What the cursors are read off. -/
theorem cursors_congr (files : after.fileState = s.fileState) (image : after.image = s.image) :
    after.cursors = s.cursors := by
  unfold cursors
  rw [files, image]

theorem EntriesInside.congr (good : s.EntriesInside) (files : after.fileState = s.fileState)
    (image : after.image = s.image) : after.EntriesInside := by
  constructor
  · rw [image]
    exact good.streaming
  · intro handle state found
    rw [image]
    exact good.inside handle state (by rwa [files] at found)

/-- An entry is kept when its position changes. -/
theorem EntriesInside.update (good : s.EntriesInside) {handle : Word}
    {state : FileHandleState} (found : s.fileState handle = some state) (position : BitVec 64)
    (files : after.fileState =
      Function.update s.fileState handle (some { state with position := position }))
    (image : after.image = s.image) : after.EntriesInside := by
  constructor
  · rw [image]
    exact good.streaming
  · intro other otherState foundOther
    rw [image]
    rw [files] at foundOther
    by_cases same : other = handle
    · subst same
      rw [Function.update_self, Option.some_inj] at foundOther
      subst foundOther
      exact good.inside other state found
    · rw [Function.update_of_ne same] at foundOther
      exact good.inside other otherState foundOther

theorem EntriesInside.follows_readFile (good : s.EntriesInside) (t : ThreadId)
    (call : ReadCall) (completion : Option ReadCompletion) :
    ((s.ntReadFile call).1.setCompletion t completion).EntriesInside ∧
      (cursorSystem Word Byte).Follows cursors fileEvent s
        (.readFile t call (s.ntReadFile call).2)
        ((s.ntReadFile call).1.setCompletion t completion) := by
  unfold Transition.System.Follows
  cases found : s.fileState call.handle with
  | none =>
      rw [(Dead.of_none found).read call rfl]
      exact ⟨good.congr rfl rfl, cursors_congr rfl rfl⟩
  | some state =>
      have inside := good.inside call.handle state found
      rw [good.ntReadFile_eq call found]
      refine ⟨good.update found _ rfl rfl, ?_⟩
      dsimp only [fileEvent]
      rw [if_pos rfl]
      dsimp only
      have cursor : s.cursors call.handle =
          some ⟨fileContents s.image state.entry, state.position.toNat⟩ := by
        simp [cursors, found]
      have implicit : (call.byteOffsetPtr != 0) = false →
          (s.readOffset call state).toNat = state.position.toNat := by
        intro noPointer
        have null : call.byteOffsetPtr = 0 := by simpa using noPointer
        simp [readOffset, null]
      have step := Cursors.Step.read (call.byteOffsetPtr != 0)
        (s.readOffset call state).toNat call.length.toNat cursor implicit
      have moved := cursors_update s call.handle
        { state with position := s.readOffset call state +
          (bytesToRead state.entry (s.readOffset call state) call.length).setWidth 64 }
      dsimp only at step moved
      rw [toNat_position, toNat_bytesToRead, ← length_fileContents inside,
        ← length_slice] at moved
      rw [slice_bytesToRead inside]
      refine Eq.mp ?_ step
      congr 1
      exact moved.symm

theorem EntriesInside.follows_setInformation (good : s.EntriesInside) (t : ThreadId)
    (call : InformationCall) :
    (s.ntSetInformationFile call).1.EntriesInside ∧
      (cursorSystem Word Byte).Follows cursors fileEvent s
        (.setInformation t call (s.ntSetInformationFile call).2)
        (s.ntSetInformationFile call).1 := by
  unfold Transition.System.Follows
  cases found : s.fileState call.handle with
  | none =>
      rw [(Dead.of_none found).set call rfl]
      exact ⟨good.congr rfl rfl, cursors_congr rfl rfl⟩
  | some state =>
      unfold ntSetInformationFile
      rw [found]
      dsimp only
      split
      · refine ⟨good.update found _ rfl rfl, ?_⟩
        have cursor : s.cursors call.handle =
            some ⟨fileContents s.image state.entry, state.position.toNat⟩ := by
          simp [cursors, found]
        have step := Cursors.Step.setPosition (loadU64 s.mem call.fileInformationPtr).toNat cursor
        refine Eq.mp ?_ step
        dsimp only
        congr 1
        exact (cursors_update s call.handle
          { state with position := loadU64 s.mem call.fileInformationPtr }).symm
      · exact ⟨good.congr rfl rfl, cursors_congr rfl rfl⟩

theorem EntriesInside.follows_queryInformation (good : s.EntriesInside) (t : ThreadId)
    (call : InformationCall) :
    (s.ntQueryInformationFile call).1.EntriesInside ∧
      (cursorSystem Word Byte).Follows cursors fileEvent s
        (.queryInformation t call (s.ntQueryInformationFile call).2)
        (s.ntQueryInformationFile call).1 := by
  obtain ⟨files, -, image⟩ := s.ntQueryInformationFile_keeps call
  refine ⟨good.congr files image, ?_⟩
  have kept := cursors_congr files image
  unfold Transition.System.Follows
  rw [kept]
  cases found : s.fileState call.handle with
  | none =>
      rw [(Dead.of_none found).query call rfl]
      rfl
  | some state =>
      unfold ntQueryInformationFile
      rw [found]
      dsimp only
      by_cases asksPosition : call.infoClass = kFilePositionInformation
      · rw [if_pos asksPosition]
        have cursor : s.cursors call.handle =
            some ⟨fileContents s.image state.entry, state.position.toNat⟩ := by
          simp [cursors, found]
        exact Cursors.Step.queryPosition cursor
      · rw [if_neg asksPosition]
        by_cases asksSize : call.infoClass = kFileNetworkOpenInformation
        · rw [if_pos asksSize]
          rfl
        · rw [if_neg asksSize]
          rfl

/-- Every call is followed by the cursors. -/
theorem EntriesInside.follows (good : s.EntriesInside)
    (step : fileCursorSystem.step s label after) :
    after.EntriesInside ∧
      (cursorSystem Word Byte).Follows cursors fileEvent s label after := by
  obtain ⟨step, cursorCall⟩ := step
  cases step with
  | openFile => exact cursorCall.elim
  | readFile t call ready => exact good.follows_readFile t call _
  | completeRead t completion pending =>
      have files := s.completeRead_fileState t completion
      have image := s.completeRead_image t completion
      exact ⟨good.congr files image, cursors_congr files image⟩
  | queryInformation t call ready => exact good.follows_queryInformation t call
  | setInformation t call ready => exact good.follows_setInformation t call
  | close => exact cursorCall.elim
  | guestStore mem => exact ⟨good.congr rfl rfl, cursors_congr rfl rfl⟩

end FilesState

open FilesState

/-- In every run each call does what it should to the file of its handle, the handles move
as independent cursors, a position is the last one set or reached, and reads without
offsets deliver what one read of their whole length would have. -/
theorem fileHandles_areCursors {start final : FilesState} {trace : List FileLabel}
    (good : start.EntriesInside) (run : fileCursorSystem.Run start trace final) :
    (∀ label after, fileCursorSystem.step final label after →
      CallsMeetSpec final after label) ∧
    (cursorSystem Word Byte).Run start.cursors (trace.filterMap fileEvent) final.cursors ∧
    (∀ handle state, start.fileState handle = some state →
      ∃ moved, final.fileState handle = some moved ∧
        moved.position.toNat =
          lastPosition handle state.position.toNat (trace.filterMap fileEvent)) ∧
    (∀ call state, start.fileState call.handle = some state → call.byteOffsetPtr = 0 →
      (∀ event ∈ trace.filterMap fileEvent, event.Sequential call.handle) →
      asked call.handle (trace.filterMap fileEvent) = call.length.toNat →
      delivered call.handle (trace.filterMap fileEvent) = (start.ntReadFile call).2.data) := by
  obtain ⟨goodFinal, cursorRun⟩ :=
    run.refines good fun goodBefore step => goodBefore.follows step
  refine ⟨fun label after step => goodFinal.callsMeetSpec step.1, cursorRun, ?_, ?_⟩
  · intro handle state found
    have moved := cursor_eq_of_run cursorRun handle
    simp only [cursors, found, Option.map_some] at moved
    obtain ⟨movedState, foundFinal, same⟩ := Option.map_eq_some_iff.mp moved
    exact ⟨movedState, foundFinal, congrArg Cursor.position same⟩
  · intro call state found noPointer sequential total
    have cursor : start.cursors call.handle =
        some ⟨fileContents start.image state.entry, state.position.toNat⟩ := by
      simp [cursors, found]
    have offset : start.readOffset call state = state.position := by
      simp [readOffset, noPointer]
    rw [(delivered_eq_slice cursorRun cursor sequential).1, total,
      good.ntReadFile_eq call found]
    dsimp only
    rw [slice_bytesToRead (good.inside call.handle state found), offset]

/-- Four bytes into a buffer, without an offset. -/
def readFour (bufferPtr : Word) : ReadCall := ⟨firstHandle, 0, 0, 0, 0, bufferPtr, 4, 0⟩

def descriptorOpen : FilesState := discMounted.openDiscFile descriptorFile

/-- The first file that is opened is the only one open. -/
theorem openDiscFile_inside (s : FilesState) (fresh : s.fileState = fun _ => none)
    {entry : XdvdfsEntry} (inside : EntryInside s.image entry) {handle : Word}
    {state : FileHandleState} (found : (s.openDiscFile entry).fileState handle = some state) :
    EntryInside s.image state.entry := by
  by_cases same : handle = s.nextHandle
  · subst same
    have opened : (s.openDiscFile entry).fileState s.nextHandle = some ⟨entry, 0⟩ :=
      Function.update_self ..
    obtain rfl : ⟨entry, 0⟩ = state := Option.some.inj (opened.symm.trans found)
    exact inside
  · have unopened : (s.openDiscFile entry).fileState handle = none :=
      (Function.update_of_ne same ..).trans (congrFun fresh handle)
    rw [unopened] at found
    cases found

theorem descriptorOpen_entriesInside : descriptorOpen.EntriesInside := by
  refine ⟨rfl, fun handle state found => openDiscFile_inside discMounted rfl ?_ found⟩
  change 0x20 * kSectorSize + 28 ≤ descriptorBytes.length
  rw [length_descriptorBytes]
  decide

/-- Two threads read four bytes each. -/
theorem fileHandles_areCursors_twoReads :
    descriptorOpen.EntriesInside ∧ ∃ first second final,
      fileCursorSystem.Run descriptorOpen
        [.readFile 0 (readFour 0x40) first, .readFile 1 (readFour 0x80) second] final ∧
      (cursorSystem Word Byte).Run descriptorOpen.cursors
        ([FileLabel.readFile 0 (readFour 0x40) first,
          .readFile 1 (readFour 0x80) second].filterMap fileEvent) final.cursors := by
  have ready : ∀ call completion,
      ((descriptorOpen.ntReadFile call).1.setCompletion 0 completion).completions 1 = none := by
    intro call completion
    unfold ntReadFile
    split <;> rfl
  have firstRead : fileCursorSystem.step descriptorOpen _ _ :=
    ⟨.readFile 0 (readFour 0x40) rfl, trivial⟩
  have both := (Transition.System.Run.single firstRead).tail
    ⟨.readFile 1 (readFour 0x80) (ready _ _), trivial⟩
  exact ⟨descriptorOpen_entriesInside, _, _, _, both,
    (fileHandles_areCursors descriptorOpen_entriesInside both).2.1⟩

/-- The first entry of the root directory, whose table may reach behind the end of the image. -/
theorem resolvePath_firstEntry {image : XdvdfsImage} (streaming : image.file.failed = false)
    {e : DirectoryEntry} {rest : List Byte} (starts : e.offset = 0)
    (begins : image.file.bytes = e.bytes ++ rest) (atMost : e.name.length < 255)
    (sector : image.rootSector = 0) (whole : image.file.bytes.length < image.rootSize.toNat)
    {path name : Name} (split : splitPath path = [name])
    (named : toLower name = toLower e.name) (outEntry : XdvdfsEntry) :
    resolvePath image path outEntry =
      ({ image with file := { image.file with failed := true } }, some (true, e.header.entry)) := by
  have table : DiscFile.read image.file 0 image.rootSize.toNat =
      (image.file.bytes ++ List.replicate (image.rootSize.toNat - image.file.bytes.length) 0,
        { image.file with failed := true }) := by
    unfold DiscFile.read
    rw [streaming, if_neg Bool.false_ne_true, List.drop_zero, List.take_of_length_le whole.le]
    dsimp only
    rw [decide_eq_true whole]
  have spelled : (image.file.bytes ++
      List.replicate (image.rootSize.toNat - image.file.bytes.length) 0).drop e.offset =
        e.bytes ++ (rest ++
          List.replicate (image.rootSize.toNat - image.file.bytes.length) 0) := by
    rw [starts, List.drop_zero, begins, List.append_assoc]
  have first := entryAt_of_spelled spelled atMost.le
  rw [if_neg (show ¬ e.LooksLikePadding from atMost.ne), starts] at first
  have searched : searchDirectory image.file image.rootSector image.rootSize name =
      ({ image.file with failed := true }, some (some e.header.entry)) := by
    have start : image.rootSector.toNat * kSectorSize = 0 := by
      rw [sector]
      rfl
    unfold searchDirectory
    rw [start, table]
    dsimp only
    rw [navigate, first]
    dsimp only
    rw [if_pos named]
  unfold resolvePath
  rw [split]
  dsimp only
  rw [resolveParts, searched]
  rfl

/-- The file `a`, whose 28 bytes are the volume descriptor. -/
def descriptorEntry : DirectoryEntry := ⟨0, 0, 0, 0x20, 28, 0x80, [0x61]⟩

/-- The image of the descriptor's file, with a root directory declared longer than the image. -/
def overlongBytes : List Byte :=
  (descriptorEntry.bytes ++ List.replicate 65521 0) ++
    (kMagic ++ (storedU32 0 ++ (storedU32 70000 ++ [])))

def overlongImage : XdvdfsImage := ⟨⟨overlongBytes, false⟩, 0, 70000⟩

def overlongMounted : FilesState := { discMounted with image := overlongImage }

/-- The search of the directory has failed the stream. -/
def overlongSearched : FilesState :=
  { discMounted with image := ⟨⟨overlongBytes, true⟩, 0, 70000⟩ }

def overlongOpen : FilesState := overlongSearched.openDiscFile descriptorFile

theorem openImage_overlongBytes : openImage overlongBytes = some overlongImage := by
  refine openImage_eq ?_ rfl
  rw [List.length_append, List.length_replicate]
  rfl

theorem length_overlongBytes : overlongBytes.length = kVolumeDescriptorOffset + 28 := by
  unfold overlongBytes
  rw [List.length_append, List.length_append, List.length_replicate]
  rfl

theorem openFile_overlongMounted :
    FileStep overlongMounted (.openFile 0 openDescriptorFile (some (0, firstHandle)))
      overlongOpen := by
  have path : readGuestAnsiString overlongMounted.mem openDescriptorFile.objectAttributesPtr =
      [0x64, 0x3A, 0x5C, 0x61] := by decide
  have begins : overlongImage.file.bytes = descriptorEntry.bytes ++ (List.replicate 65521 0 ++
      (kMagic ++ (storedU32 0 ++ (storedU32 70000 ++ [])))) := List.append_assoc ..
  have longer : overlongImage.file.bytes.length < overlongImage.rootSize.toNat := by
    rw [show overlongImage.file.bytes = overlongBytes from rfl, length_overlongBytes]
    decide
  have split : splitPath [0x61] = [[0x61]] := by decide
  have resolved :
      resolvePath overlongMounted.image ([0x64, 0x3A, 0x5C, 0x61].drop 3) .initial =
        (⟨⟨overlongBytes, true⟩, 0, 70000⟩, some (true, descriptorFile)) :=
    resolvePath_firstEntry rfl rfl begins (by decide) rfl longer split (by decide) .initial
  have opened : overlongMounted.openGuestFile [0x64, 0x3A, 0x5C, 0x61] =
      (overlongOpen, some (0, firstHandle)) := by
    unfold FilesState.openGuestFile
    rw [if_neg (by decide), if_pos (by decide), resolved]
    rfl
  have step := FileStep.openFile (s := overlongMounted) 0 openDescriptorFile rfl
  have result : overlongMounted.ntOpenFile openDescriptorFile =
      (overlongOpen, some (0, firstHandle)) := by
    unfold ntOpenFile
    rw [path, opened]
    rfl
  rw [result] at step
  exact step

/-- On an image whose only file lies inside it the file is opened, and a read reports four
bytes and copies none. -/
theorem overlongDirectory_stopsReads :
    openImage overlongBytes = some overlongImage ∧ overlongMounted.IsBoot ∧
      FileStep overlongMounted (.openFile 0 openDescriptorFile (some (0, firstHandle)))
        overlongOpen ∧
      (∀ handle state, overlongOpen.fileState handle = some state →
        EntryInside overlongOpen.image state.entry) ∧
      ∃ after, fileCursorSystem.step overlongOpen
          (.readFile 0 (readFour 0x40) ⟨0, 4, 0, []⟩) after ∧
        ¬ CallsMeetSpec overlongOpen after (.readFile 0 (readFour 0x40) ⟨0, 4, 0, []⟩) := by
  refine ⟨openImage_overlongBytes, ⟨rfl, rfl, rfl, rfl⟩, openFile_overlongMounted, ?_, ?_⟩
  · refine fun handle state found => openDiscFile_inside overlongSearched rfl ?_ found
    change 0x20 * kSectorSize + 28 ≤ overlongBytes.length
    rw [length_overlongBytes]
    decide
  · have found : overlongOpen.fileState firstHandle = some ⟨descriptorFile, 0⟩ := by decide
    have outcome : (overlongOpen.ntReadFile (readFour 0x40)).2 = ⟨0, 4, 0, []⟩ :=
      ntReadFile_of_failed rfl (readFour 0x40) found (by decide)
    have step := FileStep.readFile (s := overlongOpen) 0 (readFour 0x40) rfl
    rw [outcome] at step
    refine ⟨_, ⟨step, trivial⟩, fun meets => ?_⟩
    apply not_readDelivers_of_failed rfl 0 (readFour 0x40) found (by decide)
    rw [outcome]
    exact meets _ found

end BumpinHost.Kernel
