import BumpinHost.Disc.Xdvdfs
import BumpinHost.Kernel.Threads

/-!
# File handles

An open file has an entry in two maps: its object in `g_handleTable`, and the disc
entry and position in `g_fileState`.  A read does its transfer and moves the
position in one critical section; the status block, the completion's procedure
call and the event follow once the lock is released.
-/

namespace BumpinHost.Kernel

open Disc Memory

def kStatusNoSuchDevice : Word := 0xC000000E
def kStatusInvalidHandle : Word := 0xC0000008
def kStatusObjectNameNotFound : Word := 0xC0000034

def kFilePositionInformation : Word := 0xE
def kFileNetworkOpenInformation : Word := 0x22

structure FileHandleState where
  entry : XdvdfsEntry
  position : BitVec 64
deriving DecidableEq, Repr

/-- What is left of a read when its critical section is over. -/
structure ReadCompletion where
  status : Word
  bytesRead : Word
  ioStatusBlockPtr : Word
  apcRoutine : Word
  apcContext : Word
  eventHandle : Word
deriving DecidableEq, Repr

structure FilesState where
  mem : Memory
  image : XdvdfsImage
  handleTable : HandleTable
  nextHandle : Word
  fileState : Word → Option FileHandleState
  apcQueues : ApcQueues
  /-- `g_currentThreadHandle` of each thread. -/
  self : ThreadId → Word
  completions : ThreadId → Option ReadCompletion

/-- `NtCreateFile`, which also fills a status block, or `NtOpenFile`. -/
structure OpenCall where
  handleOutPtr : Word
  objectAttributesPtr : Word
  ioStatusBlockPtr : Option Word
deriving DecidableEq, Repr

structure ReadCall where
  handle : Word
  eventHandle : Word
  apcRoutine : Word
  apcContext : Word
  ioStatusBlockPtr : Word
  bufferPtr : Word
  length : Word
  byteOffsetPtr : Word
deriving DecidableEq, Repr

/-- `NtQueryInformationFile` and `NtSetInformationFile`. -/
structure InformationCall where
  handle : Word
  ioStatusBlockPtr : Word
  fileInformationPtr : Word
  infoClass : Word
deriving DecidableEq, Repr

/-- What a read did: the offset it used, the bytes it copied, and what it reports. -/
structure ReadOutcome where
  status : Word
  bytesRead : Word
  offset : BitVec 64
  data : List Byte
deriving DecidableEq, Repr

/-- What goes to a status block. -/
structure IoStatus where
  status : Word
  information : Word
deriving DecidableEq, Repr

/-- What a call reports, and the position that it handed to the guest or took from it. -/
structure InformationOutcome where
  ioStatus : IoStatus
  position : Option (BitVec 64)
deriving DecidableEq, Repr

/-- Fill a status block, if there is one. -/
def storeIoStatus (mem : Memory) (ioStatusBlockPtr : Word) (ioStatus : IoStatus) : Memory :=
  if ioStatusBlockPtr ≠ 0 then
    (mem.storeU32 ioStatusBlockPtr ioStatus.status).storeU32 (ioStatusBlockPtr + 4)
      ioStatus.information
  else mem

def readGuestAnsiString (mem : Memory) (objectAttributesPtr : Word) : Name :=
  let objectNamePtr := loadU32 mem (objectAttributesPtr + 4)
  let nameLength := loadU16 mem objectNamePtr.toNat
  let nameBufferPtr := loadU32 mem (objectNamePtr + 4)
  (List.range nameLength.toNat).map fun i => mem (nameBufferPtr + BitVec.ofNat 32 i).toNat

/-- `\device\` -/
def devicePrefix : Name := [0x5C, 0x64, 0x65, 0x76, 0x69, 0x63, 0x65, 0x5C]

/-- `d:\` and `d:/` -/
def discPrefixes : List Name := [[0x64, 0x3A, 0x5C], [0x64, 0x3A, 0x2F]]

namespace FilesState

variable (s : FilesState)

/-- A new handle for a device. -/
def openDevice : FilesState :=
  { s with
    handleTable := s.handleTable.insert s.nextHandle (createdObject .openDevice)
    nextHandle := s.nextHandle + 1 }

/-- A new handle for a file of the disc. -/
def openDiscFile (entry : XdvdfsEntry) : FilesState :=
  { s with
    handleTable := s.handleTable.insert s.nextHandle (createdObject .openDiscFile)
    nextHandle := s.nextHandle + 1
    fileState := Function.update s.fileState s.nextHandle (some ⟨entry, 0⟩) }

/-- The status, and the handle if there is one.  No result when the path search never
ends; the reads it made have changed the image's stream. -/
def openGuestFile (path : Name) : FilesState × Option (Word × Word) :=
  let lowerPath := toLower path
  if devicePrefix.isPrefixOf lowerPath then
    (s.openDevice, some (0, s.nextHandle))
  else if discPrefixes.any fun disc => disc.isPrefixOf lowerPath then
    let (image, resolved) := resolvePath s.image (path.drop 3) .initial
    match resolved with
    | none => ({ s with image := image }, none)
    | some (true, entry) =>
        ({ s with image := image }.openDiscFile entry, some (0, s.nextHandle))
    | some (false, _) => ({ s with image := image }, some (kStatusObjectNameNotFound, 0))
  else
    (s, some (kStatusNoSuchDevice, 0))

/-- `NtCreateFile` and `NtOpenFile`. -/
def ntOpenFile (call : OpenCall) : FilesState × Option (Word × Word) :=
  let (opened, result) := s.openGuestFile (readGuestAnsiString s.mem call.objectAttributesPtr)
  match result with
  | none => (opened, none)
  | some (status, handle) =>
      let mem := if call.handleOutPtr ≠ 0 then
        opened.mem.storeU32 call.handleOutPtr (if status = 0 then handle else 0) else opened.mem
      let mem := match call.ioStatusBlockPtr with
        | some ioStatusBlockPtr =>
            storeIoStatus mem ioStatusBlockPtr ⟨status, if status = 0 then 1 else 0⟩
        | none => mem
      ({ opened with mem := mem }, some (status, handle))

/-- Bytes between an offset and the end of the file, at most `length`. -/
def bytesToRead (entry : XdvdfsEntry) (offset : BitVec 64) (length : Word) : Word :=
  if offset < entry.fileSize.setWidth 64 then
    let remaining := entry.fileSize.setWidth 64 - offset
    (if remaining < length.setWidth 64 then remaining else length.setWidth 64).setWidth 32
  else 0

/-- The offset that a read asks for: an explicit one, or the position. -/
def readOffset (call : ReadCall) (state : FileHandleState) : BitVec 64 :=
  if call.byteOffsetPtr ≠ 0 then loadU64 s.mem call.byteOffsetPtr else state.position

/-- The critical section of `NtReadFile`. -/
def ntReadFile (call : ReadCall) : FilesState × ReadOutcome :=
  match s.fileState call.handle with
  | none => (s, ⟨kStatusInvalidHandle, 0, 0, []⟩)
  | some state =>
      let offset := s.readOffset call state
      let count := bytesToRead state.entry offset call.length
      let (image, data) :=
        if 0 < count then readBytes s.image state.entry offset count else (s.image, [])
      ({ s with
        mem := s.mem.writeBytes call.bufferPtr.toNat data
        image := image
        fileState := Function.update s.fileState call.handle
          (some { state with position := offset + count.setWidth 64 }) },
        ⟨0, count, offset, data⟩)

def setCompletion (t : ThreadId) (completion : Option ReadCompletion) : FilesState :=
  { s with completions := Function.update s.completions t completion }

/-- What a read leaves to be done. -/
def readCompletion (call : ReadCall) (outcome : ReadOutcome) : ReadCompletion :=
  ⟨outcome.status, outcome.bytesRead, call.ioStatusBlockPtr, call.apcRoutine, call.apcContext,
    call.eventHandle⟩

/-- The rest of `NtReadFile`: a read of an unknown handle only fills the status block. -/
def completeRead (t : ThreadId) (completion : ReadCompletion) : FilesState :=
  let mem := storeIoStatus s.mem completion.ioStatusBlockPtr
    ⟨completion.status, completion.bytesRead⟩
  if completion.status ≠ 0 then { s with mem := mem }.setCompletion t none
  else
    let realApcRoutine := completion.apcRoutine &&& ~~~1
    let apcQueues :=
      if realApcRoutine ≠ 0 ∧ completion.apcContext ≠ 0 then
        Function.update s.apcQueues (s.self t) (s.apcQueues (s.self t) ++
          [⟨realApcRoutine, completion.apcContext, completion.ioStatusBlockPtr, 0⟩])
      else s.apcQueues
    let handleTable :=
      if completion.eventHandle ≠ 0 then s.handleTable.signal completion.eventHandle
      else s.handleTable
    { s with
      mem := mem, apcQueues := apcQueues, handleTable := handleTable }.setCompletion t none

/-- The 56 bytes of `FileNetworkOpenInformation`: no times, the size twice, and the
archive attribute. -/
def storeNetworkOpenInformation (mem : Memory) (fileInformationPtr fileSize : Word) : Memory :=
  ((((((mem.storeU64 fileInformationPtr 0).storeU64 (fileInformationPtr + 8) 0).storeU64
    (fileInformationPtr + 16) 0).storeU64 (fileInformationPtr + 24) 0).storeU64
    (fileInformationPtr + 32) (fileSize.setWidth 64)).storeU64
    (fileInformationPtr + 40) (fileSize.setWidth 64)).storeU32 (fileInformationPtr + 48) 0x20

/-- Fill the status block and return. -/
def finishIo (call : InformationCall) (ioStatus : IoStatus) (position : Option (BitVec 64)) :
    FilesState × InformationOutcome :=
  ({ s with mem := storeIoStatus s.mem call.ioStatusBlockPtr ioStatus }, ⟨ioStatus, position⟩)

def ntQueryInformationFile (call : InformationCall) : FilesState × InformationOutcome :=
  match s.fileState call.handle with
  | none => s.finishIo call ⟨kStatusInvalidHandle, 0⟩ none
  | some state =>
      if call.infoClass = kFilePositionInformation then
        { s with mem := s.mem.storeU64 call.fileInformationPtr state.position }.finishIo call
          ⟨0, 8⟩ (some state.position)
      else if call.infoClass = kFileNetworkOpenInformation then
        { s with
          mem := storeNetworkOpenInformation s.mem call.fileInformationPtr
            state.entry.fileSize }.finishIo call ⟨0, 56⟩ none
      else s.finishIo call ⟨kStatusNoSuchDevice, 0⟩ none

def ntSetInformationFile (call : InformationCall) : FilesState × InformationOutcome :=
  match s.fileState call.handle with
  | none => s.finishIo call ⟨kStatusInvalidHandle, 0⟩ none
  | some state =>
      if call.infoClass = kFilePositionInformation then
        let position := loadU64 s.mem call.fileInformationPtr
        { s with
          fileState := Function.update s.fileState call.handle
            (some { state with position := position }) }.finishIo call ⟨0, 0⟩ (some position)
      else s.finishIo call ⟨kStatusNoSuchDevice, 0⟩ none

def ntClose (handle : Word) : FilesState :=
  { s with handleTable := s.handleTable.erase handle }

end FilesState

inductive FileLabel
  | openFile (t : ThreadId) (call : OpenCall) (result : Option (Word × Word))
  | readFile (t : ThreadId) (call : ReadCall) (outcome : ReadOutcome)
  | completeRead (t : ThreadId)
  | queryInformation (t : ThreadId) (call : InformationCall) (outcome : InformationOutcome)
  | setInformation (t : ThreadId) (call : InformationCall) (outcome : InformationOutcome)
  | close (t : ThreadId) (handle : Word)
  /-- Guest code changes its memory. -/
  | guestStore
deriving DecidableEq, Repr

/-- A step of a thread that is not in a read, the end of its read, or a change of guest
memory. -/
inductive FileStep (s : FilesState) : FileLabel → FilesState → Prop
  | openFile (t : ThreadId) (call : OpenCall) :
      s.completions t = none →
      FileStep s (.openFile t call (s.ntOpenFile call).2) (s.ntOpenFile call).1
  | readFile (t : ThreadId) (call : ReadCall) :
      s.completions t = none →
      FileStep s (.readFile t call (s.ntReadFile call).2)
        ((s.ntReadFile call).1.setCompletion t
          (some (FilesState.readCompletion call (s.ntReadFile call).2)))
  | completeRead (t : ThreadId) (completion : ReadCompletion) :
      s.completions t = some completion →
      FileStep s (.completeRead t) (s.completeRead t completion)
  | queryInformation (t : ThreadId) (call : InformationCall) :
      s.completions t = none →
      FileStep s (.queryInformation t call (s.ntQueryInformationFile call).2)
        (s.ntQueryInformationFile call).1
  | setInformation (t : ThreadId) (call : InformationCall) :
      s.completions t = none →
      FileStep s (.setInformation t call (s.ntSetInformationFile call).2)
        (s.ntSetInformationFile call).1
  | close (t : ThreadId) (handle : Word) :
      s.completions t = none →
      FileStep s (.close t handle) (s.ntClose handle)
  | guestStore (mem : Memory) : FileStep s .guestStore { s with mem := mem }

/-- Before anything has been opened, on some image. -/
def FilesState.IsBoot (s : FilesState) : Prop :=
  s.handleTable = (fun _ => none) ∧ s.fileState = (fun _ => none) ∧
    s.nextHandle = firstHandle ∧ s.completions = fun _ => none

def filesSystem (init : FilesState → Prop) : Transition.System FilesState FileLabel where
  init := init
  step := FileStep

namespace FilesState

variable (s : FilesState)

@[simp]
theorem setCompletion_handleTable (t : ThreadId) (completion : Option ReadCompletion) :
    (s.setCompletion t completion).handleTable = s.handleTable := rfl

@[simp]
theorem completeRead_fileState (t : ThreadId) (completion : ReadCompletion) :
    (s.completeRead t completion).fileState = s.fileState := by
  unfold completeRead
  dsimp only
  split <;> rfl

@[simp]
theorem completeRead_image (t : ThreadId) (completion : ReadCompletion) :
    (s.completeRead t completion).image = s.image := by
  unfold completeRead
  dsimp only
  split <;> rfl

/-- A completion at most signals an object of the table. -/
theorem completeRead_handleTable (t : ThreadId) (completion : ReadCompletion) :
    (s.completeRead t completion).handleTable = s.handleTable ∨
      (s.completeRead t completion).handleTable =
        s.handleTable.signal completion.eventHandle := by
  unfold completeRead
  dsimp only
  split
  · exact .inl rfl
  · simp only [setCompletion_handleTable]
    split
    · exact .inr rfl
    · exact .inl rfl

theorem ntQueryInformationFile_keeps (call : InformationCall) :
    (s.ntQueryInformationFile call).1.fileState = s.fileState ∧
      (s.ntQueryInformationFile call).1.handleTable = s.handleTable ∧
      (s.ntQueryInformationFile call).1.image = s.image := by
  unfold ntQueryInformationFile
  split
  · exact ⟨rfl, rfl, rfl⟩
  · split
    · exact ⟨rfl, rfl, rfl⟩
    · split <;> exact ⟨rfl, rfl, rfl⟩

theorem ntSetInformationFile_keeps (call : InformationCall) :
    (s.ntSetInformationFile call).1.handleTable = s.handleTable ∧
      (s.ntSetInformationFile call).1.image = s.image := by
  unfold ntSetInformationFile
  split
  · exact ⟨rfl, rfl⟩
  · split <;> exact ⟨rfl, rfl⟩

@[simp]
theorem ntReadFile_handleTable (call : ReadCall) :
    (s.ntReadFile call).1.handleTable = s.handleTable := by
  unfold ntReadFile
  split <;> rfl

end FilesState

end BumpinHost.Kernel
