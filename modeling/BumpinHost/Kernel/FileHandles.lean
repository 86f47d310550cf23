import BumpinHost.Disc.StreamHistory
import BumpinHost.Kernel.Files

/-!
# Files of closed handles

A file operation looks only at `g_fileState`, and closing a handle erases only its
object.  The two maps agree as long as no handle of an open file is closed, and no
device is given such a handle.
-/

namespace BumpinHost.Kernel

open Disc Memory

namespace FilesState

variable (s : FilesState)

/-- Every handle with a file position has a live object for a file. -/
def FilesLive : Prop :=
  ∀ handle state, s.fileState handle = some state →
    ∃ obj, s.handleTable handle = some obj ∧ obj.type = .file

/-- File operations on the handle fail: no byte is reported, and nothing but the status
block changes. -/
structure Dead (handle : Word) : Prop where
  read : ∀ call : ReadCall, call.handle = handle →
    s.ntReadFile call = (s, ⟨kStatusInvalidHandle, 0, 0, []⟩)
  query : ∀ call : InformationCall, call.handle = handle →
    s.ntQueryInformationFile call =
      ({ s with mem := storeIoStatus s.mem call.ioStatusBlockPtr ⟨kStatusInvalidHandle, 0⟩ },
        ⟨⟨kStatusInvalidHandle, 0⟩, none⟩)
  set : ∀ call : InformationCall, call.handle = handle →
    s.ntSetInformationFile call =
      ({ s with mem := storeIoStatus s.mem call.ioStatusBlockPtr ⟨kStatusInvalidHandle, 0⟩ },
        ⟨⟨kStatusInvalidHandle, 0⟩, none⟩)

/-- The path that a call opens. -/
def openedPath (call : OpenCall) : Name := readGuestAnsiString s.mem call.objectAttributesPtr

def OpensDevice (call : OpenCall) : Prop :=
  devicePrefix.isPrefixOf (toLower (s.openedPath call)) = true

end FilesState

/-- The step closes no open file and gives no device the handle of one. -/
def KeepsFilesLive (s : FilesState) : FileLabel → Prop
  | .openFile _ call _ => s.OpensDevice call → s.fileState s.nextHandle = none
  | .close _ handle => s.fileState handle = none
  | _ => True

/-- Closed, and not returned by an open since. -/
def ClosedIn (trace : List FileLabel) (handle : Word) : Prop :=
  ∃ past t future, trace = past ++ .close t handle :: future ∧
    ∀ u call, .openFile u call (some (0, handle)) ∉ future

namespace FilesState

variable {s after : FilesState} {label : FileLabel}

theorem Dead.of_none {handle : Word} (closed : s.fileState handle = none) : s.Dead handle := by
  constructor
  · rintro call rfl
    unfold ntReadFile
    rw [closed]
  · rintro call rfl
    unfold ntQueryInformationFile
    rw [closed]
    rfl
  · rintro call rfl
    unfold ntSetInformationFile
    rw [closed]
    rfl

theorem openGuestFile_cases (s : FilesState) (path : Name) :
    (devicePrefix.isPrefixOf (toLower path) = true ∧
      s.openGuestFile path = (s.openDevice, some (0, s.nextHandle))) ∨
    (¬ devicePrefix.isPrefixOf (toLower path) = true ∧ ∃ image entry,
      s.openGuestFile path =
        ({ s with image := image }.openDiscFile entry, some (0, s.nextHandle))) ∨
    (¬ devicePrefix.isPrefixOf (toLower path) = true ∧ ∃ image result,
      s.openGuestFile path = ({ s with image := image }, result) ∧
        ∀ handle, result ≠ some (0, handle)) := by
  unfold openGuestFile
  dsimp only
  split
  case isTrue device => exact .inl ⟨device, rfl⟩
  case isFalse device =>
      right
      split
      · split
        · exact .inr ⟨device, _, _, rfl, by simp⟩
        · exact .inl ⟨device, _, _, rfl⟩
        · exact .inr ⟨device, _, _, rfl, by simp [kStatusObjectNameNotFound]⟩
      · exact .inr ⟨device, s.image, _, rfl, by simp [kStatusNoSuchDevice]⟩

/-- Beyond what is opened, an open changes only memory. -/
theorem ntOpenFile_of_openGuestFile {call : OpenCall} {opened : FilesState}
    {result : Option (Word × Word)} (s : FilesState)
    (opens : s.openGuestFile (s.openedPath call) = (opened, result)) :
    (s.ntOpenFile call).2 = result ∧
      (s.ntOpenFile call).1.handleTable = opened.handleTable ∧
      (s.ntOpenFile call).1.fileState = opened.fileState := by
  unfold openedPath at opens
  unfold ntOpenFile
  rw [opens]
  cases result <;> exact ⟨rfl, rfl, rfl⟩

/-- An open adds a device, adds a file, or adds nothing. -/
theorem ntOpenFile_cases (s : FilesState) (call : OpenCall) :
    (s.OpensDevice call ∧ (s.ntOpenFile call).2 = some (0, s.nextHandle) ∧
      (s.ntOpenFile call).1.handleTable = s.openDevice.handleTable ∧
      (s.ntOpenFile call).1.fileState = s.fileState) ∨
    (¬ s.OpensDevice call ∧ (s.ntOpenFile call).2 = some (0, s.nextHandle) ∧
      ∃ entry, (s.ntOpenFile call).1.handleTable = (s.openDiscFile entry).handleTable ∧
        (s.ntOpenFile call).1.fileState = (s.openDiscFile entry).fileState) ∨
    (¬ s.OpensDevice call ∧ (∀ handle, (s.ntOpenFile call).2 ≠ some (0, handle)) ∧
      (s.ntOpenFile call).1.handleTable = s.handleTable ∧
      (s.ntOpenFile call).1.fileState = s.fileState) := by
  rcases s.openGuestFile_cases (s.openedPath call) with
    ⟨device, opens⟩ | ⟨noDevice, image, entry, opens⟩ | ⟨noDevice, image, result, opens, failed⟩
  · obtain ⟨returned, objects, files⟩ := ntOpenFile_of_openGuestFile s opens
    exact .inl ⟨device, returned, objects, files⟩
  · obtain ⟨returned, objects, files⟩ := ntOpenFile_of_openGuestFile s opens
    exact .inr (.inl ⟨noDevice, returned, entry, objects, files⟩)
  · obtain ⟨returned, objects, files⟩ := ntOpenFile_of_openGuestFile s opens
    refine .inr (.inr ⟨noDevice, ?_, objects, files⟩)
    rw [returned]
    exact failed

/-- Signaling keeps every object's type. -/
theorem exists_file_signal_iff (table : HandleTable) (signaled handle : Word) :
    (∃ obj, table.signal signaled handle = some obj ∧ obj.type = .file) ↔
      ∃ obj, table handle = some obj ∧ obj.type = .file := by
  by_cases same : handle = signaled
  · subst same
    unfold HandleTable.signal
    cases found : table handle with
    | none => simp [found]
    | some obj => simp [HandleTable.insert_same]
  · rw [HandleTable.signal_of_ne _ _ same]

/-- Only positions of handles that have one already change. -/
theorem ntReadFile_isSome (s : FilesState) (call : ReadCall) (handle : Word) :
    ((s.ntReadFile call).1.fileState handle).isSome = (s.fileState handle).isSome := by
  unfold ntReadFile
  split
  · rfl
  · rename_i state found
    by_cases same : handle = call.handle
    · subst same
      simp [found]
    · simp [Function.update_of_ne same]

theorem ntSetInformationFile_isSome (s : FilesState) (call : InformationCall) (handle : Word) :
    ((s.ntSetInformationFile call).1.fileState handle).isSome =
      (s.fileState handle).isSome := by
  unfold ntSetInformationFile
  split
  · rfl
  · rename_i state found
    split
    · by_cases same : handle = call.handle
      · subst same
        simp [finishIo, found]
      · simp [finishIo, Function.update_of_ne same]
    · rfl

/-- What keeps the handles with a position, and the types of their objects, keeps the
agreement of the two maps. -/
theorem filesLive_congr {first second : FilesState}
    (positions : ∀ handle,
      (second.fileState handle).isSome = (first.fileState handle).isSome)
    (objects : ∀ handle,
      (∃ obj, second.handleTable handle = some obj ∧ obj.type = .file) ↔
        ∃ obj, first.handleTable handle = some obj ∧ obj.type = .file) :
    second.FilesLive ↔ first.FilesLive := by
  have transfer : ∀ {left right : FilesState},
      (∀ handle, (right.fileState handle).isSome = (left.fileState handle).isSome) →
      (∀ handle, (∃ obj, right.handleTable handle = some obj ∧ obj.type = .file) ↔
        ∃ obj, left.handleTable handle = some obj ∧ obj.type = .file) →
      left.FilesLive → right.FilesLive := by
    intro left right samePositions sameObjects live handle state found
    have isSome := samePositions handle
    rw [found, Option.isSome_some, eq_comm, Option.isSome_iff_exists] at isSome
    obtain ⟨earlier, foundEarlier⟩ := isSome
    exact (sameObjects handle).mpr (live handle earlier foundEarlier)
  constructor
  · exact transfer (fun handle => (positions handle).symm) (fun handle => (objects handle).symm)
  · exact transfer positions objects

theorem filesLive_openDevice_iff (live : s.FilesLive)
    (objects : after.handleTable = s.openDevice.handleTable)
    (files : after.fileState = s.fileState) :
    after.FilesLive ↔ s.fileState s.nextHandle = none := by
  have inserted : after.handleTable s.nextHandle = some ⟨.generic, true, false⟩ := by
    rw [objects]
    exact HandleTable.insert_same ..
  constructor
  · intro liveAfter
    cases found : s.fileState s.nextHandle with
    | none => rfl
    | some state =>
        obtain ⟨obj, foundObj, isFile⟩ := liveAfter s.nextHandle state (by rw [files, found])
        rw [inserted, Option.some_inj] at foundObj
        subst foundObj
        cases isFile
  · intro unused handle state found
    rw [files] at found
    have different : handle ≠ s.nextHandle := by
      rintro rfl
      rw [unused] at found
      cases found
    rw [objects]
    obtain ⟨obj, foundObj, isFile⟩ := live handle state found
    exact ⟨obj, (HandleTable.insert_of_ne _ _ _ different).trans foundObj, isFile⟩

theorem filesLive_openDiscFile (live : s.FilesLive) {entry : XdvdfsEntry}
    (objects : after.handleTable = (s.openDiscFile entry).handleTable)
    (files : after.fileState = (s.openDiscFile entry).fileState) : after.FilesLive := by
  intro handle state found
  rw [objects]
  by_cases same : handle = s.nextHandle
  · subst same
    exact ⟨_, HandleTable.insert_same .., rfl⟩
  · have foundBefore : s.fileState handle = some state := by
      rw [files] at found
      exact (Function.update_of_ne same ..).symm.trans found
    obtain ⟨obj, foundObj, isFile⟩ := live handle state foundBefore
    exact ⟨obj, (HandleTable.insert_of_ne _ _ _ same).trans foundObj, isFile⟩

theorem filesLive_ntClose_iff (live : s.FilesLive) (handle : Word) :
    (s.ntClose handle).FilesLive ↔ s.fileState handle = none := by
  constructor
  · intro liveAfter
    cases found : s.fileState handle with
    | none => rfl
    | some state =>
        obtain ⟨obj, foundObj, -⟩ := liveAfter handle state found
        exact absurd foundObj (by simp [ntClose, HandleTable.erase_same])
  · intro unused other state found
    have different : other ≠ handle := by
      rintro rfl
      exact absurd (found.symm.trans unused) (by simp)
    obtain ⟨obj, foundObj, isFile⟩ := live other state found
    exact ⟨obj, (HandleTable.erase_of_ne _ _ different).trans foundObj, isFile⟩

/-- The maps still agree after a step exactly when it meets the condition. -/
theorem filesLive_step_iff (live : s.FilesLive) (step : FileStep s label after) :
    after.FilesLive ↔ KeepsFilesLive s label := by
  cases step with
  | openFile t call ready =>
      rcases s.ntOpenFile_cases call with
        ⟨device, -, objects, files⟩ | ⟨noDevice, -, entry, objects, files⟩ |
          ⟨noDevice, -, objects, files⟩
      · rw [filesLive_openDevice_iff live objects files]
        exact ⟨fun unused _ => unused, fun unused => unused device⟩
      · exact iff_of_true (filesLive_openDiscFile live objects files)
          fun device => absurd device noDevice
      · refine iff_of_true ?_ fun device => absurd device noDevice
        intro handle state found
        rw [objects]
        exact live handle state (by rwa [files] at found)
  | readFile t call ready =>
      refine iff_of_true ((filesLive_congr ?_ ?_).mpr live) trivial
      · exact s.ntReadFile_isSome call
      · intro handle
        rw [setCompletion_handleTable, ntReadFile_handleTable]
  | completeRead t completion pending =>
      refine iff_of_true ((filesLive_congr ?_ ?_).mpr live) trivial
      · intro handle
        rw [completeRead_fileState]
      · intro handle
        rcases s.completeRead_handleTable t completion with kept | signaled
        · rw [kept]
        · rw [signaled]
          exact exists_file_signal_iff ..
  | queryInformation t call ready =>
      obtain ⟨files, objects, -⟩ := s.ntQueryInformationFile_keeps call
      refine iff_of_true ((filesLive_congr ?_ ?_).mpr live) trivial
      · intro handle
        rw [files]
      · intro handle
        rw [objects]
  | setInformation t call ready =>
      obtain ⟨objects, -⟩ := s.ntSetInformationFile_keeps call
      refine iff_of_true ((filesLive_congr ?_ ?_).mpr live) trivial
      · exact s.ntSetInformationFile_isSome call
      · intro handle
        rw [objects]
  | close t handle ready => exact filesLive_ntClose_iff live handle
  | guestStore mem => exact iff_of_true live trivial

theorem FilesLive.of_history {trace : List FileLabel}
    (history : ((filesSystem IsBoot).restrict KeepsFilesLive).History trace s) :
    s.FilesLive := by
  apply history.invariant fun _ state => state.FilesLive
  · rintro start ⟨-, noFiles, -⟩ handle state found
    rw [noFiles] at found
    cases found
  · intro past before label after _ live step
    exact (filesLive_step_iff live step.1).mpr step.2

theorem closedIn_snoc {trace : List FileLabel} {handle : Word}
    (closed : ClosedIn (trace ++ [label]) handle) :
    (∃ t, label = .close t handle) ∨
      (ClosedIn trace handle ∧ ∀ u call, label ≠ .openFile u call (some (0, handle))) := by
  obtain ⟨past, t, future, split, unopened⟩ := closed
  rcases List.eq_nil_or_concat future with rfl | ⟨rest, last, rfl⟩
  · obtain ⟨-, labelEq⟩ := List.append_inj' split rfl
    exact .inl ⟨t, by simpa using labelEq⟩
  · rw [List.concat_eq_append, ← List.cons_append, ← List.append_assoc] at split
    obtain ⟨traceEq, labelEq⟩ := List.append_inj' split rfl
    obtain rfl : label = last := by simpa using labelEq
    simp only [List.concat_eq_append, List.mem_append, List.mem_singleton, not_or] at unopened
    exact .inr ⟨⟨past, t, rest, traceEq, fun u call => (unopened u call).1⟩,
      fun u call => Ne.symm (unopened u call).2⟩

theorem signal_eq_none {table : HandleTable} {handle : Word} (signaled : Word)
    (none : table handle = none) : table.signal signaled handle = Option.none := by
  by_cases same : handle = signaled
  · subst same
    unfold HandleTable.signal
    rw [none]
    exact none
  · rw [HandleTable.signal_of_ne _ _ same, none]

/-- A handle without an object gets one only by being returned from an open. -/
theorem handleTable_eq_none_step {handle : Word} (none : s.handleTable handle = none)
    (step : FileStep s label after)
    (unopened : ∀ u call, label ≠ .openFile u call (some (0, handle))) :
    after.handleTable handle = Option.none := by
  cases step with
  | openFile t call ready =>
      have different : (s.ntOpenFile call).2 = some (0, s.nextHandle) →
          handle ≠ s.nextHandle := by
        rintro returned rfl
        exact unopened t call (by rw [returned])
      rcases s.ntOpenFile_cases call with
        ⟨-, returned, objects, -⟩ | ⟨-, returned, entry, objects, -⟩ | ⟨-, -, objects, -⟩
      · rw [objects]
        exact (HandleTable.insert_of_ne _ _ _ (different returned)).trans none
      · rw [objects]
        exact (HandleTable.insert_of_ne _ _ _ (different returned)).trans none
      · rw [objects, none]
  | readFile t call ready => rw [setCompletion_handleTable, ntReadFile_handleTable, none]
  | completeRead t completion pending =>
      rcases s.completeRead_handleTable t completion with kept | signaled
      · rw [kept, none]
      · rw [signaled]
        exact signal_eq_none _ none
  | queryInformation t call ready => rw [(s.ntQueryInformationFile_keeps call).2.1, none]
  | setInformation t call ready => rw [(s.ntSetInformationFile_keeps call).1, none]
  | close t other ready =>
      by_cases same : handle = other
      · subst same
        exact HandleTable.erase_same ..
      · exact (HandleTable.erase_of_ne _ _ same).trans none
  | guestStore mem => exact none

theorem ClosedIn.handleTable_eq_none {init : FilesState → Prop} {trace : List FileLabel}
    (history : (filesSystem init).History trace s) {handle : Word}
    (closed : ClosedIn trace handle) : s.handleTable handle = none := by
  revert closed
  apply history.invariant fun trace s => ClosedIn trace handle → s.handleTable handle = none
  · rintro start - ⟨past, t, future, split, -⟩
    simp at split
  · intro past before label after _ none step closed
    rcases closedIn_snoc closed with ⟨t, rfl⟩ | ⟨earlier, unopened⟩
    · cases step
      exact HandleTable.erase_same ..
    · exact handleTable_eq_none_step (none earlier) step unopened

end FilesState

open FilesState

/-- In a run that closes no open file the maps agree, and every closed handle is dead to
the file operations; a step that does not meet the condition breaks the agreement. -/
theorem closedFiles_dead {trace : List FileLabel} {s : FilesState}
    (history : ((filesSystem IsBoot).restrict KeepsFilesLive).History trace s) :
    s.FilesLive ∧ (∀ handle, ClosedIn trace handle → s.Dead handle) ∧
      ∀ label after, FileStep s label after →
        (after.FilesLive ↔ KeepsFilesLive s label) := by
  have live := FilesLive.of_history history
  refine ⟨live, ?_, fun label after step => filesLive_step_iff live step⟩
  intro handle closed
  have noObject := ClosedIn.handleTable_eq_none history.of_restrict closed
  apply Dead.of_none
  cases found : s.fileState handle with
  | none => rfl
  | some state =>
      obtain ⟨obj, foundObj, -⟩ := live handle state found
      rw [noObject] at foundObj
      cases foundObj

/-- Nothing is open; the name `d:\a` lies in guest memory. -/
def discMounted : FilesState where
  mem position :=
    ([0, 0, 0, 0, 0, 0, 0, 8, 0, 4, 0, 0, 0, 0, 0, 16, 0x64, 0x3A, 0x5C, 0x61] :
      List Byte).getD position 0
  image := descriptorImage
  handleTable _ := none
  nextHandle := firstHandle
  fileState _ := none
  apcQueues _ := []
  self _ := 0
  completions _ := none

theorem discMounted_isBoot : discMounted.IsBoot := ⟨rfl, rfl, rfl, rfl⟩

def openDescriptorFile : OpenCall := ⟨0, 0, none⟩

theorem ntOpenFile_discMounted :
    discMounted.ntOpenFile openDescriptorFile =
      (discMounted.openDiscFile descriptorFile, some (0, firstHandle)) := by
  have path : readGuestAnsiString discMounted.mem openDescriptorFile.objectAttributesPtr =
      [0x64, 0x3A, 0x5C, 0x61] := by decide
  have opened : discMounted.openGuestFile [0x64, 0x3A, 0x5C, 0x61] =
      (discMounted.openDiscFile descriptorFile, some (0, firstHandle)) := by
    have resolved : resolvePath discMounted.image ([0x64, 0x3A, 0x5C, 0x61].drop 3) .initial =
        (descriptorImage, some (true, descriptorFile)) := resolvePath_descriptorImage
    unfold FilesState.openGuestFile
    rw [if_neg (by decide), if_pos (by decide), resolved]
    rfl
  unfold ntOpenFile
  rw [path, opened]
  rfl

theorem openFile_discMounted :
    FileStep discMounted (.openFile 0 openDescriptorFile (some (0, firstHandle)))
      (discMounted.openDiscFile descriptorFile) := by
  have step := FileStep.openFile (s := discMounted) 0 openDescriptorFile rfl
  rw [ntOpenFile_discMounted] at step
  exact step

/-- An open file, and a second handle number that is closed without having been open. -/
theorem closedFiles_dead_otherHandle :
    ∃ trace s, ((filesSystem IsBoot).restrict KeepsFilesLive).History trace s ∧
      ClosedIn trace 0x2000 ∧ s.FilesLive ∧ s.Dead 0x2000 := by
  have first : ((filesSystem IsBoot).restrict KeepsFilesLive).step discMounted
      (.openFile 0 openDescriptorFile (some (0, firstHandle)))
      (discMounted.openDiscFile descriptorFile) :=
    ⟨openFile_discMounted, fun _ => rfl⟩
  have second : ((filesSystem IsBoot).restrict KeepsFilesLive).step
      (discMounted.openDiscFile descriptorFile) (.close 0 0x2000)
      ((discMounted.openDiscFile descriptorFile).ntClose 0x2000) :=
    ⟨.close 0 0x2000 rfl,
      show (discMounted.openDiscFile descriptorFile).fileState 0x2000 = none by decide⟩
  have history : ((filesSystem IsBoot).restrict KeepsFilesLive).History _ _ :=
    ⟨discMounted, discMounted_isBoot, .tail (.single first) second⟩
  have closed : ClosedIn [.openFile 0 openDescriptorFile (some (0, firstHandle)),
      .close 0 0x2000] 0x2000 :=
    ⟨[.openFile 0 openDescriptorFile (some (0, firstHandle))], 0, [], rfl, by simp⟩
  obtain ⟨live, dead, -⟩ := closedFiles_dead history
  exact ⟨_, _, history, closed, live, dead _ closed⟩

/-- After `NtClose` the position of the file can still be asked for. -/
theorem ntClose_keepsFile :
    ∃ trace s, (filesSystem IsBoot).History trace s ∧ ClosedIn trace firstHandle ∧
      ¬ s.FilesLive ∧ ¬ s.Dead firstHandle := by
  have second : FileStep (discMounted.openDiscFile descriptorFile) (.close 0 firstHandle)
      ((discMounted.openDiscFile descriptorFile).ntClose firstHandle) :=
    .close 0 firstHandle rfl
  have found : ((discMounted.openDiscFile descriptorFile).ntClose firstHandle).fileState
      firstHandle = some ⟨descriptorFile, 0⟩ := by decide
  refine ⟨_, _, ⟨discMounted, discMounted_isBoot, (Transition.System.Run.refl.tail
    openFile_discMounted).tail second⟩, ?_, ?_, ?_⟩
  · exact ⟨[.openFile 0 openDescriptorFile (some (0, firstHandle))], 0, [], rfl, by simp⟩
  · intro live
    obtain ⟨obj, foundObj, -⟩ := live firstHandle _ found
    have erased : ((discMounted.openDiscFile descriptorFile).ntClose firstHandle).handleTable
        firstHandle = none :=
      (discMounted.openDiscFile descriptorFile).handleTable.erase_same firstHandle
    rw [erased] at foundObj
    cases foundObj
  · intro dead
    have queried := congrArg Prod.snd
      (dead.query ⟨firstHandle, 0, 0x40, kFilePositionInformation⟩ rfl)
    unfold ntQueryInformationFile at queried
    rw [found] at queried
    exact absurd queried (by decide)

end BumpinHost.Kernel
