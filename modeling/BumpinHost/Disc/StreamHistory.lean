import BumpinHost.Disc.Lookup
import BumpinHost.Library.StickyFailure

/-!
# Reading the disc after other reads

All calls share one stream.  A read that meets the end of the file, or whose offset
is below zero, leaves the stream failed, and then no later read transfers a byte.
-/

namespace BumpinHost.Disc

open StickyFailure

inductive DiscCall
  | resolvePath (path : Name) (outEntry : XdvdfsEntry)
  | readBytes (entry : XdvdfsEntry) (offsetInFile : BitVec 64) (length : Word)
deriving DecidableEq, Repr

inductive DiscAnswer
  | resolved (result : Option (Bool × XdvdfsEntry))
  | transferred (bytes : List Byte)
deriving DecidableEq, Repr

/-- One call, and the image whose stream it leaves behind. -/
def discCall (image : XdvdfsImage) : DiscCall → XdvdfsImage × DiscAnswer
  | .resolvePath path outEntry =>
      ((resolvePath image path outEntry).1, .resolved (resolvePath image path outEntry).2)
  | .readBytes entry offsetInFile length =>
      ((readBytes image entry offsetInFile length).1,
        .transferred (readBytes image entry offsetInFile length).2)

def afterDiscCalls (image : XdvdfsImage) (calls : List DiscCall) : XdvdfsImage :=
  calls.foldl (fun image call => (discCall image call).1) image

/-- Each call of a sequence is answered as it would be as the first call. -/
def DiscHistoryFree (image : XdvdfsImage) (calls : List DiscCall) : Prop :=
  ∀ past call, past ++ [call] <+: calls →
    (discCall (afterDiscCalls image past) call).2 = (discCall image call).2

/-- Some of the bytes lie behind the end of the file. -/
def ReadsPast (bytes : List Byte) (position count : Nat) : Prop :=
  0 < count ∧ bytes.length < position + count

instance (bytes : List Byte) (position count : Nat) :
    Decidable (ReadsPast bytes position count) :=
  inferInstanceAs (Decidable (_ ∧ _))

/-- A directory table on the way along some parts lies partly behind the end of the
file. -/
def TableReadsPast (bytes : List Byte) (tableSector tableSize : Word) (part : Name) :
    List Name → Prop
  | [] => ReadsPast bytes (tableSector.toNat * kSectorSize) tableSize.toNat
  | next :: parts =>
      ReadsPast bytes (tableSector.toNat * kSectorSize) tableSize.toNat ∨
        ∃ current,
          (searchDirectory ⟨bytes, false⟩ tableSector tableSize part).2 = some (some current) ∧
            current.isDirectory = true ∧
            TableReadsPast bytes current.startSector current.fileSize next parts

/-- Where `ReadBytes` seeks to. -/
def readPosition (entry : XdvdfsEntry) (offsetInFile : BitVec 64) : BitVec 64 :=
  entry.startSector.setWidth 64 * BitVec.ofNat 64 kSectorSize + offsetInFile

/-- The call seeks below zero or reads past the end of the image. -/
def MeetsEnd (image : XdvdfsImage) : DiscCall → Prop
  | .resolvePath path _ =>
      match splitPath path with
      | [] => False
      | part :: parts =>
          TableReadsPast image.file.bytes image.rootSector image.rootSize part parts
  | .readBytes entry offsetInFile length =>
      (readPosition entry offsetInFile).msb = true ∨
        ReadsPast image.file.bytes (readPosition entry offsetInFile).toNat length.toNat

/-- What a search of a table gives when no byte of it was read: nothing, unless the table
is so long that the offset of its scan wraps around. -/
def searchNothing (tableSize : Word) : Option (Option XdvdfsEntry) :=
  if tableSize < 0xFFFFFFFE then some none else none

/-- What a call gives when it reads no byte at all. -/
def emptyAnswer (image : XdvdfsImage) : DiscCall → DiscAnswer
  | .resolvePath path outEntry =>
      .resolved <| if (splitPath path).isEmpty then some (false, outEntry)
        else (searchNothing image.rootSize).map fun _ => (false, outEntry)
  | .readBytes _ _ _ => .transferred []

/-- The call finds no entry on the image, or copies no byte of it. -/
def GivesNothing (image : XdvdfsImage) (call : DiscCall) : Prop :=
  emptyAnswer image call = (discCall image call).2

theorem read_streaming (bytes : List Byte) (position count : Nat) :
    (DiscFile.read ⟨bytes, false⟩ position count).2 =
      ⟨bytes, decide (ReadsPast bytes position count)⟩ := by
  unfold DiscFile.read
  rw [if_neg Bool.false_ne_true]
  dsimp only
  congr 1
  apply decide_eq_decide.mpr
  rw [List.length_take, List.length_drop]
  unfold ReadsPast
  omega

theorem transfer_streaming (bytes : List Byte) (position : BitVec 64) (count : Nat) :
    ∃ failed, (DiscFile.transfer ⟨bytes, false⟩ position count).2 = ⟨bytes, failed⟩ ∧
      (failed = true ↔ position.msb = true ∨ ReadsPast bytes position.toNat count) := by
  unfold DiscFile.transfer
  rw [if_neg Bool.false_ne_true]
  by_cases below : position.msb = true
  · rw [if_pos below]
    exact ⟨true, rfl, iff_of_true rfl (.inl below)⟩
  · rw [if_neg below]
    refine ⟨_, rfl, ?_⟩
    rw [decide_eq_true_iff, List.length_take, List.length_drop]
    simp only [below, Bool.false_eq_true, false_or, ReadsPast]
    omega

/-- A good stream transfers what lies at the position. -/
theorem transfer_bytes (bytes : List Byte) {position : BitVec 64}
    (seeks : ¬ position.msb = true) (count : Nat) :
    (DiscFile.transfer ⟨bytes, false⟩ position count).1 =
      (bytes.drop position.toNat).take count := by
  unfold DiscFile.transfer
  rw [if_neg Bool.false_ne_true, if_neg seeks]

theorem read_failed (bytes : List Byte) (position count : Nat) :
    DiscFile.read ⟨bytes, true⟩ position count =
      (List.replicate count 0, ⟨bytes, true⟩) := rfl

theorem searchDirectory_file (file : DiscFile) (tableSector tableSize : Word) (name : Name) :
    (searchDirectory file tableSector tableSize name).1 =
      (file.read (tableSector.toNat * kSectorSize) tableSize.toNat).2 := by
  unfold searchDirectory
  dsimp only
  split <;> rfl

/-- A table of zeros has entries without a name. -/
theorem entryAt_zeros (count position : Nat) :
    entryAt (List.replicate count 0) position =
      if position + 14 ≤ count then some (⟨0, 0, 0, 0, 0, 0⟩, []) else none := by
  have zeros : ∀ index, (List.replicate count (0 : Byte)).getD index 0 = 0 := by
    intro index
    rw [List.getD_eq_getElem?_getD, List.getElem?_replicate]
    split <;> rfl
  have header : readHeader (List.replicate count 0) position = ⟨0, 0, 0, 0, 0, 0⟩ := by
    unfold readHeader tableU16 tableU32
    simp only [zeros]
    rfl
  unfold entryAt
  rw [List.length_replicate, header]
  by_cases inside : position + 14 ≤ count
  · rw [if_neg (by omega), if_pos inside]
    dsimp only
    rw [if_neg (by decide), if_neg (by simp only [BitVec.ofNat_eq_ofNat, BitVec.toNat_ofNat]; omega)]
    rfl
  · rw [if_pos (by omega), if_neg inside]

theorem navigate_zeros {targetLower : Name} (named : targetLower ≠ []) (count : Nat)
    (name : Name) (rounds : Nat) :
    navigate (List.replicate count 0) name targetLower (rounds + 1) 0 = some none := by
  unfold navigate
  rw [entryAt_zeros]
  by_cases inside : 0 + 14 ≤ count
  · rw [if_pos inside]
    dsimp only
    rw [if_neg (by simpa [toLower] using named), if_neg (List.not_lt_nil name),
      if_pos (.inr rfl)]
  · rw [if_neg inside]

/-- The scan of a table of zeros goes on in steps of sixteen. -/
theorem scanLinear_zeros_of_lt {targetLower : Name} (named : targetLower ≠ []) {count : Nat}
    (short : count < 0xFFFFFFFE) {rounds step : Nat} (enough : count < 16 * step + 16 * rounds) :
    scanLinear (List.replicate count 0) targetLower (rounds + 1) (16 * step) = some none := by
  induction rounds generalizing step with
  | zero =>
      unfold scanLinear
      rw [entryAt_zeros, if_neg (by omega)]
  | succ rounds ih =>
      unfold scanLinear
      rw [entryAt_zeros]
      by_cases inside : 16 * step + 14 ≤ count
      · rw [if_pos inside]
        dsimp only
        rw [if_neg (by simpa [toLower] using named)]
        have next : nextOffset (16 * step) 0 = 16 * (step + 1) := by
          unfold nextOffset
          simp only [BitVec.toNat_zero, BitVec.ofNat_eq_ofNat]
          omega
        rw [next]
        exact ih (by omega)
      · rw [if_neg inside]

/-- Behind the last offset the scan starts over, and never ends. -/
theorem scanLinear_zeros_of_ge {targetLower : Name} (named : targetLower ≠ []) {count : Nat}
    (long : 0xFFFFFFFE ≤ count) (rounds : Nat) {step : Nat} (inside : 16 * step < 2 ^ 32) :
    scanLinear (List.replicate count 0) targetLower rounds (16 * step) = none := by
  induction rounds generalizing step with
  | zero => rfl
  | succ rounds ih =>
      unfold scanLinear
      rw [entryAt_zeros, if_pos (by omega)]
      dsimp only
      rw [if_neg (by simpa [toLower] using named)]
      have next : nextOffset (16 * step) 0 = 16 * ((step + 1) % 2 ^ 28) := by
        unfold nextOffset
        simp only [BitVec.toNat_zero, BitVec.ofNat_eq_ofNat]
        omega
      rw [next]
      exact ih (by omega)

theorem searchNothing_cases (tableSize : Word) :
    searchNothing tableSize = some none ∨ searchNothing tableSize = none := by
  unfold searchNothing
  split
  · exact .inl rfl
  · exact .inr rfl

theorem scanLinear_zeros {targetLower : Name} (named : targetLower ≠ []) (tableSize : Word) :
    scanLinear (List.replicate tableSize.toNat 0) targetLower (tableSize.toNat + 1) 0 =
      searchNothing tableSize := by
  unfold searchNothing
  by_cases short : tableSize < 0xFFFFFFFE
  · have shorter : tableSize.toNat < 0xFFFFFFFE := short
    have enough : tableSize.toNat < 16 * 0 + 16 * tableSize.toNat ∨ tableSize.toNat = 0 := by
      omega
    rw [if_pos short]
    rcases enough with enough | zero
    · exact scanLinear_zeros_of_lt named shorter enough
    · rw [zero]
      unfold scanLinear
      rw [entryAt_zeros, if_neg (by omega)]
  · have longer : 0xFFFFFFFE ≤ tableSize.toNat := Nat.le_of_not_lt short
    rw [if_neg short]
    have first : 16 * 0 < 2 ^ 32 := by decide
    exact scanLinear_zeros_of_ge named longer (tableSize.toNat + 1) first

theorem searchDirectory_failed {part : Name} (named : part ≠ []) (bytes : List Byte)
    (tableSector tableSize : Word) :
    searchDirectory ⟨bytes, true⟩ tableSector tableSize part =
      (⟨bytes, true⟩, searchNothing tableSize) := by
  have lowered : toLower part ≠ [] := by simpa [toLower] using named
  unfold searchDirectory
  rw [read_failed]
  dsimp only
  rw [navigate_zeros lowered, scanLinear_zeros lowered]

theorem resolveParts_failed {part : Name} (named : part ≠ []) (parts : List Name)
    (bytes : List Byte) (tableSector tableSize : Word) :
    resolveParts ⟨bytes, true⟩ tableSector tableSize part parts =
      (⟨bytes, true⟩, searchNothing tableSize) := by
  have searched := searchDirectory_failed named bytes tableSector tableSize
  cases parts with
  | nil => rw [resolveParts, searched]
  | cons next parts =>
      rw [resolveParts, searched]
      rcases searchNothing_cases tableSize with nothing | endless
      · rw [nothing]
      · rw [endless]

/-- The stream fails exactly when a table on the way reaches past the end. -/
theorem resolveParts_file_eq (bytes : List Byte) (parts : List Name) {part : Name}
    (named : ∀ other ∈ part :: parts, other ≠ []) (tableSector tableSize : Word) :
    ∃ failed, (resolveParts ⟨bytes, false⟩ tableSector tableSize part parts).1 =
        ⟨bytes, failed⟩ ∧
      (failed = true ↔ TableReadsPast bytes tableSector tableSize part parts) := by
  induction parts generalizing part tableSector tableSize with
  | nil =>
      refine ⟨_, (searchDirectory_file ..).trans (read_streaming ..), ?_⟩
      exact decide_eq_true_iff
  | cons next parts ih =>
      have rest : ∀ other ∈ next :: parts, other ≠ [] :=
        fun other member => named other (List.mem_cons_of_mem _ member)
      have file : (searchDirectory ⟨bytes, false⟩ tableSector tableSize part).1 =
          ⟨bytes, decide (ReadsPast bytes (tableSector.toNat * kSectorSize)
            tableSize.toNat)⟩ :=
        (searchDirectory_file ..).trans (read_streaming ..)
      unfold resolveParts TableReadsPast
      cases searched : searchDirectory ⟨bytes, false⟩ tableSector tableSize part with
      | mk searchedFile found =>
          rw [searched] at file
          dsimp only at file
          subst file
          by_cases past : ReadsPast bytes (tableSector.toNat * kSectorSize) tableSize.toNat
          · -- the stream stays failed, whatever is searched next
            refine ⟨true, ?_, iff_of_true rfl (.inl past)⟩
            rw [decide_eq_true past]
            rcases found with _ | _ | current
            · rfl
            · rfl
            · dsimp only
              rw [resolveParts_failed (rest next List.mem_cons_self)]
              split <;> rfl
          · rw [decide_eq_false past]
            rcases found with _ | _ | current
            · exact ⟨false, rfl, by simp [past]⟩
            · exact ⟨false, rfl, by simp [past]⟩
            · dsimp only
              by_cases directory : current.isDirectory = true
              · obtain ⟨failed, failedFile, failedIff⟩ :=
                  ih rest current.startSector current.fileSize
                refine ⟨failed, ?_, ?_⟩
                · rw [if_neg (not_not.mpr directory), failedFile]
                · simp [past, directory, failedIff]
              · refine ⟨false, ?_, ?_⟩
                · rw [if_pos directory]
                · simp [past, directory]

theorem splitPath_named {path part : Name} {parts : List Name}
    (split : splitPath path = part :: parts) : ∀ other ∈ part :: parts, other ≠ [] := by
  intro other member
  rw [← split] at member
  exact (isPart_of_splitPath path other member).1

namespace XdvdfsImage

variable (image : XdvdfsImage)

def withFailed (failed : Bool) : XdvdfsImage :=
  { image with file := { image.file with failed := failed } }

/-- The image's stream, as what one call does to it and answers. -/
def device : Device DiscCall DiscAnswer where
  fails call := (discCall (image.withFailed false) call).1.file.failed
  working call := (discCall (image.withFailed false) call).2
  failed call := emptyAnswer image call

/-- A call on a failed stream. -/
theorem discCall_failed (call : DiscCall) :
    discCall (image.withFailed true) call = (image.withFailed true, emptyAnswer image call) := by
  cases call with
  | readBytes entry offsetInFile length => rfl
  | resolvePath path outEntry =>
      unfold discCall resolvePath emptyAnswer
      dsimp only
      cases split : splitPath path with
      | nil => rfl
      | cons part parts =>
          have named := splitPath_named split part List.mem_cons_self
          simp only [withFailed, resolveParts_failed named, List.isEmpty_cons,
            Bool.false_eq_true, if_false]
          rcases searchNothing_cases image.rootSize with nothing | endless
          · rw [nothing]
            rfl
          · rw [endless]
            rfl

/-- A call on a good stream fails it exactly when it meets the end. -/
theorem discCall_streaming (call : DiscCall) :
    ∃ failed, (discCall (image.withFailed false) call).1 = image.withFailed failed ∧
      (failed = true ↔ MeetsEnd image call) := by
  cases call with
  | readBytes entry offsetInFile length =>
      obtain ⟨failed, file, failedIff⟩ := transfer_streaming image.file.bytes
        (readPosition entry offsetInFile) length.toNat
      refine ⟨failed, ?_, failedIff⟩
      change ({ image with file := (DiscFile.transfer ⟨image.file.bytes, false⟩
        (readPosition entry offsetInFile) length.toNat).2 } : XdvdfsImage) = _
      rw [file]
      rfl
  | resolvePath path outEntry =>
      unfold discCall resolvePath MeetsEnd
      dsimp only
      cases split : splitPath path with
      | nil => exact ⟨false, rfl, by simp⟩
      | cons part parts =>
          obtain ⟨failed, file, failedIff⟩ :=
            resolveParts_file_eq image.file.bytes parts (splitPath_named split)
              image.rootSector image.rootSize
          refine ⟨failed, ?_, failedIff⟩
          change ({ image with file :=
            (resolveParts ⟨image.file.bytes, false⟩ image.rootSector image.rootSize part
              parts).1 } : XdvdfsImage) = _
          rw [file]
          rfl

theorem device_fails_iff (call : DiscCall) :
    image.device.fails call = true ↔ MeetsEnd image call := by
  obtain ⟨failed, after, failedIff⟩ := image.discCall_streaming call
  change (discCall (image.withFailed false) call).1.file.failed = true ↔ _
  rw [after]
  exact failedIff

/-- The image is its device, with the failure in the stream. -/
theorem discCall_withFailed (hasFailed : Bool) (call : DiscCall) :
    discCall (image.withFailed hasFailed) call =
      (image.withFailed (image.device.next hasFailed call),
        image.device.answer hasFailed call) := by
  cases hasFailed with
  | true => exact image.discCall_failed call
  | false =>
      obtain ⟨failed, after, failedIff⟩ := image.discCall_streaming call
      have fails : image.device.fails call = failed := by
        change (discCall (image.withFailed false) call).1.file.failed = failed
        rw [after]
        rfl
      apply Prod.ext
      · rw [after, Device.next, fails, Bool.false_or]
      · rfl

theorem afterDiscCalls_withFailed (hasFailed : Bool) (calls : List DiscCall) :
    afterDiscCalls (image.withFailed hasFailed) calls =
      image.withFailed (image.device.afterCalls hasFailed calls) := by
  induction calls generalizing hasFailed with
  | nil => rfl
  | cons call calls ih =>
      change afterDiscCalls (discCall (image.withFailed hasFailed) call).1 calls = _
      rw [discCall_withFailed, ih]
      rfl

/-- For an image whose stream is good. -/
theorem discHistoryFree_streaming_iff (calls : List DiscCall)
    (streaming : image.file.failed = false) :
    DiscHistoryFree image calls ↔
      ∀ past call, past ++ [call] <+: calls →
        (∃ earlier ∈ past, MeetsEnd image earlier) → GivesNothing image call := by
  have fresh : image = image.withFailed false := by
    obtain ⟨⟨bytes, failed⟩, rootSector, rootSize⟩ := image
    cases streaming
    rfl
  have free : DiscHistoryFree image calls ↔ image.device.HistoryFree false calls := by
    unfold DiscHistoryFree Device.HistoryFree
    apply forall_congr'
    intro past
    apply forall_congr'
    intro call
    apply imp_congr_right
    intro _
    conv_lhs => rw [fresh]
    rw [afterDiscCalls_withFailed, discCall_withFailed, discCall_withFailed]
  rw [free, Device.historyFree_iff]
  simp only [Bool.false_eq_true, false_or, device_fails_iff]
  unfold GivesNothing
  conv_rhs => rw [fresh]
  rfl

/-- For an image whose stream has failed already. -/
theorem discHistoryFree_failed (calls : List DiscCall) (failed : image.file.failed = true) :
    DiscHistoryFree image calls := by
  have broken : image = image.withFailed true := by
    obtain ⟨⟨bytes, failed⟩, rootSector, rootSize⟩ := image
    cases failed
    rfl
  intro past call _
  rw [broken, afterDiscCalls_withFailed, Device.afterCalls_eq, Bool.true_or]

end XdvdfsImage

/-- The last byte of the magic is not zero, so an image that opens holds all of it. -/
theorem not_readsPast_of_magic {bytes : List Byte}
    (magic : (DiscFile.read ⟨bytes, false⟩ kVolumeDescriptorOffset 20).1 = kMagic) :
    ¬ ReadsPast bytes kVolumeDescriptorOffset 20 := by
  rintro ⟨-, past⟩
  have lastByte := congrArg (fun read => read.getD 19 0) magic
  have short : ((bytes.drop kVolumeDescriptorOffset).take 20).length ≤ 19 := by
    rw [List.length_take, List.length_drop]
    omega
  have padded : (DiscFile.read ⟨bytes, false⟩ kVolumeDescriptorOffset 20).1.getD 19 0 = 0 := by
    unfold DiscFile.read
    rw [if_neg Bool.false_ne_true]
    dsimp only
    rw [List.getD_eq_getElem?_getD, List.getElem?_append_right short,
      List.getElem?_replicate]
    split <;> rfl
  rw [padded] at lastByte
  exact absurd lastByte (by decide)

/-- Opening fails the stream of an image that ends inside the volume descriptor. -/
theorem openImage_file {bytes : List Byte} {image : XdvdfsImage}
    (opened : openImage bytes = some image) :
    image.file.bytes = bytes ∧
      (image.file.failed = true ↔ bytes.length < kVolumeDescriptorOffset + 28) := by
  unfold openImage at opened
  cases magicRead : DiscFile.read ⟨bytes, false⟩ kVolumeDescriptorOffset 20 with
  | mk magic magicFile =>
      rw [magicRead] at opened
      dsimp only at opened
      split at opened
      case isTrue => cases opened
      case isFalse isMagic =>
          have whole : ¬ ReadsPast bytes kVolumeDescriptorOffset 20 := by
            apply not_readsPast_of_magic
            rw [magicRead]
            exact not_not.mp isMagic
          have file := read_streaming bytes kVolumeDescriptorOffset 20
          rw [magicRead, decide_eq_false whole] at file
          dsimp only at file
          subst file
          simp only [Option.some.injEq] at opened
          subst opened
          dsimp only
          have sectorFile := read_streaming bytes (kVolumeDescriptorOffset + 20) 4
          rw [sectorFile]
          by_cases past : ReadsPast bytes (kVolumeDescriptorOffset + 20) 4
          · rw [decide_eq_true past, read_failed]
            exact ⟨rfl, iff_of_true rfl (by unfold ReadsPast at past; omega)⟩
          · rw [decide_eq_false past, read_streaming]
            refine ⟨rfl, ?_⟩
            rw [decide_eq_true_iff]
            unfold ReadsPast at past ⊢
            omega

/-- Each call is answered as if it were the first exactly when opening has failed the
stream already, or no call that would give something comes after one that meets the end. -/
theorem discHistoryFree_iff {bytes : List Byte} {image : XdvdfsImage}
    (opened : openImage bytes = some image) (calls : List DiscCall) :
    DiscHistoryFree image calls ↔
      bytes.length < kVolumeDescriptorOffset + 28 ∨
        ∀ past call, past ++ [call] <+: calls →
          (∃ earlier ∈ past, MeetsEnd image earlier) → GivesNothing image call := by
  obtain ⟨-, failedIff⟩ := openImage_file opened
  cases failed : image.file.failed with
  | true =>
      exact iff_of_true (image.discHistoryFree_failed calls failed)
        (.inl (failedIff.mp failed))
  | false =>
      have long : ¬ bytes.length < kVolumeDescriptorOffset + 28 := by
        rw [← failedIff, failed]
        exact Bool.false_ne_true
      rw [image.discHistoryFree_streaming_iff calls failed]
      simp only [long, false_or]

/-- A directory with the one entry `a`, whose 28 bytes are the volume descriptor. -/
def descriptorTable : List Byte :=
  [0, 0, 0, 0, 0x20, 0, 0, 0, 28, 0, 0, 0, 0x80, 1, 0x61, 0xFF]

def descriptorFile : XdvdfsEntry := ⟨0x20, 28, false⟩

/-- The table at the start of the image, and the descriptor at its end. -/
def descriptorBytes : List Byte :=
  (descriptorTable ++ List.replicate 65520 0) ++
    (kMagic ++ (storedU32 0 ++ (storedU32 16 ++ [])))

def descriptorImage : XdvdfsImage := ⟨⟨descriptorBytes, false⟩, 0, 16⟩

theorem openImage_descriptorBytes : openImage descriptorBytes = some descriptorImage := by
  refine openImage_eq ?_ rfl
  rw [List.length_append, List.length_replicate]
  rfl

theorem length_descriptorBytes : descriptorBytes.length = kVolumeDescriptorOffset + 28 := by
  unfold descriptorBytes
  rw [List.length_append, List.length_append, List.length_replicate]
  rfl

theorem drop_descriptorBytes (offset : Nat) :
    descriptorBytes.drop (kVolumeDescriptorOffset + offset) =
      (kMagic ++ (storedU32 0 ++ (storedU32 16 ++ []))).drop offset := by
  unfold descriptorBytes
  rw [← List.drop_drop, List.drop_left']
  rw [List.length_append, List.length_replicate]
  rfl

/-- A file in the root directory, whose table is at the start of the image. -/
theorem resolvePath_rootTable {image : XdvdfsImage} (streaming : image.file.failed = false)
    {table rest : List Byte} (begins : image.file.bytes = table ++ rest)
    (sector : image.rootSector = 0) (size : image.rootSize.toNat = table.length)
    {path name : Name} (split : splitPath path = [name]) {entry : XdvdfsEntry}
    (found : navigate table name (toLower name) (table.length + 1) 0 = some (some entry))
    (outEntry : XdvdfsEntry) :
    resolvePath image path outEntry = (image, some (true, entry)) := by
  have inside : 0 + table.length ≤ image.file.bytes.length := by
    rw [begins, List.length_append]
    omega
  have read : DiscFile.read image.file 0 table.length = (table, image.file) := by
    rw [DiscFile.read_inside streaming inside, List.drop_zero]
    nth_rewrite 1 [begins]
    rw [List.take_left]
  have searched : searchDirectory image.file image.rootSector image.rootSize name =
      (image.file, some (some entry)) := by
    have start : image.rootSector.toNat * kSectorSize = 0 := by
      rw [sector]
      rfl
    unfold searchDirectory
    rw [start, size, read]
    dsimp only
    rw [found]
  unfold resolvePath
  rw [split]
  dsimp only
  rw [resolveParts, searched]
  rfl

theorem resolvePath_descriptorImage :
    resolvePath descriptorImage [0x61] .initial = (descriptorImage, some (true, descriptorFile)) := by
  have begins : descriptorImage.file.bytes = descriptorTable ++ (List.replicate 65520 0 ++
      (kMagic ++ (storedU32 0 ++ (storedU32 16 ++ [])))) := List.append_assoc ..
  have split : splitPath [0x61] = [[0x61]] := by decide
  have found : navigate descriptorTable [0x61] (toLower [0x61]) (descriptorTable.length + 1) 0 =
      some (some descriptorFile) := by decide
  exact resolvePath_rootTable rfl begins rfl rfl split found .initial

theorem readPosition_descriptorFile (offset : BitVec 64) (small : offset < 64) :
    ¬ (readPosition descriptorFile offset).msb = true ∧
      (readPosition descriptorFile offset).toNat = kVolumeDescriptorOffset + offset.toNat := by
  have position : readPosition descriptorFile offset = 0x10000 + offset := by
    unfold readPosition descriptorFile kSectorSize
    rfl
  have bound : offset.toNat < 64 := small
  have value : (readPosition descriptorFile offset).toNat =
      kVolumeDescriptorOffset + offset.toNat := by
    rw [position, BitVec.toNat_add]
    simp only [BitVec.ofNat_eq_ofNat, BitVec.toNat_ofNat, kVolumeDescriptorOffset]
    omega
  refine ⟨?_, value⟩
  rw [BitVec.msb_eq_decide, decide_eq_true_iff, value, kVolumeDescriptorOffset]
  omega

theorem meetsEnd_descriptorFile_iff (offset : BitVec 64) (small : offset < 64) (length : Word) :
    MeetsEnd descriptorImage (.readBytes descriptorFile offset length) ↔
      0 < length.toNat ∧ 28 < offset.toNat + length.toNat := by
  obtain ⟨seeks, position⟩ := readPosition_descriptorFile offset small
  unfold MeetsEnd ReadsPast
  have whole : descriptorImage.file.bytes.length = kVolumeDescriptorOffset + 28 :=
    length_descriptorBytes
  dsimp only
  rw [or_iff_right seeks, position, whole]
  omega

/-- Two reads inside the image. -/
theorem discHistoryFree_iff_inside :
    openImage descriptorBytes = some descriptorImage ∧
      DiscHistoryFree descriptorImage
        [.readBytes descriptorFile 0 28, .readBytes descriptorFile 4 8] := by
  refine ⟨openImage_descriptorBytes, ?_⟩
  apply (discHistoryFree_iff openImage_descriptorBytes _).mpr
  right
  intro past call isPrefix
  rintro ⟨earlier, member, meetsEnd⟩
  exfalso
  have listed : earlier ∈ [DiscCall.readBytes descriptorFile 0 28,
      .readBytes descriptorFile 4 8] :=
    isPrefix.subset (List.mem_append_left _ member)
  rcases List.mem_pair.mp listed with rfl | rfl
  · rw [meetsEnd_descriptorFile_iff 0 (by decide)] at meetsEnd
    exact absurd meetsEnd (by decide)
  · rw [meetsEnd_descriptorFile_iff 4 (by decide)] at meetsEnd
    exact absurd meetsEnd (by decide)

/-- A read of 29 bytes of the file is one byte short, and the read after it gets none. -/
theorem shortRead_stopsReads :
    openImage descriptorBytes = some descriptorImage ∧
      ¬ DiscHistoryFree descriptorImage
        [.readBytes descriptorFile 0 29, .readBytes descriptorFile 0 4] := by
  refine ⟨openImage_descriptorBytes, ?_⟩
  intro free
  have nothing := (descriptorImage.discHistoryFree_streaming_iff _ rfl).mp free
    [.readBytes descriptorFile 0 29] _ List.prefix_rfl
    ⟨_, List.mem_singleton_self _, (meetsEnd_descriptorFile_iff 0 (by decide) 29).mpr
      (by decide)⟩
  obtain ⟨seeks, position⟩ := readPosition_descriptorFile 0 (by decide)
  have transferred : [] = (descriptorBytes.drop (kVolumeDescriptorOffset + 0)).take 4 := by
    have copied := transfer_bytes descriptorBytes seeks 4
    rw [position] at copied
    exact (DiscAnswer.transferred.inj nothing).trans copied
  rw [drop_descriptorBytes] at transferred
  exact absurd transferred (by decide)

end BumpinHost.Disc
