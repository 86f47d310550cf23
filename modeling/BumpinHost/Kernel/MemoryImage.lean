import BumpinHost.Kernel.FunctionTable
import BumpinHost.Library.Patches

/-!
# The memory image that the title starts from

`SetupMemoryImage` copies the sections of the executable into zeroed guest memory, stores the
pointers of the recompiled functions behind the image, and then the words that the console
would have left there before the title's entry point runs.  Every step is a patch over the
ones before it.
-/

namespace BumpinHost.Kernel

open Memory Patches

/-- A section as the executable's headers give it. -/
structure ImageSection where
  name : String
  /-- Where the section goes, from the base of guest memory. -/
  base : BitVec 64
  size : Word
  /-- `section.data - image.data.get()`. -/
  offset : BitVec 64
deriving DecidableEq, Repr

/-- A parsed executable.  The headers have 32-bit fields, so no section's end wraps; it may lie
behind the end of the allocation. -/
structure XexImage where
  data : List Byte
  sections : List ImageSection
  length_lt : data.length < 2 ^ 64
  ends_lt : ∀ sect ∈ sections, sect.offset.toNat + sect.size.toNat < 2 ^ 64

namespace ImageSection

variable (sect : ImageSection) (image : XexImage)

/-- The test that skips a section. -/
def exceedsAllocation : Prop :=
  sect.offset + sect.size.setWidth 64 > BitVec.ofNat 64 image.data.length

instance : Decidable (sect.exceedsAllocation image) :=
  inferInstanceAs (Decidable (_ > _))

/-- The bytes that `memcpy` reads. -/
def bytes : List Byte :=
  (image.data.drop sect.offset.toNat).take sect.size.toNat

/-- One pass of the loop over the sections. -/
def copy (mem : Memory) : Memory :=
  if sect.exceedsAllocation image then mem
  else writeBytes mem sect.base.toNat (sect.bytes image)

/-- The positions that a section is declared to fill. -/
def Fills (position : Nat) : Prop :=
  sect.base.toNat ≤ position ∧ position < sect.base.toNat + sect.size.toNat

instance (position : Nat) : Decidable (sect.Fills position) :=
  inferInstanceAs (Decidable (_ ∧ _))

/-- The section is copied, and over this position. -/
def CopiedTo (position : Nat) : Prop :=
  ¬ sect.exceedsAllocation image ∧ sect.Fills position

instance (position : Nat) : Decidable (sect.CopiedTo image position) :=
  inferInstanceAs (Decidable (_ ∧ _))

end ImageSection

def kGpuRegisterBase : Word := 0x7FC80000

def kKernelTickStructAddr : Word := 0x7FFF0000

def kKernelTickPointerSlot : Word := 0x82670100

def kLoadingProgressConfigSlot : Word := 0x8270F784

/-- The words that are stored last, in the order of the stores. -/
def bootWords : List (Word × Word) :=
  [(kKernelTickPointerSlot, kKernelTickStructAddr),
    (kLoadingProgressConfigSlot, 1),
    (kGpuRegisterBase + 0x1951 * 4, 1),
    (kGpuRegisterBase + 0x194C * 4, 0x000002D0),
    (kGpuRegisterBase + 0x1961 * 4, 0x050002D0),
    (kGpuRegisterBase + 0x0F00 * 4, 0x08100748),
    (kGpuRegisterBase + 0x0F01 * 4, 0x0000200E)]

def storeBootWords (mem : Memory) : Memory :=
  bootWords.foldl (fun mem word => storeU32 mem word.1 word.2) mem

/-- Both end the process with code 1. -/
inductive SetupFailure
  | mmapFailed
  | fileEmpty
deriving DecidableEq, Repr

/-- What is in guest memory when the title starts. -/
def memoryImage (config : PpcConfig) (mappings : List PPCFuncMapping) (image : XexImage) :
    Memory :=
  storeBootWords
    (config.installMappings (image.sections.foldl (fun mem sect => sect.copy image mem) fun _ => 0)
      mappings)

/-- `SetupMemoryImage`, for a parser of executables. -/
def setupMemoryImage (config : PpcConfig) (mappings : List PPCFuncMapping)
    (parseImage : List Byte → XexImage) (mapped : Bool) (file : List Byte) :
    Except SetupFailure Memory :=
  if ¬ mapped then .error .mmapFailed
  else if file.isEmpty then .error .fileEmpty
  else .ok (memoryImage config mappings (parseImage file))

section Patches

variable {config : PpcConfig} {mappings : List PPCFuncMapping} {mapping : PPCFuncMapping}
  {image : XexImage} {sect : ImageSection} {mem : Memory} {word : Word × Word} {position : Nat}

/-- The bytes of a section, where it is copied. -/
def ImageSection.patch (image : XexImage) (sect : ImageSection) : Patch Nat Byte := fun position =>
  if sect.CopiedTo image position then
    image.data[sect.offset.toNat + (position - sect.base.toNat)]?
  else none

/-- The pointer of a function, in the table. -/
def PpcConfig.entryPatch (config : PpcConfig) (mapping : PPCFuncMapping) : Patch Nat Byte :=
  fun position =>
    if config.entryStart mapping ≤ position ∧ position < config.entryStart mapping + 8 then
      some (byteOf mapping.host (position - config.entryStart mapping))
    else none

/-- A stored word. -/
def wordPatch (word : Word × Word) : Patch Nat Byte := fun position =>
  if word.1.toNat ≤ position ∧ position < word.1.toNat + 4 then
    some (word.2.extractLsb' (8 * (word.1.toNat + 3 - position)) 8)
  else none

theorem ImageSection.patch_copied (copied : sect.CopiedTo image position) :
    sect.patch image position =
      image.data[sect.offset.toNat + (position - sect.base.toNat)]? :=
  if_pos copied

theorem ImageSection.patch_bare (bare : ¬ sect.CopiedTo image position) :
    sect.patch image position = none :=
  if_neg bare

theorem PpcConfig.entryPatch_inside {index : Nat} (inside : index < 8) :
    config.entryPatch mapping (config.entryStart mapping + index) =
      some (byteOf mapping.host index) := by
  rw [PpcConfig.entryPatch, if_pos (by omega), Nat.add_sub_cancel_left]

theorem PpcConfig.entryPatch_outside
    (outside : position < config.entryStart mapping ∨ config.entryStart mapping + 8 ≤ position) :
    config.entryPatch mapping position = none :=
  if_neg (by omega)

theorem wordPatch_inside (lower : word.1.toNat ≤ position)
    (upper : position < word.1.toNat + 4) :
    wordPatch word position =
      some (word.2.extractLsb' (8 * (word.1.toNat + 3 - position)) 8) :=
  if_pos ⟨lower, upper⟩

theorem wordPatch_outside (outside : position < word.1.toNat ∨ word.1.toNat + 4 ≤ position) :
    wordPatch word position = none :=
  if_neg (by omega)

/-- A section that is not skipped lies inside the allocation. -/
theorem ImageSection.end_le (member : sect ∈ image.sections)
    (fits : ¬ sect.exceedsAllocation image) :
    sect.offset.toNat + sect.size.toNat ≤ image.data.length := by
  have allocation := image.length_lt
  have small := image.ends_lt sect member
  have size := sect.size.isLt
  unfold ImageSection.exceedsAllocation at fits
  rw [gt_iff_lt, BitVec.not_lt, BitVec.le_def, BitVec.toNat_add, BitVec.toNat_setWidth,
    BitVec.toNat_ofNat] at fits
  omega

theorem ImageSection.length_bytes
    (inside : sect.offset.toNat + sect.size.toNat ≤ image.data.length) :
    (sect.bytes image).length = sect.size.toNat := by
  rw [ImageSection.bytes, List.length_take, List.length_drop]
  omega

/-- Where a section is copied to, its patch has a byte of the allocation. -/
theorem ImageSection.exists_byte (member : sect ∈ image.sections)
    (copied : sect.CopiedTo image position) :
    ∃ byte, sect.patch image position = some byte ∧
      image.data[sect.offset.toNat + (position - sect.base.toNat)]? = some byte := by
  obtain ⟨fits, lower, upper⟩ := copied
  have inside := ImageSection.end_le member fits
  have inData : sect.offset.toNat + (position - sect.base.toNat) < image.data.length := by omega
  have byte := List.getElem?_eq_getElem inData
  exact ⟨_, (ImageSection.patch_copied ⟨fits, lower, upper⟩).trans byte, byte⟩

theorem ImageSection.copy_eq_lay (member : sect ∈ image.sections) :
    sect.copy image mem = lay mem (sect.patch image) := by
  funext position
  unfold ImageSection.copy
  by_cases skipped : sect.exceedsAllocation image
  · rw [if_pos skipped, lay_of_bare (ImageSection.patch_bare fun copied => copied.1 skipped)]
  · rw [if_neg skipped]
    have inside := ImageSection.end_le member skipped
    have length := ImageSection.length_bytes inside
    by_cases fills : sect.Fills position
    · obtain ⟨byte, patched, fromData⟩ := ImageSection.exists_byte member ⟨skipped, fills⟩
      rw [lay_of_covered patched]
      obtain ⟨lower, upper⟩ := fills
      obtain ⟨index, rfl⟩ := Nat.exists_eq_add_of_le lower
      rw [writeBytes_inside mem (by omega)]
      rw [Nat.add_sub_cancel_left] at fromData
      obtain ⟨inData, rfl⟩ := List.getElem?_eq_some_iff.mp fromData
      simp only [ImageSection.bytes, List.getElem_take, List.getElem_drop]
    · rw [lay_of_bare (ImageSection.patch_bare fun copied => fills copied.2)]
      apply writeBytes_of_outside
      unfold ImageSection.Fills at fills
      omega

theorem storeEntry_eq_lay (mapping : PPCFuncMapping) :
    storeU64Le mem (config.entryStart mapping) mapping.host =
      lay mem (config.entryPatch mapping) := by
  funext position
  unfold storeU64Le lay PpcConfig.entryPatch
  split <;> rfl

theorem storeU32_eq_lay (word : Word × Word) :
    storeU32 mem word.1 word.2 = lay mem (wordPatch word) := by
  funext position
  by_cases inside : word.1.toNat ≤ position ∧ position < word.1.toNat + 4
  · rw [storeU32_inside mem inside.1 inside.2, lay_of_covered (wordPatch_inside inside.1 inside.2)]
  · have outside : position < word.1.toNat ∨ word.1.toNat + 4 ≤ position := by omega
    rw [storeU32_of_outside mem outside, lay_of_bare (wordPatch_outside outside)]

theorem copySections_eq_layAll (sections : List ImageSection)
    (listed : ∀ sect ∈ sections, sect ∈ image.sections) :
    sections.foldl (fun mem sect => sect.copy image mem) mem =
      layAll mem (sections.map (ImageSection.patch image)) := by
  induction sections generalizing mem with
  | nil => rfl
  | cons sect rest ih =>
      rw [List.foldl_cons, ih fun later member => listed later (List.mem_cons_of_mem _ member),
        ImageSection.copy_eq_lay (listed sect List.mem_cons_self)]
      rfl

theorem installMappings_eq_layAll (generated : GeneratedMappings config mappings) :
    config.installMappings mem mappings = layAll mem (mappings.map config.entryPatch) := by
  induction mappings generalizing mem with
  | nil => rfl
  | cons mapping rest ih =>
      rw [generated.installMappings_cons, ih generated.tail, storeEntry_eq_lay]
      rfl

theorem storeWords_eq_layAll (words : List (Word × Word)) :
    words.foldl (fun mem word => storeU32 mem word.1 word.2) mem =
      layAll mem (words.map wordPatch) := by
  induction words generalizing mem with
  | nil => rfl
  | cons word rest ih =>
      rw [List.foldl_cons, ih, storeU32_eq_lay]
      rfl

/-- The image is its patches: sections, pointers and boot words, in this order. -/
theorem memoryImage_eq_layAll (generated : GeneratedMappings config mappings) :
    memoryImage config mappings image =
      layAll (layAll (layAll (fun _ => 0) (image.sections.map (ImageSection.patch image)))
        (mappings.map config.entryPatch)) (bootWords.map wordPatch) := by
  unfold memoryImage storeBootWords
  rw [storeWords_eq_layAll, installMappings_eq_layAll generated,
    copySections_eq_layAll _ fun _ member => member]

theorem bootWords_apart :
    bootWords.Pairwise fun first second => Apart first.1 second.1 := by
  decide

theorem bootWords_le : ∀ word ∈ bootWords,
    word.1.toNat + 4 ≤ kLoadingProgressConfigSlot.toNat + 4 := by
  intro word listed
  simp only [bootWords, List.mem_cons, List.not_mem_nil, or_false] at listed
  rcases listed with rfl | rfl | rfl | rfl | rfl | rfl | rfl <;> decide

/-- The boot words lie below the table. -/
theorem bootWords_bare (below : kLoadingProgressConfigSlot.toNat + 4 ≤ config.tableStart)
    (inTable : config.tableStart ≤ position) :
    ∀ patch ∈ bootWords.map wordPatch, patch position = none := by
  intro patch member
  obtain ⟨word, listed, rfl⟩ := List.mem_map.mp member
  have := bootWords_le word listed
  exact wordPatch_outside (by omega)

theorem wordPatch_only (position : Nat) :
    (bootWords.map wordPatch).Pairwise fun first second =>
      first position = none ∨ second position = none := by
  rw [List.pairwise_map]
  refine bootWords_apart.imp ?_
  intro first second apart
  by_cases inside : first.1.toNat ≤ position ∧ position < first.1.toNat + 4
  · right
    apply wordPatch_outside
    rcases apart with before | after <;> omega
  · left
    apply wordPatch_outside
    omega

theorem entryPatch_only (generated : GeneratedMappings config mappings) (position : Nat) :
    (mappings.map config.entryPatch).Pairwise fun first second =>
      first position = none ∨ second position = none := by
  induction mappings with
  | nil => exact List.Pairwise.nil
  | cons mapping rest ih =>
      rw [List.map_cons, List.pairwise_cons]
      refine ⟨?_, ih generated.tail⟩
      intro patch member
      obtain ⟨other, listed, rfl⟩ := List.mem_map.mp member
      have apart := generated.apart listed
      by_cases inside : config.entryStart mapping ≤ position ∧
          position < config.entryStart mapping + 8
      · right
        exact PpcConfig.entryPatch_outside (by omega)
      · left
        exact PpcConfig.entryPatch_outside (by omega)

theorem loadU32_of_bytes {addr value : Word} (bytes : ∀ position, addr.toNat ≤ position →
      position < addr.toNat + 4 →
      mem position = value.extractLsb' (8 * (addr.toNat + 3 - position)) 8) :
    loadU32 mem addr = value := by
  rw [← loadU32_storeU32_same mem addr value]
  apply loadU32_congr
  intro position lower upper
  rw [bytes position lower upper, storeU32_inside _ lower upper]

/-- A boot word reads as it was stored. -/
theorem memoryImage_bootWord (generated : GeneratedMappings config mappings)
    (listed : word ∈ bootWords) :
    loadU32 (memoryImage config mappings image) word.1 = word.2 := by
  apply loadU32_of_bytes
  intro position lower upper
  rw [memoryImage_eq_layAll generated]
  exact layAll_of_only (List.mem_map_of_mem listed) (wordPatch_inside lower upper)
    (wordPatch_only position)

/-- A mapped function is found at its address. -/
theorem memoryImage_lookupFunc (generated : GeneratedMappings config mappings)
    (below : kLoadingProgressConfigSlot.toNat + 4 ≤ config.tableStart)
    (member : mapping ∈ mappings) :
    config.lookupFunc (memoryImage config mappings image) (mapping.guest.setWidth 32) =
      mapping.host := by
  rw [PpcConfig.lookupFunc, generated.lookupOffset_guest member, loadU64Le_eq_iff]
  intro index inside
  have inTable : config.tableStart ≤ config.entryStart mapping + index :=
    (Nat.le_add_right _ _).trans (Nat.le_add_right _ _)
  rw [memoryImage_eq_layAll generated, layAll_of_bare (bootWords_bare below inTable)]
  exact layAll_of_only (List.mem_map_of_mem member) (PpcConfig.entryPatch_inside inside)
    (entryPatch_only generated _)

/-- Outside the boot words and the table a byte is the sections' own. -/
theorem memoryImage_sections (generated : GeneratedMappings config mappings)
    (noWord : ∀ word ∈ bootWords, position < word.1.toNat ∨ word.1.toNat + 4 ≤ position)
    (noEntry : ∀ mapping ∈ mappings,
      position < config.entryStart mapping ∨ config.entryStart mapping + 8 ≤ position) :
    memoryImage config mappings image position =
      layAll (fun _ => 0) (image.sections.map (ImageSection.patch image)) position := by
  rw [memoryImage_eq_layAll generated, layAll_of_bare, layAll_of_bare]
  · intro patch member
    obtain ⟨mapping, listed, rfl⟩ := List.mem_map.mp member
    exact PpcConfig.entryPatch_outside (noEntry mapping listed)
  · intro patch member
    obtain ⟨word, listed, rfl⟩ := List.mem_map.mp member
    exact wordPatch_outside (noWord word listed)

theorem sections_bare (bare : ∀ sect ∈ image.sections, ¬ sect.CopiedTo image position) :
    layAll (fun _ => 0) (image.sections.map (ImageSection.patch image)) position = 0 := by
  apply layAll_of_bare
  intro patch member
  obtain ⟨sect, listed, rfl⟩ := List.mem_map.mp member
  exact ImageSection.patch_bare (bare sect listed)

theorem sections_last {before after : List ImageSection}
    (sections : image.sections = before ++ sect :: after)
    (copied : sect.CopiedTo image position)
    (last : ∀ later ∈ after, ¬ later.CopiedTo image position) :
    image.data[sect.offset.toNat + (position - sect.base.toNat)]? =
      some (layAll (fun _ => 0) (image.sections.map (ImageSection.patch image)) position) := by
  have member : sect ∈ image.sections := by
    rw [sections]
    exact List.mem_append_right _ List.mem_cons_self
  obtain ⟨byte, patched, fromData⟩ := ImageSection.exists_byte member copied
  rw [fromData, sections, List.map_append, List.map_cons, layAll_of_last patched]
  intro patch listed
  obtain ⟨later, inAfter, rfl⟩ := List.mem_map.mp listed
  exact ImageSection.patch_bare (last later inAfter)

/-- With no section over the table, it is installed as into zeros. -/
theorem memoryImage_tableInstalled (generated : GeneratedMappings config mappings)
    (below : kLoadingProgressConfigSlot.toNat + 4 ≤ config.tableStart)
    (spared : ∀ sect ∈ image.sections, ∀ position, sect.CopiedTo image position →
      ¬ config.InTable position) :
    TableInstalled config mappings (memoryImage config mappings image) := by
  refine ⟨layAll (fun _ => 0) (image.sections.map (ImageSection.patch image)), ?_, ?_⟩
  · intro position inTable
    apply sections_bare
    intro sect member copied
    exact spared sect member position copied inTable
  · intro position inTable
    rw [memoryImage_eq_layAll generated, layAll_of_bare (bootWords_bare below inTable.1),
      installMappings_eq_layAll generated]

end Patches

/-- Whatever the sections hold and however they overlap: every boot word and every function's
pointer reads as it was stored; any other byte is that of the last section copied over it, read
inside the allocation, or zero; and the table is installed if no section is copied over it. -/
theorem setupMemoryImage_exact {config : PpcConfig} {mappings : List PPCFuncMapping}
    {parseImage : List Byte → XexImage} {mapped : Bool} {file : List Byte} {mem : Memory}
    (generated : GeneratedMappings config mappings)
    (below : kLoadingProgressConfigSlot.toNat + 4 ≤ config.tableStart)
    (ready : setupMemoryImage config mappings parseImage mapped file = .ok mem) :
    (∀ word ∈ bootWords, loadU32 mem word.1 = word.2) ∧
      (∀ mapping ∈ mappings,
        config.lookupFunc mem (mapping.guest.setWidth 32) = mapping.host) ∧
      (∀ position,
        (∀ word ∈ bootWords, position < word.1.toNat ∨ word.1.toNat + 4 ≤ position) →
        (∀ mapping ∈ mappings,
          position < config.entryStart mapping ∨ config.entryStart mapping + 8 ≤ position) →
        ((∀ sect ∈ (parseImage file).sections, ¬ sect.CopiedTo (parseImage file) position) →
          mem position = 0) ∧
        ∀ before sect after, (parseImage file).sections = before ++ sect :: after →
          sect.CopiedTo (parseImage file) position →
          (∀ later ∈ after, ¬ later.CopiedTo (parseImage file) position) →
          (parseImage file).data[sect.offset.toNat + (position - sect.base.toNat)]? =
            some (mem position)) ∧
      ((∀ sect ∈ (parseImage file).sections, ∀ position,
          sect.CopiedTo (parseImage file) position → ¬ config.InTable position) →
        TableInstalled config mappings mem) := by
  obtain rfl : memoryImage config mappings (parseImage file) = mem := by
    unfold setupMemoryImage at ready
    split at ready
    · cases ready
    · split at ready
      · cases ready
      · exact Except.ok.inj ready
  refine ⟨fun word listed => memoryImage_bootWord generated listed,
    fun mapping member => memoryImage_lookupFunc generated below member, ?_,
    memoryImage_tableInstalled generated below⟩
  intro position noWord noEntry
  rw [memoryImage_sections generated noWord noEntry]
  exact ⟨sections_bare, fun _ _ _ => sections_last⟩

/-- Two sections that overlap, and a third that is declared longer than the image. -/
def threeSections : XexImage where
  data := [1, 2, 3, 4]
  sections := [⟨".text", 0x82000000, 3, 0⟩, ⟨".data", 0x82000002, 2, 2⟩,
    ⟨".reloc", 0x82000000, 4, 1⟩]
  length_lt := by decide
  ends_lt := by decide

theorem setupMemoryImage_exact_threeSections :
    ∃ mem, setupMemoryImage titleConfig twoMappings (fun _ => threeSections) true [0x58] =
        .ok mem ∧
      loadU32 mem kKernelTickPointerSlot = kKernelTickStructAddr ∧ mem 0x82000001 = 2 ∧
      TableInstalled titleConfig twoMappings mem := by
  have ready : setupMemoryImage titleConfig twoMappings (fun _ => threeSections) true [0x58] =
      .ok (memoryImage titleConfig twoMappings threeSections) := rfl
  obtain ⟨words, -, bytes, table⟩ := setupMemoryImage_exact twoMappings_generated (by decide) ready
  have noWord : ∀ word ∈ bootWords,
      0x82000001 < word.1.toNat ∨ word.1.toNat + 4 ≤ 0x82000001 := by
    intro word listed
    simp only [bootWords, List.mem_cons, List.not_mem_nil, or_false] at listed
    rcases listed with rfl | rfl | rfl | rfl | rfl | rfl | rfl <;> decide
  have second := (bytes 0x82000001 noWord (by decide)).2 [] _ _ rfl (by decide) (by decide)
  have fromData : some 2 = some (memoryImage titleConfig twoMappings threeSections 0x82000001) :=
    Eq.trans (by decide) second
  have ends : ∀ sect ∈ threeSections.sections,
      sect.base.toNat + sect.size.toNat ≤ titleConfig.tableStart := by decide
  refine ⟨_, ready, ?_, (Option.some.inj fromData).symm, table ?_⟩
  · exact words (kKernelTickPointerSlot, kKernelTickStructAddr) List.mem_cons_self
  intro sect member position copied inTable
  have upper := copied.2.2
  have lower := inTable.1
  have := ends sect member
  omega

end BumpinHost.Kernel
