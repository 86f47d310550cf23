import BumpinHost.Library.LittleEndian

/-!
# The function table and the indirect calls through it

The table lies behind the image in guest memory and holds one host function pointer
for each code word, so two table bytes for each code byte.  `SetupMemoryImage` stores
the generated mappings in it; a call through a guest address loads its pointer back.
-/

namespace BumpinHost.Kernel

open Memory

/-- The constants of the generated header, with what the generator keeps to: the code
lies in a window of the image's size that starts at an instruction, and the table for
that window fits below the end of the address space. -/
structure PpcConfig where
  imageBase : BitVec 64
  imageSize : BitVec 64
  codeBase : BitVec 64
  codeSize : BitVec 64
  codeBase_pos : 0 < codeBase.toNat
  codeBase_aligned : codeBase.toNat % 4 = 0
  codeSize_le : codeSize.toNat ≤ imageSize.toNat
  codeBase_le : codeBase.toNat + imageSize.toNat ≤ 2 ^ 32
  table_le : imageBase.toNat + imageSize.toNat + 2 * imageSize.toNat + 8 ≤ 2 ^ 32

structure PPCFuncMapping where
  guest : BitVec 64
  host : BitVec 64
deriving DecidableEq, Repr

namespace PpcConfig

variable (config : PpcConfig)

/-- Where `PPC_LOOKUP_FUNC` finds the pointer for a guest address, from the base of guest
memory. -/
def lookupOffset (target : Word) : BitVec 64 :=
  config.imageBase + config.imageSize + (target.setWidth 64 - config.codeBase) * 2

def lookupFunc (mem : Memory) (target : Word) : BitVec 64 :=
  loadU64Le mem (config.lookupOffset target).toNat

/-- The loop of `SetupMemoryImage`, which a zero guest address ends. -/
def installMappings (mem : Memory) : List PPCFuncMapping → Memory
  | [] => mem
  | mapping :: rest =>
      if mapping.guest = 0 then mem
      else
        installMappings
          (storeU64Le mem (config.lookupOffset (mapping.guest.setWidth 32)).toNat mapping.host)
          rest

/-- The range test of the guard. -/
def InCodeRange (target : Word) : Prop :=
  config.codeBase ≤ target.setWidth 64 ∧ target.setWidth 64 < config.codeBase + config.imageSize

instance (target : Word) : Decidable (config.InCodeRange target) :=
  inferInstanceAs (Decidable (_ ∧ _))

/-- `PPC_GuardedCallIndirect`: the pointer it calls, if it calls one. -/
def guardedCallIndirect (mem : Memory) (target : Word) : Option (BitVec 64) :=
  if config.InCodeRange target then
    let fn := config.lookupFunc mem target
    if fn ≠ 0 then some fn else none
  else
    none

/-- The first byte of the table, from the base of guest memory. -/
def tableStart : Nat := config.imageBase.toNat + config.imageSize.toNat

/-- The bytes that a guarded call may load. -/
def InTable (position : Nat) : Prop :=
  config.tableStart ≤ position ∧ position < config.tableStart + 2 * config.imageSize.toNat + 6

end PpcConfig

/-- The guest address that a new thread starts at. -/
def entryAddress (xApiThreadStartup startAddress : Word) : Word :=
  if xApiThreadStartup ≠ 0 then xApiThreadStartup else startAddress

/-- A call through a guest address. -/
inductive IndirectCall
  /-- `PPC_CALL_INDIRECT_FUNC`: a guest `bctrl`, an APC routine, an interrupt callback. -/
  | guarded (target : Word)
  /-- The first call of a thread that `ExCreateThread` makes. -/
  | threadEntry (xApiThreadStartup startAddress : Word)
deriving DecidableEq, Repr

namespace IndirectCall

def target : IndirectCall → Word
  | guarded target => target
  | threadEntry xApiThreadStartup startAddress => entryAddress xApiThreadStartup startAddress

/-- The host pointer that control goes to, if it goes anywhere. -/
def callee (config : PpcConfig) (mem : Memory) : IndirectCall → Option (BitVec 64)
  | guarded target => config.guardedCallIndirect mem target
  | threadEntry xApiThreadStartup startAddress =>
      some (config.lookupFunc mem (entryAddress xApiThreadStartup startAddress))

/-- The call goes to the function mapped for its target, or nowhere. -/
def ReachesInstalled (config : PpcConfig) (mappings : List PPCFuncMapping) (mem : Memory)
    (call : IndirectCall) : Prop :=
  ∀ fn, call.callee config mem = some fn →
    ∃ mapping ∈ mappings, mapping.guest = call.target.setWidth 64 ∧ mapping.host = fn

end IndirectCall

/-- The generated mappings: distinct instruction addresses in the code. -/
structure GeneratedMappings (config : PpcConfig) (mappings : List PPCFuncMapping) : Prop where
  distinct : (mappings.map PPCFuncMapping.guest).Nodup
  aligned : ∀ mapping ∈ mappings, mapping.guest.toNat % 4 = 0
  inCode : ∀ mapping ∈ mappings, config.codeBase.toNat ≤ mapping.guest.toNat ∧
    mapping.guest.toNat < config.codeBase.toNat + config.codeSize.toNat

/-- The table holds what `SetupMemoryImage` stored into zeros. -/
def TableInstalled (config : PpcConfig) (mappings : List PPCFuncMapping) (mem : Memory) :
    Prop :=
  ∃ start : Memory, (∀ position, config.InTable position → start position = 0) ∧
    ∀ position, config.InTable position →
      mem position = config.installMappings start mappings position

/-- For a target between two instructions: the functions at the two have pointers whose
bytes from the target on, and below the target, are zero. -/
def SplicesToNull (mappings : List PPCFuncMapping) (target : Word) : Prop :=
  ∀ mapping ∈ mappings,
    (mapping.guest.toNat + target.toNat % 4 = target.toNat →
      ∀ index < 8, 2 * (target.toNat % 4) ≤ index → byteOf mapping.host index = 0) ∧
    (mapping.guest.toNat + target.toNat % 4 = target.toNat + 4 →
      ∀ index < 2 * (target.toNat % 4), byteOf mapping.host index = 0)

/-- When a call goes to its own function or nowhere: a guarded target is an instruction
address, or outside the range, or splices to null; a thread entry is mapped. -/
def IndirectCall.ReachesOwn (config : PpcConfig) (mappings : List PPCFuncMapping) :
    IndirectCall → Prop
  | guarded target =>
      config.InCodeRange target → target.toNat % 4 = 0 ∨ SplicesToNull mappings target
  | threadEntry xApiThreadStartup startAddress =>
      ∃ mapping ∈ mappings,
        mapping.guest = (entryAddress xApiThreadStartup startAddress).setWidth 64

namespace PpcConfig

variable (config : PpcConfig) {mappings : List PPCFuncMapping}

/-- Where the pointer of an address in the window is. -/
theorem lookupOffset_toNat {target : Word} (above : config.codeBase.toNat ≤ target.toNat)
    (below : target.toNat < config.codeBase.toNat + config.imageSize.toNat) :
    (config.lookupOffset target).toNat =
      config.tableStart + 2 * (target.toNat - config.codeBase.toNat) := by
  have table := config.table_le
  have window := config.codeBase_le
  have base := config.codeBase.isLt
  have small := target.isLt
  have widened : (target.setWidth 64).toNat = target.toNat := by
    rw [BitVec.toNat_setWidth]
    omega
  have distance : (target.setWidth 64 - config.codeBase).toNat =
      target.toNat - config.codeBase.toNat := by
    rw [BitVec.toNat_sub, widened]
    omega
  have doubled : ((target.setWidth 64 - config.codeBase) * 2).toNat =
      2 * (target.toNat - config.codeBase.toNat) := by
    rw [BitVec.toNat_mul, distance]
    have two : (2 : BitVec 64).toNat = 2 := rfl
    rw [two]
    omega
  unfold lookupOffset tableStart
  rw [BitVec.toNat_add, BitVec.toNat_add, doubled]
  omega

theorem inCodeRange_iff (target : Word) :
    config.InCodeRange target ↔ config.codeBase.toNat ≤ target.toNat ∧
      target.toNat < config.codeBase.toNat + config.imageSize.toNat := by
  have window := config.codeBase_le
  unfold InCodeRange
  rw [BitVec.le_def, BitVec.lt_def, BitVec.toNat_add, BitVec.toNat_setWidth]
  omega

/-- Where the pointer of a mapping is. -/
def entryStart (mapping : PPCFuncMapping) : Nat :=
  config.tableStart + 2 * (mapping.guest.toNat - config.codeBase.toNat)

end PpcConfig

section Installed

variable {config : PpcConfig} {mappings : List PPCFuncMapping} {mapping : PPCFuncMapping}
  {mem : Memory}

namespace GeneratedMappings

theorem inWindow (generated : GeneratedMappings config mappings) (member : mapping ∈ mappings) :
    config.codeBase.toNat ≤ mapping.guest.toNat ∧
      mapping.guest.toNat < config.codeBase.toNat + config.imageSize.toNat ∧
      mapping.guest.toNat % 4 = 0 := by
  obtain ⟨above, below⟩ := generated.inCode mapping member
  have code := config.codeSize_le
  exact ⟨above, by omega, generated.aligned mapping member⟩

theorem lookupOffset_guest (generated : GeneratedMappings config mappings)
    (member : mapping ∈ mappings) :
    (config.lookupOffset (mapping.guest.setWidth 32)).toNat = config.entryStart mapping := by
  obtain ⟨above, below, -⟩ := generated.inWindow member
  have window := config.codeBase_le
  have narrowed : (mapping.guest.setWidth 32).toNat = mapping.guest.toNat := by
    rw [BitVec.toNat_setWidth]
    omega
  rw [config.lookupOffset_toNat (by omega) (by omega), narrowed]
  rfl

theorem tail {rest : List PPCFuncMapping}
    (generated : GeneratedMappings config (mapping :: rest)) : GeneratedMappings config rest where
  distinct := (List.nodup_cons.mp generated.distinct).2
  aligned later member := generated.aligned later (List.mem_cons_of_mem _ member)
  inCode later member := generated.inCode later (List.mem_cons_of_mem _ member)

/-- The entries of two mappings do not overlap. -/
theorem apart {rest : List PPCFuncMapping} {other : PPCFuncMapping}
    (generated : GeneratedMappings config (mapping :: rest)) (member : other ∈ rest) :
    config.entryStart mapping + 8 ≤ config.entryStart other ∨
      config.entryStart other + 8 ≤ config.entryStart mapping := by
  obtain ⟨above, -, aligned⟩ := generated.inWindow List.mem_cons_self
  obtain ⟨otherAbove, -, otherAligned⟩ :=
    generated.inWindow (List.mem_cons_of_mem mapping member)
  have base := config.codeBase_aligned
  have different : mapping.guest.toNat ≠ other.guest.toNat := by
    intro same
    have fresh := (List.nodup_cons.mp generated.distinct).1
    apply fresh
    rw [BitVec.eq_of_toNat_eq same]
    exact List.mem_map_of_mem member
  unfold PpcConfig.entryStart
  omega

theorem installMappings_cons {rest : List PPCFuncMapping}
    (generated : GeneratedMappings config (mapping :: rest)) (mem : Memory) :
    config.installMappings mem (mapping :: rest) =
      config.installMappings (storeU64Le mem (config.entryStart mapping) mapping.host) rest := by
  obtain ⟨above, -, -⟩ := generated.inWindow List.mem_cons_self
  have positive := config.codeBase_pos
  have notZero : mapping.guest ≠ 0 := by
    rintro zero
    rw [zero] at above
    have zero : (0 : BitVec 64).toNat = 0 := rfl
    omega
  rw [PpcConfig.installMappings, if_neg notZero,
    generated.lookupOffset_guest List.mem_cons_self]

/-- Bytes outside every entry are not written. -/
theorem install_outside (generated : GeneratedMappings config mappings) (mem : Memory)
    {position : Nat}
    (outside : ∀ mapping ∈ mappings,
      position < config.entryStart mapping ∨ config.entryStart mapping + 8 ≤ position) :
    config.installMappings mem mappings position = mem position := by
  induction mappings generalizing mem with
  | nil => rfl
  | cons mapping rest ih =>
      rw [generated.installMappings_cons,
        ih generated.tail _ fun later member => outside later (List.mem_cons_of_mem _ member)]
      exact storeU64Le_of_outside mem (outside mapping List.mem_cons_self)

theorem install_inside (generated : GeneratedMappings config mappings) (mem : Memory)
    (member : mapping ∈ mappings) {index : Nat} (inside : index < 8) :
    config.installMappings mem mappings (config.entryStart mapping + index) =
      byteOf mapping.host index := by
  induction mappings generalizing mem with
  | nil => cases member
  | cons first rest ih =>
      rw [generated.installMappings_cons]
      rcases List.mem_cons.mp member with rfl | later
      · rw [generated.tail.install_outside]
        · exact storeU64Le_inside mem inside
        · intro other otherMember
          have := generated.apart otherMember
          omega
      · exact ih generated.tail _ later

end GeneratedMappings

namespace TableInstalled

/-- An entry holds its function's pointer. -/
theorem entry_byte (installed : TableInstalled config mappings mem)
    (generated : GeneratedMappings config mappings) (member : mapping ∈ mappings) {index : Nat}
    (inside : index < 8) :
    mem (config.entryStart mapping + index) = byteOf mapping.host index := by
  obtain ⟨start, -, same⟩ := installed
  obtain ⟨above, below, -⟩ := generated.inWindow member
  rw [same, generated.install_inside start member inside]
  unfold PpcConfig.InTable PpcConfig.entryStart
  omega

/-- The entry of an instruction that no mapping names is zero. -/
theorem free_byte (installed : TableInstalled config mappings mem)
    (generated : GeneratedMappings config mappings) {address index : Nat}
    (above : config.codeBase.toNat ≤ address) (aligned : address % 4 = 0)
    (free : ∀ mapping ∈ mappings, mapping.guest.toNat ≠ address) (inside : index < 8)
    (inTable : config.InTable
      (config.tableStart + 2 * (address - config.codeBase.toNat) + index)) :
    mem (config.tableStart + 2 * (address - config.codeBase.toNat) + index) = 0 := by
  obtain ⟨start, zero, same⟩ := installed
  rw [same _ inTable, generated.install_outside, zero _ inTable]
  intro mapping member
  obtain ⟨mappedAbove, -, mappedAligned⟩ := generated.inWindow member
  have different := free mapping member
  have base := config.codeBase_aligned
  unfold PpcConfig.entryStart
  omega

variable {target : Word}

/-- A mapped target finds its function. -/
theorem lookupFunc_mapped (installed : TableInstalled config mappings mem)
    (generated : GeneratedMappings config mappings) (member : mapping ∈ mappings)
    (own : mapping.guest = target.setWidth 64) :
    config.lookupFunc mem target = mapping.host := by
  have small := target.isLt
  have guest : mapping.guest.toNat = target.toNat := by
    rw [own, BitVec.toNat_setWidth]
    omega
  obtain ⟨above, below, -⟩ := generated.inWindow member
  unfold PpcConfig.lookupFunc
  rw [loadU64Le_eq_iff, config.lookupOffset_toNat (by omega) (by omega), ← guest]
  intro index inside
  exact installed.entry_byte generated member inside

/-- The pointer of a target is null exactly when the parts of the one or two pointers it
is made of are. -/
theorem lookupFunc_eq_zero_iff (installed : TableInstalled config mappings mem)
    (generated : GeneratedMappings config mappings) (inRange : config.InCodeRange target) :
    config.lookupFunc mem target = 0 ↔ SplicesToNull mappings target := by
  obtain ⟨above, below⟩ := (config.inCodeRange_iff target).mp inRange
  have base := config.codeBase_aligned
  unfold PpcConfig.lookupFunc
  rw [loadU64Le_eq_zero_iff, config.lookupOffset_toNat above below]
  constructor
  · intro zero mapping member
    have entry : ∀ index < 8, mem (config.entryStart mapping + index) =
        byteOf mapping.host index :=
      fun _ inside => installed.entry_byte generated member inside
    unfold PpcConfig.entryStart at entry
    constructor
    · intro lower index inside upper
      have byte := zero (index - 2 * (target.toNat % 4)) (by omega)
      rw [← entry index inside, ← byte]
      congr 1
      omega
    · intro next index low
      have byte := zero (8 - 2 * (target.toNat % 4) + index) (by omega)
      rw [← entry index (by omega), ← byte]
      congr 1
      omega
  · intro spliced index inside
    -- The byte belongs to the instruction below the target or to the one above it.
    obtain ⟨address, slot, inSlot, aligned, addressAbove, addressBelow, place, half⟩ :
        ∃ address slot, slot < 8 ∧ address % 4 = 0 ∧ config.codeBase.toNat ≤ address ∧
          address < target.toNat + 4 ∧
          config.tableStart + 2 * (target.toNat - config.codeBase.toNat) + index =
            config.tableStart + 2 * (address - config.codeBase.toNat) + slot ∧
          (address + target.toNat % 4 = target.toNat ∧ 2 * (target.toNat % 4) ≤ slot ∨
            address + target.toNat % 4 = target.toNat + 4 ∧ slot < 2 * (target.toNat % 4)) := by
      by_cases low : 2 * (target.toNat % 4) + index < 8
      · exact ⟨target.toNat - target.toNat % 4, 2 * (target.toNat % 4) + index, low, by omega,
          by omega, by omega, by omega, by omega⟩
      · exact ⟨target.toNat - target.toNat % 4 + 4, 2 * (target.toNat % 4) + index - 8, by omega,
          by omega, by omega, by omega, by omega, by omega⟩
    have inTable : config.InTable
        (config.tableStart + 2 * (address - config.codeBase.toNat) + slot) := by
      rw [← place]
      unfold PpcConfig.InTable
      omega
    rw [place]
    by_cases free : ∀ mapping ∈ mappings, mapping.guest.toNat ≠ address
    · exact installed.free_byte generated addressAbove aligned free inSlot inTable
    · push Not at free
      obtain ⟨mapping, member, rfl⟩ := free
      have entry := installed.entry_byte generated member inSlot
      unfold PpcConfig.entryStart at entry
      rw [entry]
      rcases half with ⟨lower, upper⟩ | ⟨next, low⟩
      · exact (spliced mapping member).1 lower slot inSlot upper
      · exact (spliced mapping member).2 next slot low

end TableInstalled

/-- A guarded call goes to the function of its target, or nowhere, exactly when the target
is an instruction or splices to null. -/
theorem guarded_reachesInstalled_iff (generated : GeneratedMappings config mappings)
    (installed : TableInstalled config mappings mem) (target : Word) :
    (IndirectCall.guarded target).ReachesInstalled config mappings mem ↔
      (IndirectCall.guarded target).ReachesOwn config mappings := by
  have small := target.isLt
  have widened : (target.setWidth 64).toNat = target.toNat := by
    rw [BitVec.toNat_setWidth]
    omega
  by_cases inRange : config.InCodeRange target
  case neg =>
      have refused : (IndirectCall.guarded target).callee config mem = none := if_neg inRange
      constructor
      · intro _ inside
        exact absurd inside inRange
      · intro _ fn called
        rw [refused] at called
        cases called
  case pos =>
      have calls : (IndirectCall.guarded target).callee config mem =
          if config.lookupFunc mem target ≠ 0 then some (config.lookupFunc mem target)
          else none := if_pos inRange
      have null := installed.lookupFunc_eq_zero_iff generated inRange
      by_cases aligned : target.toNat % 4 = 0
      · constructor
        · intro _ _
          exact Or.inl aligned
        · intro _ fn called
          rw [calls] at called
          split at called
          case isFalse => cases called
          case isTrue notNull =>
              cases called
              by_contra unmapped
              apply notNull
              rw [null, SplicesToNull, aligned]
              intro mapping member
              refine ⟨?_, fun _ index low => absurd low (by omega)⟩
              intro guest
              have own : mapping.guest = target.setWidth 64 :=
                BitVec.eq_of_toNat_eq (guest.trans widened.symm)
              exact absurd ⟨mapping, member, own,
                (installed.lookupFunc_mapped generated member own).symm⟩ unmapped
      · have unmapped : ∀ mapping ∈ mappings, mapping.guest ≠ target.setWidth 64 := by
          intro mapping member own
          have multiple := generated.aligned mapping member
          rw [own, widened] at multiple
          exact aligned multiple
        constructor
        · intro reaches _
          right
          rw [← null]
          by_contra notNull
          rw [IndirectCall.ReachesInstalled, calls, if_pos notNull] at reaches
          obtain ⟨mapping, member, own, -⟩ := reaches _ rfl
          exact unmapped mapping member own
        · intro condition fn called
          have isNull := null.mpr ((condition inRange).resolve_left aligned)
          rw [calls, if_neg (not_not.mpr isNull)] at called
          cases called

/-- Every indirect call goes to the function installed for its target or nowhere, exactly
when a guarded target does not splice two pointers and a thread entry is mapped. -/
theorem indirectCall_reachesInstalled_iff (generated : GeneratedMappings config mappings)
    (installed : TableInstalled config mappings mem) (call : IndirectCall) :
    call.ReachesInstalled config mappings mem ↔ call.ReachesOwn config mappings := by
  cases call with
  | guarded target => exact guarded_reachesInstalled_iff generated installed target
  | threadEntry xApiThreadStartup startAddress =>
      constructor
      · intro reaches
        obtain ⟨mapping, member, own, -⟩ := reaches _ rfl
        exact ⟨mapping, member, own⟩
      · rintro ⟨mapping, member, own⟩ fn called
        cases called
        exact ⟨mapping, member, own, (installed.lookupFunc_mapped generated member own).symm⟩

end Installed

/-- The image and the code as the generated header gives them. -/
def titleConfig : PpcConfig where
  imageBase := 0x82000000
  imageSize := 0x740000
  codeBase := 0x820A0000
  codeSize := 0x57A3B8
  codeBase_pos := by decide
  codeBase_aligned := by decide
  codeSize_le := by decide
  codeBase_le := by decide
  table_le := by decide

/-- Two functions of one instruction each. -/
def twoMappings : List PPCFuncMapping :=
  [⟨0x820A0000, 0x100004000⟩, ⟨0x820A0004, 0x100004100⟩]

theorem twoMappings_generated : GeneratedMappings titleConfig twoMappings := by
  constructor <;> decide

theorem twoMappings_installed :
    TableInstalled titleConfig twoMappings
      (titleConfig.installMappings (fun _ => 0) twoMappings) :=
  ⟨fun _ => 0, fun _ _ => rfl, fun _ _ => rfl⟩

theorem indirectCall_reachesInstalled_iff_firstFunction :
    (IndirectCall.guarded 0x820A0000).ReachesInstalled titleConfig twoMappings
      (titleConfig.installMappings (fun _ => 0) twoMappings) :=
  (indirectCall_reachesInstalled_iff twoMappings_generated twoMappings_installed _).mpr
    fun _ => Or.inl (by decide)

/-- Half way between the two functions a guarded call takes the upper half of one pointer
and the lower half of the next for a function; a thread at address zero calls whatever
lies outside the table. -/
theorem indirectCall_splicesPointers :
    GeneratedMappings titleConfig twoMappings ∧
      TableInstalled titleConfig twoMappings
        (titleConfig.installMappings (fun _ => 0) twoMappings) ∧
      (IndirectCall.guarded 0x820A0002).callee titleConfig
        (titleConfig.installMappings (fun _ => 0) twoMappings) = some 0x410000000001 ∧
      ¬ (IndirectCall.guarded 0x820A0002).ReachesInstalled titleConfig twoMappings
        (titleConfig.installMappings (fun _ => 0) twoMappings) ∧
      ¬ (IndirectCall.threadEntry 0 0).ReachesInstalled titleConfig twoMappings
        (titleConfig.installMappings (fun _ => 0) twoMappings) := by
  have called : (IndirectCall.guarded 0x820A0002).callee titleConfig
      (titleConfig.installMappings (fun _ => 0) twoMappings) = some 0x410000000001 := by
    decide +kernel
  refine ⟨twoMappings_generated, twoMappings_installed, called, ?_, ?_⟩
  · intro reaches
    have reached := reaches _ called
    revert reached
    decide
  · intro reaches
    have unmapped : ∀ mapping ∈ twoMappings,
        mapping.guest ≠ (IndirectCall.threadEntry 0 0).target.setWidth 64 := by decide
    obtain ⟨mapping, member, own, -⟩ := reaches _ rfl
    exact unmapped mapping member own

end BumpinHost.Kernel
