import BumpinHost.Kernel.Allocator
import BumpinHost.Library.ByteMemory

/-!
# The private blocks of threads

`ExCreateThread` takes a block for the small data of a new thread under the state lock.
It fills the block, stores the number of the thread's queue slot in it and reports to its
caller after the lock is released, so that other threads run in between.
-/

namespace BumpinHost.Kernel

open BumpAllocator (Range Separated)
open Memory

/-- What r13 points to in the main thread. -/
def smallDataBase : Word := 0x82670000

/-- Where a block has the number of the queue slot. -/
def slotOffset : Word := kTlsBlockCenter + 268

/-- The window around the small data of the main thread, copied to a new block. -/
def seedBlock (mem : Memory) (tlsBlockBase : Word) : Memory := fun position =>
  if tlsBlockBase.toNat ≤ position ∧ position < tlsBlockBase.toNat + kTlsBlockSize.toNat then
    mem ((smallDataBase - kTlsBlockCenter).toNat + (position - tlsBlockBase.toNat))
  else mem position

def numberBlock (mem : Memory) (tlsBlockBase tlsSlotIndex : Word) : Memory :=
  Function.update mem (tlsBlockBase + kTlsBlockCenter + 268).toNat (tlsSlotIndex.setWidth 8)

/-- The stores through the two pointers of the caller. -/
def reportThread (mem : Memory) (handleOutPtr threadIdOutPtr handle threadId : Word) : Memory :=
  let reported := if handleOutPtr ≠ 0 then storeU32 mem handleOutPtr handle else mem
  if threadIdOutPtr ≠ 0 then storeU32 reported threadIdOutPtr threadId else reported

structure BlockState where
  allocator : AllocatorState
  memory : Memory
  /-- The threads in the order in which they were given their blocks. -/
  creations : List CreatedThread
  seeded : Nat → Bool

inductive BlockLabel
  | allocator (label : AllocatorLabel)
  | seed (index : Nat)
  | number (index : Nat)
  | report (index : Nat) (handleOutPtr threadIdOutPtr : Word)
  | store (position : Nat)
deriving DecidableEq, Repr

/-- The thread that a step of the allocator creates. -/
def AllocatorLabel.creation : AllocatorLabel → Option CreatedThread
  | .exCreateThread _ _ created => some created
  | _ => none

/-- Steps of the threads that create threads, in the order of the code, and stores of guest
code. -/
inductive BlockStep (s : BlockState) : BlockLabel → BlockState → Prop
  | allocator {label : AllocatorLabel} {after : AllocatorState} :
      AllocatorStep s.allocator label after →
      BlockStep s (.allocator label)
        { s with allocator := after, creations := s.creations ++ label.creation.toList }
  | seed {index : Nat} {created : CreatedThread} :
      s.creations[index]? = some created → s.seeded index = false →
      BlockStep s (.seed index)
        { s with
          memory := seedBlock s.memory created.tlsBlock.address
          seeded := Function.update s.seeded index true }
  | number {index : Nat} {created : CreatedThread} :
      s.creations[index]? = some created → s.seeded index = true →
      BlockStep s (.number index)
        { s with
          memory := numberBlock s.memory created.tlsBlock.address created.tlsSlotIndex }
  | report {index : Nat} {created : CreatedThread} (handleOutPtr threadIdOutPtr handle : Word) :
      s.creations[index]? = some created →
      BlockStep s (.report index handleOutPtr threadIdOutPtr)
        { s with
          memory :=
            reportThread s.memory handleOutPtr threadIdOutPtr handle created.threadId }
  | store (position : Nat) (value : Byte) :
      BlockStep s (.store position)
        { s with memory := Function.update s.memory position value }

def blockSystem : Transition.System BlockState BlockLabel where
  init s := s.allocator = .initial ∧ s.creations = [] ∧ s.seeded = fun _ => false
  step := BlockStep

namespace BlockLabel

def allocation : BlockLabel → Option AllocatorLabel
  | .allocator label => some label
  | _ => none

/-- The word at a pointer, unless it is null, does not have the byte. -/
def PointerSpares (pointer : Word) (position : Nat) : Prop :=
  pointer ≠ 0 → position < pointer.toNat ∨ pointer.toNat + 4 ≤ position

/-- What guest code and the pointers it passes leave alone. -/
def Spares (position : Nat) : BlockLabel → Prop
  | .store other => other ≠ position
  | .report _ handleOutPtr threadIdOutPtr =>
      PointerSpares handleOutPtr position ∧ PointerSpares threadIdOutPtr position
  | _ => True

end BlockLabel

/-- The steps of a run that are the allocator's. -/
def allocations (trace : List BlockLabel) : List AllocatorLabel :=
  trace.filterMap BlockLabel.allocation

section Writes

variable {mem : Memory} {tlsBlockBase : Word} {position : Nat}

theorem seedBlock_of_outside
    (outside : position ∉ (⟨tlsBlockBase.toNat, kTlsBlockSize.toNat⟩ : Range).addresses) :
    seedBlock mem tlsBlockBase position = mem position :=
  if_neg outside

theorem seedBlock_inside {offset : Nat} (inside : offset < kTlsBlockSize.toNat) :
    seedBlock mem tlsBlockBase (tlsBlockBase.toNat + offset) =
      mem ((smallDataBase - kTlsBlockCenter).toNat + offset) := by
  rw [seedBlock, if_pos (by omega), Nat.add_sub_cancel_left]

theorem toNat_kTlsBlockSize : kTlsBlockSize.toNat = 0x10000 := by decide

theorem toNat_slotOffset : slotOffset.toNat = 33036 := by decide

theorem kTlsBlockCenter_add : kTlsBlockCenter + 268 = slotOffset := by decide

/-- In a block below the top of memory the slot number is at its offset. -/
theorem toNat_slotAddress (below : tlsBlockBase.toNat + kTlsBlockSize.toNat ≤ 2 ^ 32) :
    (tlsBlockBase + kTlsBlockCenter + 268).toNat = tlsBlockBase.toNat + slotOffset.toNat := by
  rw [toNat_kTlsBlockSize] at below
  rw [BitVec.add_assoc, kTlsBlockCenter_add, BitVec.toNat_add, toNat_slotOffset]
  omega

theorem storeU32_spares {pointer value : Word} (hasPointer : pointer ≠ 0)
    (spares : BlockLabel.PointerSpares pointer position) :
    storeU32 mem pointer value position = mem position :=
  storeU32_of_outside mem (spares hasPointer)

theorem reportThread_spares {handleOutPtr threadIdOutPtr handle threadId : Word}
    (spares : BlockLabel.PointerSpares handleOutPtr position ∧
      BlockLabel.PointerSpares threadIdOutPtr position) :
    reportThread mem handleOutPtr threadIdOutPtr handle threadId position = mem position := by
  have first : (if handleOutPtr ≠ 0 then storeU32 mem handleOutPtr handle else mem) position =
      mem position := by
    split
    case isTrue hasHandle => exact storeU32_spares hasHandle spares.1
    case isFalse => rfl
  unfold reportThread
  by_cases hasThreadId : threadIdOutPtr ≠ 0
  · rw [if_pos hasThreadId, storeU32_spares hasThreadId spares.2, first]
  · rw [if_neg hasThreadId, first]

end Writes

/-- What a run without memory tells of the threads it has created. -/
structure Created (trace : List AllocatorLabel) (s : BlockState) : Prop where
  history : allocatorSystem.History trace s.allocator
  nextSlot : s.allocator.nextTlsSlotIndex = BitVec.ofNat 32 (s.creations.length + 1)
  creation : ∀ index created, s.creations[index]? = some created →
    created.tlsBlock.size = kTlsBlockSize ∧
      created.context.r13 = (created.tlsBlock.address + kTlsBlockCenter).setWidth 64 ∧
      created.tlsSlotIndex = BitVec.ofNat 32 index % 5 + 1
  reserved : (s.creations.map fun created => created.tlsBlock.range).Sublist
    (reservedRanges trace)
  room : 0xA0000000 + s.creations.length ≤ unboundedCounter trace

/-- A step of the allocator creates a thread, or leaves the next slot's number as it is. -/
theorem AllocatorStep.creation_cases {s after : AllocatorState} {label : AllocatorLabel}
    (step : AllocatorStep s label after) :
    (∃ t start, label = .exCreateThread t start (s.exCreateThread start).1 ∧
        after = (s.exCreateThread start).2) ∨
      label.creation = none ∧ after.nextTlsSlotIndex = s.nextTlsSlotIndex := by
  -- With the fields of `s` named, the kernel does not compare whole states.
  obtain ⟨bumpAllocatorNext, nextThreadId, nextTlsSlotIndex, systemCommandBufferAddr, vdCalls⟩ := s
  cases step with
  | exCreateThread t start => exact .inl ⟨t, start, rfl, rfl⟩
  | vdRegister t =>
      refine .inr ⟨rfl, ?_⟩
      unfold AllocatorState.registerSystemCommandBuffer AllocatorState.setVdCall
      split <;> rfl
  | ntAllocateVirtualMemory | mmAllocatePhysicalMemoryEx | vdTest | vdStore | vdReturn =>
      exact .inr ⟨rfl, rfl⟩

namespace Created

variable {trace : List AllocatorLabel} {s : BlockState}

theorem initial (isInitial : blockSystem.init s) : Created [] s := by
  obtain ⟨allocator, creations, -⟩ := isInitial
  constructor
  · rw [allocator]
    exact ⟨_, rfl, .refl⟩
  · rw [allocator, creations]
    rfl
  · intro index created found
    rw [creations] at found
    cases found
  · rw [creations]
    exact List.Sublist.refl _
  · rw [creations]
    exact le_rfl

/-- A step of the allocator that creates no thread. -/
theorem other {label : AllocatorLabel} {after : AllocatorState} (created : Created trace s)
    (step : AllocatorStep s.allocator label after) (none : label.creation = none)
    (same : after.nextTlsSlotIndex = s.allocator.nextTlsSlotIndex) :
    Created (trace ++ [label])
      { s with allocator := after, creations := s.creations ++ label.creation.toList } := by
  obtain ⟨start, isInit, run⟩ := created.history
  rw [none]
  simp only [Option.toList_none, List.append_nil]
  constructor
  · exact ⟨start, isInit, run.tail step⟩
  · exact same.trans created.nextSlot
  · exact created.creation
  · apply created.reserved.trans
    simp only [reservedRanges, List.flatMap_append]
    exact List.sublist_append_left ..
  · rw [unboundedCounter_append]
    exact created.room.trans (label.le_advance _)

theorem exCreateThread {t : ThreadId} {start : ThreadStart} (created : Created trace s)
    (step : AllocatorStep s.allocator
      (.exCreateThread t start (s.allocator.exCreateThread start).1)
      (s.allocator.exCreateThread start).2) :
    Created (trace ++ [.exCreateThread t start (s.allocator.exCreateThread start).1])
      { s with
        allocator := (s.allocator.exCreateThread start).2
        creations := s.creations ++ [(s.allocator.exCreateThread start).1] } := by
  obtain ⟨first, isInit, run⟩ := created.history
  constructor
  · exact ⟨first, isInit, run.tail step⟩
  · show s.allocator.nextTlsSlotIndex + 1 = _
    rw [created.nextSlot, List.length_append, List.length_singleton,
      BitVec.ofNat_add (s.creations.length + 1) 1]
    rfl
  · intro index other found
    simp only [List.getElem?_append] at found
    split at found
    case isTrue => exact created.creation index other found
    case isFalse atEnd =>
        obtain ⟨position, isOther⟩ := List.getElem?_eq_some_iff.mp found
        have last : index = s.creations.length := by
          simp only [List.length_singleton] at position
          omega
        subst last
        obtain rfl : (s.allocator.exCreateThread start).1 = other := by
          simpa using found
        refine ⟨rfl, rfl, ?_⟩
        show (s.allocator.nextTlsSlotIndex - 1) % 5 + 1 = _
        have previous : s.allocator.nextTlsSlotIndex - 1 =
            BitVec.ofNat 32 s.creations.length := by
          rw [created.nextSlot, BitVec.ofNat_add]
          exact BitVec.add_sub_cancel ..
        rw [previous]
  · rw [reservedRanges, List.flatMap_append, List.map_append]
    refine created.reserved.append ?_
    simp [AllocatorLabel.reserved]
  · have room := created.room
    rw [unboundedCounter_append]
    simp only [AllocatorLabel.advance, List.length_append, List.length_singleton]
    omega

theorem step {before after : BlockState} {label : BlockLabel} (created : Created trace before)
    (step : BlockStep before label after) :
    Created (trace ++ label.allocation.toList) after := by
  cases step with
  | @allocator label next step =>
      simp only [BlockLabel.allocation, Option.toList_some]
      obtain ⟨t, start, rfl, rfl⟩ | ⟨none, same⟩ := step.creation_cases
      · exact created.exCreateThread step
      · exact created.other step none same
  | seed | number | report | store =>
      simp only [BlockLabel.allocation, Option.toList_none, List.append_nil]
      exact ⟨created.history, created.nextSlot, created.creation, created.reserved, created.room⟩

theorem of_history {trace : List BlockLabel} (history : blockSystem.History trace s) :
    Created (allocations trace) s := by
  refine history.invariant (fun trace s => Created (allocations trace) s) initial ?_
  intro past before label after _ created step
  have last : allocations [label] = label.allocation.toList := by
    rw [allocations]
    cases seen : label.allocation <;> simp [seen]
  rw [allocations, List.filterMap_append, ← allocations, ← allocations, last]
  exact created.step step

/-- Two blocks have no byte in common. -/
theorem blocks_apart (created : Created trace s) (bounded : unboundedCounter trace ≤ 2 ^ 32)
    {first second : Nat} {one other : CreatedThread}
    (foundOne : s.creations[first]? = some one)
    (foundOther : s.creations[second]? = some other) (different : first ≠ second) :
    Disjoint one.tlsBlock.range.addresses other.tlsBlock.range.addresses := by
  have allocated := Allocated.of_history created.history bounded
  have apart := allocated.separated.disjoint.sublist created.reserved
  rw [List.pairwise_map, List.pairwise_iff_getElem] at apart
  obtain ⟨firstBound, rfl⟩ := List.getElem?_eq_some_iff.mp foundOne
  obtain ⟨secondBound, rfl⟩ := List.getElem?_eq_some_iff.mp foundOther
  rcases Nat.lt_or_gt_of_ne different with earlier | later
  · exact apart first second firstBound secondBound earlier
  · exact (apart second first secondBound firstBound later).symm

theorem block_below (created : Created trace s) (bounded : unboundedCounter trace ≤ 2 ^ 32)
    {index : Nat} {one : CreatedThread}
    (found : s.creations[index]? = some one) :
    one.tlsBlock.address.toNat + kTlsBlockSize.toNat ≤ 2 ^ 32 := by
  have allocated := Allocated.of_history created.history bounded
  have member : one.tlsBlock.range ∈ reservedRanges trace := by
    apply created.reserved.mem
    exact List.mem_map_of_mem (List.mem_of_getElem? found)
  have stop := (allocated.between _ member).2
  rw [Range.stop, Allocation.range, (created.creation index one found).1] at stop
  simp only at stop
  omega

end Created

namespace AllocatorLabel

theorem le_foldl_advance (counter : Nat) (trace : List AllocatorLabel) :
    counter ≤ trace.foldl advance counter := by
  induction trace generalizing counter with
  | nil => exact le_rfl
  | cons label rest ih => exact (label.le_advance counter).trans (ih _)

end AllocatorLabel

theorem unboundedCounter_le_append (past future : List AllocatorLabel) :
    unboundedCounter past ≤ unboundedCounter (past ++ future) := by
  unfold unboundedCounter
  rw [List.foldl_append]
  exact AllocatorLabel.le_foldl_advance ..

theorem allocations_append (past future : List BlockLabel) :
    allocations (past ++ future) = allocations past ++ allocations future :=
  List.filterMap_append ..

/-- The thread that was created at an index stays the same. -/
theorem BlockStep.creations_getElem? {before after : BlockState} {label : BlockLabel}
    {index : Nat} {created : CreatedThread} (step : BlockStep before label after)
    (found : before.creations[index]? = some created) :
    after.creations[index]? = some created := by
  cases step with
  | allocator => exact List.getElem?_append_left (List.getElem?_eq_some_iff.mp found).1 ▸ found
  | seed | number | report | store => exact found

theorem BlockStep.stays_seeded {before after : BlockState} {label : BlockLabel} {index : Nat}
    (step : BlockStep before label after) (seeded : before.seeded index = true) :
    after.seeded index = true := by
  cases step with
  | @seed other => by_cases same : index = other <;> simp [same, seeded]
  | allocator | number | report | store => exact seeded

section Block

variable {index offset : Nat} {created : CreatedThread}

theorem mem_block {address : Word} {offset : Nat} (inside : offset < kTlsBlockSize.toNat) :
    address.toNat + offset ∈
      (⟨address.toNat, kTlsBlockSize.toNat⟩ : Range).addresses :=
  ⟨Nat.le_add_right .., Nat.add_lt_add_left inside _⟩

/-- One step of anybody, seen from a byte of a block that has been seeded. -/
theorem BlockStep.blockByte {before after : BlockState} {label : BlockLabel}
    {trace : List AllocatorLabel} (step : BlockStep before label after)
    (threads : Created trace before) (bounded : unboundedCounter trace ≤ 2 ^ 32)
    (found : before.creations[index]? = some created) (seeded : before.seeded index = true)
    (inside : offset < kTlsBlockSize.toNat)
    (spares : label.Spares (created.tlsBlock.address.toNat + offset)) :
    after.memory (created.tlsBlock.address.toNat + offset) =
      if offset = slotOffset.toNat ∧ label = .number index then
        created.tlsSlotIndex.setWidth 8
      else before.memory (created.tlsBlock.address.toNat + offset) := by
  have size := (threads.creation index created found).1
  have own : created.tlsBlock.address.toNat + offset ∈ created.tlsBlock.range.addresses := by
    rw [Allocation.range, size]
    exact mem_block inside
  cases step with
  | allocator => rw [if_neg (by simp)]
  | @seed other seededThread foundOther unseeded =>
      have different : index ≠ other := by
        rintro rfl
        rw [seeded] at unseeded
        cases unseeded
      have apart := threads.blocks_apart bounded found foundOther different
      have sizeOther := (threads.creation other seededThread foundOther).1
      rw [if_neg (by simp)]
      apply seedBlock_of_outside
      rw [← sizeOther]
      exact Set.disjoint_left.mp apart own
  | @number other numbered foundOther isSeeded =>
      have below := threads.block_below bounded foundOther
      simp only [numberBlock, toNat_slotAddress below, Function.update_apply]
      by_cases same : index = other
      · subst same
        obtain rfl : created = numbered := Option.some.inj (found.symm.trans foundOther)
        simp
      · have apart := threads.blocks_apart bounded found foundOther same
        have sizeOther := (threads.creation other numbered foundOther).1
        have outside : created.tlsBlock.address.toNat + offset ≠
            numbered.tlsBlock.address.toNat + slotOffset.toNat := by
          intro meets
          refine Set.disjoint_left.mp apart own ?_
          rw [meets, Allocation.range, sizeOther]
          exact mem_block (by decide)
        rw [if_neg outside, if_neg (by simp [Ne.symm same])]
  | report => rw [if_neg (by simp)]; exact reportThread_spares spares
  | store other =>
      rw [if_neg (by simp)]
      exact Function.update_of_ne (Ne.symm spares) ..

theorem creations_run {s final : BlockState} {future : List BlockLabel}
    (run : blockSystem.Run s future final) (found : s.creations[index]? = some created) :
    final.creations[index]? = some created :=
  run.invariant (fun _ s => s.creations[index]? = some created) found
    fun _ found step => BlockStep.creations_getElem? step found

theorem seeded_run {s final : BlockState} {future : List BlockLabel}
    (run : blockSystem.Run s future final) (seeded : s.seeded index = true) :
    final.seeded index = true :=
  run.invariant (fun _ s => s.seeded index = true) seeded
    fun _ seeded step => BlockStep.stays_seeded step seeded

/-- A run after the block has been seeded. -/
theorem block_run {past future : List BlockLabel} {s final : BlockState}
    (history : blockSystem.History past s) (run : blockSystem.Run s future final)
    (bounded : unboundedCounter (allocations (past ++ future)) ≤ 2 ^ 32)
    (found : s.creations[index]? = some created) (seeded : s.seeded index = true)
    (inside : offset < kTlsBlockSize.toNat)
    (spares : ∀ label ∈ future, label.Spares (created.tlsBlock.address.toNat + offset)) :
    final.memory (created.tlsBlock.address.toNat + offset) =
      if offset = slotOffset.toNat ∧ .number index ∈ future then
        created.tlsSlotIndex.setWidth 8
      else s.memory (created.tlsBlock.address.toNat + offset) := by
  induction run with
  | refl => simp
  | @tail earlier before after label run step ih =>
      rw [List.forall_mem_append, List.forall_mem_singleton] at spares
      rw [← List.append_assoc, allocations_append] at bounded
      have earlierBounded := (unboundedCounter_le_append _ _).trans bounded
      obtain ⟨start, isInit, first⟩ := history
      have threads := Created.of_history ⟨start, isInit, first.trans run⟩
      rw [BlockStep.blockByte step threads earlierBounded (creations_run run found)
        (seeded_run run seeded) inside spares.2, ih earlierBounded spares.1]
      simp only [List.mem_append, List.mem_singleton]
      by_cases slot : offset = slotOffset.toNat <;> by_cases now : label = .number index <;>
        by_cases before : .number index ∈ earlier <;> simp [slot, now, before, eq_comm]

end Block

/-- The slots 1 to 5, in turn. -/
theorem tlsSlotIndex_byte {index : Nat} (below : index < 2 ^ 32) :
    (BitVec.ofNat 32 index % 5 + 1).setWidth 8 = BitVec.ofNat 8 (index % 5 + 1) := by
  apply BitVec.eq_of_toNat_eq
  have slot : (BitVec.ofNat 32 index % 5).toNat = index % 5 := by
    rw [BitVec.toNat_umod, BitVec.toNat_ofNat, Nat.mod_eq_of_lt below]
    rfl
  have small : index % 5 < 5 := Nat.mod_lt _ (by decide)
  rw [BitVec.toNat_setWidth, BitVec.toNat_add, slot, BitVec.toNat_ofNat,
    show (1 : Word).toNat = 1 from rfl]
  omega

/-- Whatever other threads do between the steps of `ExCreateThread`, a block keeps what was
copied into it, except the number of the thread's queue slot: the n-th thread has slot
n mod 5 + 1.  The only bytes that change are those that guest code stores to itself. -/
theorem threadBlocks_private {past future : List BlockLabel} {index : Nat} {final : BlockState}
    {created : CreatedThread}
    (history : blockSystem.History (past ++ .seed index :: future) final)
    (bounded : unboundedCounter (allocations (past ++ .seed index :: future)) ≤ 2 ^ 32)
    (found : final.creations[index]? = some created) :
    created.context.r13.toNat = created.tlsBlock.address.toNat + kTlsBlockCenter.toNat ∧
      ∃ before, blockSystem.History past before ∧ ∀ offset < kTlsBlockSize.toNat,
        (∀ label ∈ future, label.Spares (created.tlsBlock.address.toNat + offset)) →
        final.memory (created.tlsBlock.address.toNat + offset) =
          if offset = slotOffset.toNat ∧ .number index ∈ future then
            BitVec.ofNat 8 (index % 5 + 1)
          else before.memory ((smallDataBase - kTlsBlockCenter).toNat + offset) := by
  have threads := Created.of_history history
  obtain ⟨-, r13, slot⟩ := threads.creation index created found
  have below := threads.block_below bounded found
  have few : index < 2 ^ 32 := by
    have created := (List.getElem?_eq_some_iff.mp found).1
    have room := threads.room
    omega
  constructor
  · have center : kTlsBlockCenter.toNat = 0x8000 := by decide
    rw [toNat_kTlsBlockSize] at below
    rw [r13, BitVec.toNat_setWidth, BitVec.toNat_add, center]
    omega
  obtain ⟨start, isInit, run⟩ := history
  obtain ⟨before, earlier, rest⟩ := run.split
  obtain ⟨after, step, later⟩ := rest.of_cons
  have seeding : blockSystem.History (past ++ [.seed index]) after :=
    ⟨start, isInit, earlier.tail step⟩
  refine ⟨before, ⟨start, isInit, earlier⟩, fun offset inside spares => ?_⟩
  generalize isSeed : BlockLabel.seed index = label at step
  cases step with
  | @seed other seededThread foundOther unseeded =>
      obtain rfl := BlockLabel.seed.inj isSeed
      rw [List.append_cons] at bounded
      obtain rfl : seededThread = created :=
        Option.some.inj ((creations_run later foundOther).symm.trans found)
      rw [block_run seeding later bounded foundOther (by simp) inside spares, slot,
        tlsSlotIndex_byte few]
      simp only [seedBlock_inside inside]
  | allocator | number | report | store => cases isSeed

/-- The first thread of two that are created at the same time. -/
def firstWorker : CreatedThread := (AllocatorState.initial.exCreateThread ⟨0, 0x82000000, 0⟩).1

/-- The second block is seeded before the first has its slot number. -/
theorem threadBlocks_private_racingCreations :
    ∃ final : BlockState,
      final.memory (firstWorker.tlsBlock.address.toNat + slotOffset.toNat) = 1 := by
  let start : ThreadStart := ⟨0, 0x82000000, 0⟩
  let one := AllocatorState.initial.exCreateThread start
  let two := one.2.exCreateThread start
  let booted : BlockState := ⟨.initial, fun _ => 0, [], fun _ => false⟩
  let created : BlockState := ⟨two.2, fun _ => 0, [one.1, two.1], fun _ => false⟩
  let past : List BlockLabel :=
    [.allocator (.exCreateThread 0 start one.1), .allocator (.exCreateThread 1 start two.1)]
  let future : List BlockLabel := [.seed 1, .number 0, .report 0 0x90000000 0]
  have first : blockSystem.Run booted [.allocator (.exCreateThread 0 start one.1)]
      ⟨one.2, fun _ => 0, [one.1], fun _ => false⟩ :=
    .single (BlockStep.allocator (AllocatorStep.exCreateThread 0 start rfl))
  have second : blockSystem.Run booted past created :=
    first.tail (BlockStep.allocator (AllocatorStep.exCreateThread 1 start rfl))
  let seeded : BlockState :=
    { created with
      memory := seedBlock created.memory one.1.tlsBlock.address
      seeded := Function.update created.seeded 0 true }
  let bothSeeded : BlockState :=
    { seeded with
      memory := seedBlock seeded.memory two.1.tlsBlock.address
      seeded := Function.update seeded.seeded 1 true }
  have seedFirst : blockSystem.step created (.seed 0) seeded :=
    @BlockStep.seed created 0 one.1 rfl rfl
  have seedSecond : blockSystem.step seeded (.seed 1) bothSeeded :=
    @BlockStep.seed seeded 1 two.1 rfl rfl
  have numberFirst := @BlockStep.number bothSeeded 0 one.1 rfl rfl
  have run := (((second.tail seedFirst).tail seedSecond).tail numberFirst).tail
    (BlockStep.report 0x90000000 0 0x1000 (rfl : [one.1, two.1][0]? = some one.1))
  have history : blockSystem.History (past ++ .seed 0 :: future) _ :=
    ⟨booted, ⟨rfl, rfl, rfl⟩, run⟩
  obtain ⟨-, before, -, held⟩ := threadBlocks_private history (by decide) (rfl : _ = some one.1)
  have slot := held slotOffset.toNat (by decide) (by
    have behind : (0x90000000 : Word).toNat + 4 ≤
        one.1.tlsBlock.address.toNat + slotOffset.toNat := by decide
    simp only [future, List.forall_mem_cons]
    exact ⟨trivial, trivial, ⟨fun _ => .inr behind, fun null => absurd rfl null⟩, by simp⟩)
  rw [if_pos ⟨rfl, by decide⟩] at slot
  exact ⟨_, slot⟩

end BumpinHost.Kernel
