import BumpinHost.Kernel.Threads
import BumpinHost.Library.BumpAllocator

/-!
# Guest allocations

Four entry points take guest memory from one counter under the state lock.  The
command buffer is taken once; whether it has been is tested before the lock is
entered and again inside it, and its address is read again afterwards.
-/

namespace BumpinHost.Kernel

open BumpAllocator (Range Separated Between alignUp)

def kBumpAllocatorGap : Word := 0x1000

/-- Allocation granularity of `NtAllocateVirtualMemory`. -/
def kAllocGranularity : Word := 0x10000

def kMinGranularity : Word := 0x10000
def kStackSize : Word := 0x40000
def kTlsBlockSize : Word := 0x10000
def kTlsBlockCenter : Word := kTlsBlockSize / 2
def kSystemCommandBufferSize : Word := 65536

/-- Where `g_bumpAllocatorNext` starts. -/
def bumpAllocatorStart : Word := 0xA0000000

/-- A reserved block of guest memory. -/
structure Allocation where
  address : Word
  size : Word
deriving DecidableEq, Repr

def Allocation.range (allocation : Allocation) : Range :=
  ⟨allocation.address.toNat, allocation.size.toNat⟩

/-- Arguments of `ExCreateThread` that reach the context of the new thread. -/
structure ThreadStart where
  xApiThreadStartup : Word
  startAddress : Word
  startContext : BitVec 64
deriving DecidableEq, Repr

/-- Registers the new thread starts with. -/
structure ThreadContext where
  r1 : BitVec 64
  r13 : BitVec 64
  r3 : BitVec 64
  r4 : BitVec 64
deriving DecidableEq, Repr

structure CreatedThread where
  stack : Allocation
  tlsBlock : Allocation
  threadId : Word
  tlsSlotIndex : Word
  entryAddress : Word
  context : ThreadContext
deriving DecidableEq, Repr

/-- Where a thread is in `VdGetSystemCommandBuffer`. -/
inductive VdCall
  | outside
  | locking
  | storing
  | returning
deriving DecidableEq, Repr

structure AllocatorState where
  bumpAllocatorNext : Word
  nextThreadId : Word
  nextTlsSlotIndex : Word
  systemCommandBufferAddr : Word
  vdCalls : ThreadId → VdCall

namespace AllocatorState

def initial : AllocatorState := ⟨bumpAllocatorStart, 1, 1, 0, fun _ => .outside⟩

variable (s : AllocatorState)

def setVdCall (t : ThreadId) (call : VdCall) : AllocatorState :=
  { s with vdCalls := Function.update s.vdCalls t call }

/-- What `NtAllocateVirtualMemory` stores through its two pointers. -/
def ntAllocateVirtualMemory (regionSize : Word) : Allocation × AllocatorState :=
  let alignedSize := (regionSize + (kAllocGranularity - 1)) &&& ~~~(kAllocGranularity - 1)
  (⟨s.bumpAllocatorNext, alignedSize⟩,
    { s with bumpAllocatorNext := s.bumpAllocatorNext + (alignedSize + kBumpAllocatorGap) })

/-- Zero sizes and sizes beyond the console's memory fall back to the granularity. -/
def physicalSize (requestedSize : Word) : Word :=
  let alignedSize := (requestedSize + 0xFFFF) &&& ~~~0xFFFF
  if alignedSize < kMinGranularity ∨ alignedSize > 0x20000000 then kMinGranularity
  else alignedSize

def physicalAddress (alignment : Word) : Word :=
  if alignment ≠ 0 ∧ alignment &&& (alignment - 1) = 0 ∧ alignment > 1 then
    (s.bumpAllocatorNext + alignment - 1) &&& ~~~(alignment - 1)
  else s.bumpAllocatorNext

def mmAllocatePhysicalMemoryEx (requestedSize alignment : Word) :
    Allocation × AllocatorState :=
  let alignedSize := physicalSize requestedSize
  let allocatedAddress := s.physicalAddress alignment
  (⟨allocatedAddress, alignedSize⟩,
    { s with bumpAllocatorNext := allocatedAddress + alignedSize + kBumpAllocatorGap })

def exCreateThread (start : ThreadStart) : CreatedThread × AllocatorState :=
  let stackBase := s.bumpAllocatorNext
  let tlsBlockBase := stackBase + (kStackSize + kBumpAllocatorGap)
  let viaTrampoline := start.xApiThreadStartup ≠ 0
  let context : ThreadContext :=
    { r1 := (stackBase + kStackSize - 0x10).setWidth 64
      r13 := (tlsBlockBase + kTlsBlockCenter).setWidth 64
      r3 := if viaTrampoline then start.startAddress.setWidth 64 else start.startContext
      r4 := if viaTrampoline then start.startContext else 0 }
  let created : CreatedThread :=
    { stack := ⟨stackBase, kStackSize⟩
      tlsBlock := ⟨tlsBlockBase, kTlsBlockSize⟩
      threadId := s.nextThreadId
      tlsSlotIndex := (s.nextTlsSlotIndex - 1) % 5 + 1
      entryAddress := if viaTrampoline then start.xApiThreadStartup else start.startAddress
      context := context }
  (created,
    { s with
      bumpAllocatorNext := tlsBlockBase + (kTlsBlockSize + kBumpAllocatorGap)
      nextThreadId := s.nextThreadId + 1
      nextTlsSlotIndex := s.nextTlsSlotIndex + 1 })

/-- The locked part of `VdGetSystemCommandBuffer`. -/
def registerSystemCommandBuffer : Option Allocation × AllocatorState :=
  if s.systemCommandBufferAddr = 0 then
    (some ⟨s.bumpAllocatorNext, kSystemCommandBufferSize⟩,
      { s with
        systemCommandBufferAddr := s.bumpAllocatorNext
        bumpAllocatorNext :=
          s.bumpAllocatorNext + (kSystemCommandBufferSize + kBumpAllocatorGap) })
  else (none, s)

end AllocatorState

inductive AllocatorLabel
  | ntAllocateVirtualMemory (t : ThreadId) (regionSize : Word) (result : Allocation)
  | mmAllocatePhysicalMemoryEx (t : ThreadId) (requestedSize alignment : Word)
      (result : Allocation)
  | exCreateThread (t : ThreadId) (start : ThreadStart) (created : CreatedThread)
  | vdTest (t : ThreadId)
  | vdRegister (t : ThreadId) (registered : Option Allocation)
  | vdStore (t : ThreadId) (stored : Option Word)
  | vdReturn (t : ThreadId) (returned : Word)
deriving DecidableEq, Repr

inductive AllocatorStep (s : AllocatorState) : AllocatorLabel → AllocatorState → Prop
  | ntAllocateVirtualMemory (t : ThreadId) (regionSize : Word) :
      s.vdCalls t = .outside →
      AllocatorStep s
        (.ntAllocateVirtualMemory t regionSize (s.ntAllocateVirtualMemory regionSize).1)
        (s.ntAllocateVirtualMemory regionSize).2
  | mmAllocatePhysicalMemoryEx (t : ThreadId) (requestedSize alignment : Word) :
      s.vdCalls t = .outside →
      AllocatorStep s
        (.mmAllocatePhysicalMemoryEx t requestedSize alignment
          (s.mmAllocatePhysicalMemoryEx requestedSize alignment).1)
        (s.mmAllocatePhysicalMemoryEx requestedSize alignment).2
  | exCreateThread (t : ThreadId) (start : ThreadStart) :
      s.vdCalls t = .outside →
      AllocatorStep s (.exCreateThread t start (s.exCreateThread start).1)
        (s.exCreateThread start).2
  /-- The test that is made without the lock. -/
  | vdTest (t : ThreadId) :
      s.vdCalls t = .outside →
      AllocatorStep s (.vdTest t)
        (s.setVdCall t (if s.systemCommandBufferAddr = 0 then .locking else .storing))
  | vdRegister (t : ThreadId) :
      s.vdCalls t = .locking →
      AllocatorStep s (.vdRegister t s.registerSystemCommandBuffer.1)
        (s.registerSystemCommandBuffer.2.setVdCall t .storing)
  | vdStore (t : ThreadId) (addrOutPtr : Word) :
      s.vdCalls t = .storing →
      AllocatorStep s
        (.vdStore t (if addrOutPtr ≠ 0 then some s.systemCommandBufferAddr else none))
        (s.setVdCall t .returning)
  | vdReturn (t : ThreadId) :
      s.vdCalls t = .returning →
      AllocatorStep s (.vdReturn t s.systemCommandBufferAddr) (s.setVdCall t .outside)

def allocatorSystem : Transition.System AllocatorState AllocatorLabel where
  init := (· = .initial)
  step := AllocatorStep

namespace AllocatorLabel

/-- Ranges that a step reserves, in the order it takes them. -/
def reserved : AllocatorLabel → List Range
  | ntAllocateVirtualMemory _ _ result => [result.range]
  | mmAllocatePhysicalMemoryEx _ _ _ result => [result.range]
  | exCreateThread _ _ created => [created.stack.range, created.tlsBlock.range]
  | vdRegister _ (some registered) => [registered.range]
  | _ => []

/-- Ranges that a step reserves for the command buffer. -/
def registeredBuffers : AllocatorLabel → List Range
  | vdRegister _ (some registered) => [registered.range]
  | _ => []

/-- Command buffers that a step hands to its caller. -/
def returnedBuffers : AllocatorLabel → List Range
  | vdStore _ (some stored) => [⟨stored.toNat, kSystemCommandBufferSize.toNat⟩]
  | vdReturn _ returned => [⟨returned.toNat, kSystemCommandBufferSize.toNat⟩]
  | _ => []

/-- The size of a physical allocation over unbounded integers. -/
def unboundedPhysicalSize (requestedSize : Nat) : Nat :=
  let alignedSize := alignUp 0x10000 requestedSize
  if alignedSize < 0x10000 ∨ alignedSize > 0x20000000 then 0x10000 else alignedSize

/-- The start of a physical allocation over unbounded integers. -/
def unboundedPhysicalAddress (counter alignment : Nat) : Nat :=
  if alignment.isPowerOfTwo then alignUp alignment counter else counter

/-- The counter after a step, over unbounded integers. -/
def advance (counter : Nat) : AllocatorLabel → Nat
  | ntAllocateVirtualMemory _ regionSize _ =>
      counter + alignUp 0x10000 regionSize.toNat + 0x1000
  | mmAllocatePhysicalMemoryEx _ requestedSize alignment _ =>
      unboundedPhysicalAddress counter alignment.toNat +
        unboundedPhysicalSize requestedSize.toNat + 0x1000
  | exCreateThread _ _ _ => counter + 0x40000 + 0x1000 + 0x10000 + 0x1000
  | vdRegister _ (some _) => counter + 65536 + 0x1000
  | _ => counter

/-- The requested alignment is honoured, and a thread starts inside its own memory. -/
def Honoured : AllocatorLabel → Prop
  | mmAllocatePhysicalMemoryEx _ _ alignment result =>
      alignment.toNat.isPowerOfTwo → alignment.toNat ∣ result.address.toNat
  | exCreateThread _ _ created =>
      created.context.r1.toNat ∈ created.stack.range.addresses ∧
        created.context.r13.toNat ∈ created.tlsBlock.range.addresses
  | _ => True

end AllocatorLabel

def reservedRanges (trace : List AllocatorLabel) : List Range :=
  trace.flatMap AllocatorLabel.reserved

/-- The allocator counter after a run, computed with unbounded integers. -/
def unboundedCounter (trace : List AllocatorLabel) : Nat :=
  trace.foldl AllocatorLabel.advance 0xA0000000

/-- What a run promises of the memory it reserved. -/
structure AllocationsSound (trace : List AllocatorLabel) : Prop where
  disjoint : (reservedRanges trace).Pairwise fun first second =>
    Disjoint first.addresses second.addresses
  separated : Separated kBumpAllocatorGap.toNat (reservedRanges trace)
  aboveStart : ∀ range ∈ reservedRanges trace, 0xA0000000 ≤ range.start
  honoured : ∀ label ∈ trace, label.Honoured
  /-- Every call hands out the only range there is. -/
  oneCommandBuffer : ∀ returned ∈ trace.flatMap AllocatorLabel.returnedBuffers,
    trace.flatMap AllocatorLabel.registeredBuffers = [returned]

namespace AllocatorState

open AllocatorLabel (unboundedPhysicalSize unboundedPhysicalAddress)

theorem toNat_roundUp (size : Word) :
    ((size + 0xFFFF) &&& ~~~0xFFFF).toNat =
      (size.toNat + 65535) % 2 ^ 32 / 65536 * 65536 := by
  have rounded := BumpAllocator.toNat_and_not_mask (size + 0xFFFF)
    (show (0x10000 : Word).toNat = 2 ^ 16 from rfl)
  rw [BitVec.toNat_add] at rounded
  exact rounded

theorem toNat_physicalSize (requestedSize : Word) :
    (physicalSize requestedSize).toNat = unboundedPhysicalSize requestedSize.toNat := by
  have rounded := toNat_roundUp requestedSize
  have bound := requestedSize.isLt
  simp only [physicalSize, unboundedPhysicalSize, kMinGranularity, alignUp, gt_iff_lt,
    BitVec.lt_def, rounded, BitVec.reduceToNat]
  -- a size that overflows while it is rounded is beyond the limit over integers
  split_ifs <;> simp only [rounded, BitVec.reduceToNat] <;> omega

theorem isPowerOfTwo_iff (alignment : Word) :
    alignment.toNat.isPowerOfTwo ↔ alignment ≠ 0 ∧ alignment &&& (alignment - 1) = 0 := by
  rw [← Nat.ne_zero_and_sub_one_eq_zero_iff_isPowerOfTwo]
  have zero : alignment = 0 ↔ alignment.toNat = 0 := BitVec.toNat_inj.symm
  rw [ne_eq, ne_eq, zero]
  apply and_congr_right
  intro nonzero
  have one : (alignment - 1).toNat = alignment.toNat - 1 := by
    apply BitVec.toNat_sub_of_le
    rw [BitVec.le_def]
    exact Nat.one_le_iff_ne_zero.mpr nonzero
  rw [← one, ← BitVec.toNat_and, ← BitVec.toNat_inj]
  rfl

variable {s : AllocatorState} {counter : Nat}

/-- The address of a physical allocation wraps as the rounded counter does. -/
theorem toNat_physicalAddress_mod (s : AllocatorState) (alignment : Word) :
    (s.physicalAddress alignment).toNat =
      unboundedPhysicalAddress s.bumpAllocatorNext.toNat alignment.toNat % 2 ^ 32 := by
  have bound := s.bumpAllocatorNext.isLt
  unfold unboundedPhysicalAddress physicalAddress
  by_cases power : alignment.toNat.isPowerOfTwo
  · obtain ⟨nonzero, masked⟩ := (isPowerOfTwo_iff alignment).mp power
    rw [if_pos power]
    by_cases above : alignment > 1
    · rw [if_pos ⟨nonzero, masked, above⟩]
      obtain ⟨bits, exponent⟩ := power
      exact BumpAllocator.toNat_alignUp_mod exponent
    · -- every address is a multiple of one
      have one : alignment.toNat = 1 := by
        rw [gt_iff_lt, BitVec.lt_def] at above
        have positive := Nat.pos_of_isPowerOfTwo power
        change ¬1 < alignment.toNat at above
        omega
      rw [if_neg (fun all => above all.2.2), one, alignUp, Nat.add_sub_cancel, Nat.div_one,
        Nat.mul_one, Nat.mod_eq_of_lt bound]
  · have general : ¬(alignment ≠ 0 ∧ alignment &&& (alignment - 1) = 0 ∧ alignment > 1) :=
      fun all => power ((isPowerOfTwo_iff alignment).mpr ⟨all.1, all.2.1⟩)
    rw [if_neg general, if_neg power, Nat.mod_eq_of_lt bound]

theorem unboundedPhysicalAddress_mod (counter : Nat) (alignment : Word) :
    unboundedPhysicalAddress (counter % 2 ^ 32) alignment.toNat % 2 ^ 32 =
      unboundedPhysicalAddress counter alignment.toNat % 2 ^ 32 := by
  unfold unboundedPhysicalAddress
  by_cases power : alignment.toNat.isPowerOfTwo
  · have positive := Nat.pos_of_isPowerOfTwo power
    have smaller := alignment.isLt
    rw [if_pos power, if_pos power]
    obtain ⟨bits, exponent⟩ := power
    rw [exponent] at smaller positive ⊢
    apply BumpAllocator.alignUp_mod positive
    exact Nat.pow_dvd_pow 2 ((Nat.pow_lt_pow_iff_right (by decide)).mp smaller).le
  · rw [if_neg power, if_neg power, Nat.mod_mod]

theorem ntAllocateVirtualMemory_counter (t : ThreadId) (regionSize : Word)
    (next : s.bumpAllocatorNext.toNat = counter % 2 ^ 32) :
    (s.ntAllocateVirtualMemory regionSize).2.bumpAllocatorNext.toNat =
      AllocatorLabel.advance counter
        (.ntAllocateVirtualMemory t regionSize (s.ntAllocateVirtualMemory regionSize).1) %
          2 ^ 32 := by
  have mask : kAllocGranularity - 1 = 0xFFFF := by decide
  have gap : kBumpAllocatorGap.toNat = 0x1000 := rfl
  have bound := regionSize.isLt
  rw [ntAllocateVirtualMemory, mask, BitVec.toNat_add, BitVec.toNat_add, toNat_roundUp, next, gap]
  change _ = (counter + alignUp 0x10000 regionSize.toNat + 0x1000) % 2 ^ 32
  unfold alignUp
  omega

theorem mmAllocatePhysicalMemoryEx_counter (t : ThreadId) (requestedSize alignment : Word)
    (next : s.bumpAllocatorNext.toNat = counter % 2 ^ 32) :
    (s.mmAllocatePhysicalMemoryEx requestedSize alignment).2.bumpAllocatorNext.toNat =
      AllocatorLabel.advance counter
        (.mmAllocatePhysicalMemoryEx t requestedSize alignment
          (s.mmAllocatePhysicalMemoryEx requestedSize alignment).1) % 2 ^ 32 := by
  have gap : kBumpAllocatorGap.toNat = 0x1000 := rfl
  have start : (s.physicalAddress alignment).toNat =
      unboundedPhysicalAddress counter alignment.toNat % 2 ^ 32 := by
    rw [toNat_physicalAddress_mod, next, unboundedPhysicalAddress_mod]
  rw [mmAllocatePhysicalMemoryEx, BitVec.toNat_add, BitVec.toNat_add, toNat_physicalSize, start,
    gap, Nat.mod_add_mod, Nat.add_assoc, Nat.mod_add_mod, ← Nat.add_assoc]
  rfl

theorem exCreateThread_counter (t : ThreadId) (start : ThreadStart)
    (next : s.bumpAllocatorNext.toNat = counter % 2 ^ 32) :
    (s.exCreateThread start).2.bumpAllocatorNext.toNat =
      AllocatorLabel.advance counter (.exCreateThread t start (s.exCreateThread start).1) %
        2 ^ 32 := by
  have stackRoom : (kStackSize + kBumpAllocatorGap).toNat = 0x41000 := by decide
  have tlsRoom : (kTlsBlockSize + kBumpAllocatorGap).toNat = 0x11000 := by decide
  have total : counter + 0x41000 + 0x11000 =
      counter + 0x40000 + 0x1000 + 0x10000 + 0x1000 := by omega
  rw [exCreateThread, BitVec.toNat_add, BitVec.toNat_add, next, stackRoom, tlsRoom,
    Nat.mod_add_mod, Nat.add_assoc, Nat.mod_add_mod, ← Nat.add_assoc, total]
  rfl

theorem registerSystemCommandBuffer_counter (t : ThreadId)
    (next : s.bumpAllocatorNext.toNat = counter % 2 ^ 32) :
    s.registerSystemCommandBuffer.2.bumpAllocatorNext.toNat =
      AllocatorLabel.advance counter (.vdRegister t s.registerSystemCommandBuffer.1) %
        2 ^ 32 := by
  have room : (kSystemCommandBufferSize + kBumpAllocatorGap).toNat = 65536 + 0x1000 := by decide
  unfold registerSystemCommandBuffer
  by_cases untaken : s.systemCommandBufferAddr = 0
  · rw [if_pos untaken, BitVec.toNat_add, room, next, Nat.mod_add_mod]
    rfl
  · rw [if_neg untaken]
    exact next

end AllocatorState

/-- The counter after a step is the one over unbounded integers, wrapped. -/
theorem AllocatorStep.counter {before after : AllocatorState} {label : AllocatorLabel}
    {counter : Nat} (step : AllocatorStep before label after)
    (next : before.bumpAllocatorNext.toNat = counter % 2 ^ 32) :
    after.bumpAllocatorNext.toNat = label.advance counter % 2 ^ 32 := by
  cases step with
  | ntAllocateVirtualMemory t regionSize =>
      exact AllocatorState.ntAllocateVirtualMemory_counter t regionSize next
  | mmAllocatePhysicalMemoryEx t requestedSize alignment =>
      exact AllocatorState.mmAllocatePhysicalMemoryEx_counter t requestedSize alignment next
  | exCreateThread t start => exact AllocatorState.exCreateThread_counter t start next
  | vdTest => exact next
  | vdRegister t => exact AllocatorState.registerSystemCommandBuffer_counter t next
  | vdStore => exact next
  | vdReturn => exact next

/-- A step moves the counter and takes its ranges in between. -/
structure Accounts (counter : Nat) (label : AllocatorLabel) (next : Word) : Prop where
  next : next.toNat = label.advance counter % 2 ^ 32
  separated : Separated kBumpAllocatorGap.toNat label.reserved
  between : Between kBumpAllocatorGap.toNat counter (label.advance counter) label.reserved
  honoured : label.Honoured

theorem le_unboundedPhysicalAddress (counter alignment : Nat) :
    counter ≤ AllocatorLabel.unboundedPhysicalAddress counter alignment := by
  unfold AllocatorLabel.unboundedPhysicalAddress
  split
  · rename_i power
    exact BumpAllocator.le_alignUp (Nat.pos_of_isPowerOfTwo power) counter
  · exact le_rfl

theorem AllocatorLabel.le_advance (counter : Nat) (label : AllocatorLabel) :
    counter ≤ label.advance counter := by
  have start := le_unboundedPhysicalAddress counter
  rcases label with _ | ⟨_, _, alignment⟩ | _ | _ | ⟨_, _ | _⟩ | _ | _ <;>
    simp only [advance] <;> (try have := start alignment.toNat) <;> omega

namespace AllocatorState

variable {s : AllocatorState} {counter : Nat}

theorem ntAllocateVirtualMemory_accounts (t : ThreadId) (regionSize : Word)
    (next : s.bumpAllocatorNext.toNat = counter % 2 ^ 32)
    (bounded : counter + alignUp 0x10000 regionSize.toNat + 0x1000 ≤ 2 ^ 32) :
    Accounts counter
      (.ntAllocateVirtualMemory t regionSize (s.ntAllocateVirtualMemory regionSize).1)
      (s.ntAllocateVirtualMemory regionSize).2.bumpAllocatorNext := by
  have size : (s.ntAllocateVirtualMemory regionSize).1.size.toNat =
      alignUp 0x10000 regionSize.toNat := by
    have mask : kAllocGranularity - 1 = 0xFFFF := by decide
    rw [ntAllocateVirtualMemory, mask, toNat_roundUp]
    unfold alignUp at bounded ⊢
    omega
  have address : (s.ntAllocateVirtualMemory regionSize).1.address.toNat = counter := by
    change s.bumpAllocatorNext.toNat = counter
    omega
  constructor
  · exact ntAllocateVirtualMemory_counter t regionSize next
  · exact Separated.single ..
  · apply Between.single
    · exact address.ge
    · simp only [Allocation.range, Range.stop, address, size, AllocatorLabel.advance]
      exact le_rfl
  · trivial

theorem mmAllocatePhysicalMemoryEx_accounts (t : ThreadId) (requestedSize alignment : Word)
    (next : s.bumpAllocatorNext.toNat = counter % 2 ^ 32)
    (bounded : AllocatorLabel.unboundedPhysicalAddress counter alignment.toNat +
      AllocatorLabel.unboundedPhysicalSize requestedSize.toNat + 0x1000 ≤ 2 ^ 32) :
    Accounts counter
      (.mmAllocatePhysicalMemoryEx t requestedSize alignment
        (s.mmAllocatePhysicalMemoryEx requestedSize alignment).1)
      (s.mmAllocatePhysicalMemoryEx requestedSize alignment).2.bumpAllocatorNext := by
  have start := le_unboundedPhysicalAddress counter alignment.toNat
  have size : (s.mmAllocatePhysicalMemoryEx requestedSize alignment).1.size.toNat =
      AllocatorLabel.unboundedPhysicalSize requestedSize.toNat :=
    toNat_physicalSize requestedSize
  have address : (s.mmAllocatePhysicalMemoryEx requestedSize alignment).1.address.toNat =
      AllocatorLabel.unboundedPhysicalAddress counter alignment.toNat := by
    change (s.physicalAddress alignment).toNat = _
    rw [toNat_physicalAddress_mod, next, unboundedPhysicalAddress_mod,
      Nat.mod_eq_of_lt (by omega)]
  constructor
  · exact mmAllocatePhysicalMemoryEx_counter t requestedSize alignment next
  · exact Separated.single ..
  · apply Between.single
    · exact start.trans address.ge
    · simp only [Allocation.range, Range.stop, address, size, AllocatorLabel.advance]
      exact le_rfl
  · intro power
    rw [address, AllocatorLabel.unboundedPhysicalAddress, if_pos power]
    exact BumpAllocator.dvd_alignUp ..

theorem exCreateThread_accounts (t : ThreadId) (start : ThreadStart)
    (next : s.bumpAllocatorNext.toNat = counter % 2 ^ 32)
    (bounded : counter + 0x40000 + 0x1000 + 0x10000 + 0x1000 ≤ 2 ^ 32) :
    Accounts counter (.exCreateThread t start (s.exCreateThread start).1)
      (s.exCreateThread start).2.bumpAllocatorNext := by
  have stackBase : s.bumpAllocatorNext.toNat = counter := by omega
  have tlsBlockBase : (s.bumpAllocatorNext + (kStackSize + kBumpAllocatorGap)).toNat =
      counter + 0x41000 := by
    rw [BitVec.toNat_add, stackBase]
    simp only [kStackSize, kBumpAllocatorGap, BitVec.reduceAdd, BitVec.reduceToNat]
    omega
  constructor
  · exact exCreateThread_counter t start next
  · apply List.pairwise_pair.mpr
    simp only [exCreateThread, Allocation.range, Range.stop, stackBase, tlsBlockBase]
    simp only [kStackSize, kBumpAllocatorGap, BitVec.reduceToNat]
    omega
  · intro range member
    simp only [AllocatorLabel.advance]
    rcases List.mem_pair.mp member with rfl | rfl
    · simp only [exCreateThread, Allocation.range, Range.stop, stackBase]
      simp only [kStackSize, kBumpAllocatorGap, BitVec.reduceToNat]
      omega
    · simp only [exCreateThread, Allocation.range, Range.stop, tlsBlockBase]
      simp only [kTlsBlockSize, kBumpAllocatorGap, BitVec.reduceToNat]
      omega
  · constructor
    · have r1 : ((s.bumpAllocatorNext + kStackSize - 0x10).setWidth 64).toNat =
          counter + 0x3FFF0 := by
        rw [BitVec.toNat_setWidth, BitVec.toNat_sub, BitVec.toNat_add, stackBase]
        simp only [kStackSize, BitVec.reduceToNat]
        omega
      simp only [exCreateThread, Allocation.range, Range.addresses, Range.stop, Set.mem_Ico,
        r1, stackBase]
      simp only [kStackSize, BitVec.reduceToNat]
      omega
    · have r13 : ((s.bumpAllocatorNext + (kStackSize + kBumpAllocatorGap) +
          kTlsBlockCenter).setWidth 64).toNat = counter + 0x49000 := by
        rw [BitVec.toNat_setWidth, BitVec.toNat_add, tlsBlockBase,
          show kTlsBlockCenter.toNat = 0x8000 from by decide]
        omega
      simp only [exCreateThread, Allocation.range, Range.addresses, Range.stop, Set.mem_Ico,
        r13, tlsBlockBase]
      simp only [kTlsBlockSize, BitVec.reduceToNat]
      omega

theorem registerSystemCommandBuffer_accounts (t : ThreadId)
    (next : s.bumpAllocatorNext.toNat = counter % 2 ^ 32)
    (untaken : s.systemCommandBufferAddr = 0)
    (bounded : counter + 65536 + 0x1000 ≤ 2 ^ 32) :
    Accounts counter (.vdRegister t s.registerSystemCommandBuffer.1)
      s.registerSystemCommandBuffer.2.bumpAllocatorNext := by
  have address : s.bumpAllocatorNext.toNat = counter := by omega
  have moved := registerSystemCommandBuffer_counter t next
  rw [registerSystemCommandBuffer, if_pos untaken] at moved ⊢
  constructor
  · exact moved
  · exact Separated.single ..
  · apply Between.single
    · exact address.ge
    · simp only [Allocation.range, Range.stop, address]
      exact le_rfl
  · trivial

end AllocatorState

theorem Accounts.unmoved {counter : Nat} {label : AllocatorLabel} {next : Word}
    (same : next.toNat = counter % 2 ^ 32) (stays : label.advance counter = counter)
    (none : label.reserved = []) (honoured : label.Honoured) : Accounts counter label next := by
  constructor
  · rw [stays]
    exact same
  · rw [none]
    exact List.Pairwise.nil
  · rw [none]
    intro range member
    cases member
  · exact honoured

theorem AllocatorStep.accounts {before after : AllocatorState} {label : AllocatorLabel}
    {counter : Nat} (step : AllocatorStep before label after)
    (next : before.bumpAllocatorNext.toNat = counter % 2 ^ 32)
    (bounded : label.advance counter ≤ 2 ^ 32) :
    Accounts counter label after.bumpAllocatorNext := by
  cases step with
  | ntAllocateVirtualMemory t regionSize =>
      exact AllocatorState.ntAllocateVirtualMemory_accounts t regionSize next bounded
  | mmAllocatePhysicalMemoryEx t requestedSize alignment =>
      exact AllocatorState.mmAllocatePhysicalMemoryEx_accounts t requestedSize alignment next
        bounded
  | exCreateThread t start => exact AllocatorState.exCreateThread_accounts t start next bounded
  | vdTest => exact .unmoved next rfl rfl trivial
  | vdRegister t =>
      by_cases untaken : before.systemCommandBufferAddr = 0
      · apply AllocatorState.registerSystemCommandBuffer_accounts t next untaken
        rw [AllocatorState.registerSystemCommandBuffer, if_pos untaken] at bounded
        exact bounded
      · rw [AllocatorState.registerSystemCommandBuffer, if_neg untaken]
        exact .unmoved next rfl rfl trivial
  | vdStore t addrOutPtr =>
      apply Accounts.unmoved next
      · rfl
      · rfl
      · trivial
  | vdReturn => exact .unmoved next rfl rfl trivial

def AllocatorState.commandBuffer (s : AllocatorState) : Range :=
  ⟨s.systemCommandBufferAddr.toNat, kSystemCommandBufferSize.toNat⟩

/-- What the other entry points leave alone. -/
structure AllocatorState.SameBuffer (before after : AllocatorState) : Prop where
  address : after.systemCommandBufferAddr = before.systemCommandBufferAddr
  vdCalls : after.vdCalls = before.vdCalls

namespace AllocatorState

/-- A state that differs in its counters only. -/
theorem SameBuffer.of_counters (s : AllocatorState) (next threadId tlsSlotIndex : Word) :
    SameBuffer s ⟨next, threadId, tlsSlotIndex, s.systemCommandBufferAddr, s.vdCalls⟩ :=
  ⟨rfl, rfl⟩

theorem ntAllocateVirtualMemory_frame (s : AllocatorState) (regionSize : Word) :
    SameBuffer s (s.ntAllocateVirtualMemory regionSize).2 :=
  .of_counters s _ _ _

theorem mmAllocatePhysicalMemoryEx_frame (s : AllocatorState) (requestedSize alignment : Word) :
    SameBuffer s (s.mmAllocatePhysicalMemoryEx requestedSize alignment).2 :=
  .of_counters s _ _ _

theorem exCreateThread_frame (s : AllocatorState) (start : ThreadStart) :
    SameBuffer s (s.exCreateThread start).2 :=
  .of_counters s _ _ _

end AllocatorState

/-- Until the command buffer is taken nobody is past the lock; then it stays. -/
inductive CommandBufferAgrees (past : List AllocatorLabel) (s : AllocatorState) : Prop
  | untaken (address : s.systemCommandBufferAddr = 0)
      (registered : past.flatMap AllocatorLabel.registeredBuffers = [])
      (returned : past.flatMap AllocatorLabel.returnedBuffers = [])
      (waiting : ∀ t, s.vdCalls t = .outside ∨ s.vdCalls t = .locking)
  | taken (address : s.systemCommandBufferAddr ≠ 0)
      (registered : past.flatMap AllocatorLabel.registeredBuffers = [s.commandBuffer])
      (returned : ∀ range ∈ past.flatMap AllocatorLabel.returnedBuffers,
        range = s.commandBuffer)

namespace CommandBufferAgrees

variable {past : List AllocatorLabel} {before after : AllocatorState} {label : AllocatorLabel}

theorem address_ne_zero (agrees : CommandBufferAgrees past before) {t : ThreadId}
    (inside : before.vdCalls t ≠ .outside) (passed : before.vdCalls t ≠ .locking) :
    before.systemCommandBufferAddr ≠ 0 := by
  cases agrees with
  | untaken _ _ _ waiting =>
      rcases waiting t with isOutside | isLocking
      · exact absurd isOutside inside
      · exact absurd isLocking passed
  | taken address => exact address

/-- A step that registers nothing and returns nothing but the buffer. -/
theorem keep (agrees : CommandBufferAgrees past before)
    (address : after.systemCommandBufferAddr = before.systemCommandBufferAddr)
    (registered : label.registeredBuffers = [])
    (returned : ∀ range ∈ label.returnedBuffers,
      before.systemCommandBufferAddr ≠ 0 ∧ range = before.commandBuffer)
    (waiting : before.systemCommandBufferAddr = 0 → ∀ t,
      after.vdCalls t = before.vdCalls t ∨ after.vdCalls t = .locking) :
    CommandBufferAgrees (past ++ [label]) after := by
  have allRegistered : (past ++ [label]).flatMap AllocatorLabel.registeredBuffers =
      past.flatMap AllocatorLabel.registeredBuffers := by
    rw [List.flatMap_append, List.flatMap_singleton, registered, List.append_nil]
  have allReturned : (past ++ [label]).flatMap AllocatorLabel.returnedBuffers =
      past.flatMap AllocatorLabel.returnedBuffers ++ label.returnedBuffers := by
    rw [List.flatMap_append, List.flatMap_singleton]
  cases agrees with
  | untaken zero noneRegistered noneReturned outside =>
      have nothing : label.returnedBuffers = [] :=
        List.eq_nil_iff_forall_not_mem.mpr fun range member =>
          (returned range member).1 zero
      apply CommandBufferAgrees.untaken
      · rw [address, zero]
      · rw [allRegistered, noneRegistered]
      · rw [allReturned, noneReturned, nothing, List.append_nil]
      · intro t
        rcases waiting zero t with same | isLocking
        · rw [same]
          exact outside t
        · exact Or.inr isLocking
  | taken nonzero oneRegistered oneReturned =>
      have same : after.commandBuffer = before.commandBuffer := by
        rw [AllocatorState.commandBuffer, address]
        rfl
      apply CommandBufferAgrees.taken
      · rw [address]
        exact nonzero
      · rw [allRegistered, oneRegistered, same]
      · rw [allReturned, same]
        intro range member
        rcases List.mem_append.mp member with earlier | now
        · exact oneReturned range earlier
        · exact (returned range now).2

theorem other (agrees : CommandBufferAgrees past before) (same : before.SameBuffer after)
    (registered : label.registeredBuffers = []) (returned : label.returnedBuffers = []) :
    CommandBufferAgrees (past ++ [label]) after := by
  apply agrees.keep same.address registered
  · rw [returned]
    intro range member
    cases member
  · intro _ t
    rw [same.vdCalls]
    exact Or.inl rfl

theorem register (agrees : CommandBufferAgrees past before) (t : ThreadId)
    (room : before.systemCommandBufferAddr = 0 → before.bumpAllocatorNext ≠ 0) :
    CommandBufferAgrees (past ++ [.vdRegister t before.registerSystemCommandBuffer.1])
      (before.registerSystemCommandBuffer.2.setVdCall t .storing) := by
  by_cases zero : before.systemCommandBufferAddr = 0
  · rw [AllocatorState.registerSystemCommandBuffer, if_pos zero]
    cases agrees with
    | untaken _ registered returned =>
        apply CommandBufferAgrees.taken
        · exact room zero
        · rw [List.flatMap_append, registered]
          rfl
        · rw [List.flatMap_append, returned]
          intro range member
          cases member
    | taken address => exact absurd zero address
  · rw [AllocatorState.registerSystemCommandBuffer, if_neg zero]
    apply agrees.keep
    · rfl
    · rfl
    · intro range member
      cases member
    · intro isZero
      exact absurd isZero zero

theorem step (agrees : CommandBufferAgrees past before)
    (step : AllocatorStep before label after)
    (room : ∀ t, label = .vdRegister t before.registerSystemCommandBuffer.1 →
      before.systemCommandBufferAddr = 0 → before.bumpAllocatorNext ≠ 0) :
    CommandBufferAgrees (past ++ [label]) after := by
  cases step with
  | ntAllocateVirtualMemory =>
      apply agrees.other
      · apply AllocatorState.ntAllocateVirtualMemory_frame
      · rfl
      · rfl
  | mmAllocatePhysicalMemoryEx =>
      apply agrees.other
      · apply AllocatorState.mmAllocatePhysicalMemoryEx_frame
      · rfl
      · rfl
  | exCreateThread =>
      apply agrees.other
      · apply AllocatorState.exCreateThread_frame
      · rfl
      · rfl
  | vdTest t =>
      apply agrees.keep
      · rfl
      · rfl
      · intro range member
        cases member
      · intro zero u
        rw [if_pos zero]
        by_cases same : u = t
        · subst same
          exact Or.inr (Function.update_self ..)
        · exact Or.inl (Function.update_of_ne same ..)
  | vdRegister t => exact agrees.register t (room t rfl)
  | vdStore t addrOutPtr isStoring =>
      have nonzero := agrees.address_ne_zero (t := t) (by simp [isStoring]) (by simp [isStoring])
      apply agrees.keep
      · rfl
      · rfl
      · intro range member
        refine ⟨nonzero, ?_⟩
        by_cases null : addrOutPtr ≠ 0
        · rw [if_pos null] at member
          exact List.mem_singleton.mp member
        · rw [if_neg null] at member
          cases member
      · intro zero
        exact absurd zero nonzero
  | vdReturn t isReturning =>
      have nonzero := agrees.address_ne_zero (t := t) (by simp [isReturning])
        (by simp [isReturning])
      apply agrees.keep
      · rfl
      · rfl
      · intro range member
        exact ⟨nonzero, List.mem_singleton.mp member⟩
      · intro zero
        exact absurd zero nonzero

end CommandBufferAgrees

theorem unboundedCounter_append (past : List AllocatorLabel) (label : AllocatorLabel) :
    unboundedCounter (past ++ [label]) = label.advance (unboundedCounter past) := by
  simp [unboundedCounter]

theorem le_unboundedCounter (trace : List AllocatorLabel) :
    0xA0000000 ≤ unboundedCounter trace := by
  induction trace using List.reverseRecOn with
  | nil => exact le_rfl
  | append_singleton past label ih =>
      rw [unboundedCounter_append]
      exact ih.trans (label.le_advance _)

/-- The state after a run whose unbounded counter has not passed the top of memory. -/
structure Allocated (past : List AllocatorLabel) (s : AllocatorState) : Prop where
  next : s.bumpAllocatorNext.toNat = unboundedCounter past % 2 ^ 32
  separated : Separated kBumpAllocatorGap.toNat (reservedRanges past)
  between : Between kBumpAllocatorGap.toNat 0xA0000000 (unboundedCounter past)
    (reservedRanges past)
  honoured : ∀ label ∈ past, label.Honoured
  commandBuffer : CommandBufferAgrees past s

namespace Allocated

variable {past : List AllocatorLabel} {before after : AllocatorState} {label : AllocatorLabel}

theorem initial : Allocated [] .initial := by
  constructor
  · rfl
  · exact List.Pairwise.nil
  · intro range member
    cases member
  · intro label member
    cases member
  · apply CommandBufferAgrees.untaken
    · rfl
    · rfl
    · rfl
    · intro t
      exact Or.inl rfl

theorem step (allocated : Allocated past before) (step : AllocatorStep before label after)
    (bounded : unboundedCounter (past ++ [label]) ≤ 2 ^ 32) :
    Allocated (past ++ [label]) after := by
  rw [unboundedCounter_append] at bounded
  have accounts := step.accounts allocated.next bounded
  have ranges : reservedRanges (past ++ [label]) = reservedRanges past ++ label.reserved := by
    simp [reservedRanges]
  constructor
  · rw [unboundedCounter_append]
    exact accounts.next
  · rw [ranges]
    exact allocated.separated.append allocated.between accounts.separated accounts.between
  · rw [ranges, unboundedCounter_append]
    apply Between.append _ _ allocated.between accounts.between
    · exact le_unboundedCounter past
    · exact label.le_advance _
  · intro other member
    rcases List.mem_append.mp member with earlier | now
    · exact allocated.honoured other earlier
    · rw [List.mem_singleton.mp now]
      exact accounts.honoured
  · apply allocated.commandBuffer.step step
    intro t registers untaken wrapped
    -- a counter that has wrapped to zero has no room left for the buffer
    have start := le_unboundedCounter past
    have next := allocated.next
    rw [registers, AllocatorState.registerSystemCommandBuffer, if_pos untaken] at bounded
    simp only [AllocatorLabel.advance] at bounded
    rw [wrapped] at next
    change 0 = _ at next
    omega

theorem of_history {trace : List AllocatorLabel} {final : AllocatorState}
    (history : allocatorSystem.History trace final)
    (bounded : unboundedCounter trace ≤ 2 ^ 32) : Allocated trace final := by
  apply history.invariant (fun past s => unboundedCounter past ≤ 2 ^ 32 → Allocated past s) _ _
    bounded
  · rintro start rfl _
    exact initial
  · intro past before label after _ holds step bounded
    have earlier := label.le_advance (unboundedCounter past)
    rw [← unboundedCounter_append] at earlier
    exact (holds (earlier.trans bounded)).step step bounded

end Allocated

/-- While the counter over unbounded integers has not passed the top of memory, no two
reserved ranges meet. -/
theorem allocations_sound {trace : List AllocatorLabel} {final : AllocatorState}
    (history : allocatorSystem.History trace final)
    (bounded : unboundedCounter trace ≤ 2 ^ 32) : AllocationsSound trace := by
  have allocated := Allocated.of_history history bounded
  constructor
  · exact allocated.separated.disjoint
  · exact allocated.separated
  · intro range member
    exact (allocated.between range member).1
  · exact allocated.honoured
  · intro returned member
    cases allocated.commandBuffer with
    | untaken _ _ none =>
        rw [none] at member
        cases member
    | taken _ registered same =>
        rw [same returned member]
        exact registered

/-- Two threads pass the unlocked test before either takes the command buffer. -/
def racingBufferTrace : List AllocatorLabel :=
  [.mmAllocatePhysicalMemoryEx 1 0x20001 0x40000 ⟨0xA0000000, 0x30000⟩,
    .vdTest 1, .vdTest 2,
    .vdRegister 2 (some ⟨0xA0031000, 0x10000⟩), .vdRegister 1 none,
    .vdStore 1 (some 0xA0031000)]

theorem allocations_sound_racingBuffer : AllocationsSound racingBufferTrace := by
  let allocated := (AllocatorState.initial.mmAllocatePhysicalMemoryEx 0x20001 0x40000).2
  let tested := (allocated.setVdCall 1 .locking).setVdCall 2 .locking
  let registered := tested.registerSystemCommandBuffer.2.setVdCall 2 .storing
  let passed := registered.setVdCall 1 .storing
  have allocate : AllocatorStep .initial (.mmAllocatePhysicalMemoryEx 1 0x20001 0x40000
      ⟨0xA0000000, 0x30000⟩) allocated :=
    .mmAllocatePhysicalMemoryEx 1 0x20001 0x40000 rfl
  have first : AllocatorStep allocated (.vdTest 1) (allocated.setVdCall 1 .locking) :=
    .vdTest 1 rfl
  have second : AllocatorStep (allocated.setVdCall 1 .locking) (.vdTest 2) tested :=
    .vdTest 2 rfl
  have register : AllocatorStep tested (.vdRegister 2 (some ⟨0xA0031000, 0x10000⟩))
      registered := .vdRegister 2 rfl
  have pass : AllocatorStep registered (.vdRegister 1 none) passed := .vdRegister 1 rfl
  have store : AllocatorStep passed (.vdStore 1 (some 0xA0031000))
      (passed.setVdCall 1 .returning) := .vdStore 1 1 rfl
  have start : allocatorSystem.Run .initial [] .initial := .refl
  have run := (((((start.tail allocate).tail first).tail second).tail register).tail pass).tail
    store
  exact allocations_sound ⟨_, rfl, run⟩ (by decide)

end BumpinHost.Kernel
