import BumpinHost.Gpu.ScanBuffer

/-!
# One pump iteration

Registration of the tracer's buffers, the write pointer as the pump reports it,
and the frame: the main ring is scanned from where the last frame stopped, the
system command buffer after it, and the read pointer is written back.
-/

namespace BumpinHost.Gpu

open Memory

variable {Guest : Type}

def registerRingBuffer (m : Machine Guest) (physAddr sizeLog2Raw : Word) : Machine Guest :=
  { m with
    ringBufferBase := physAddr
    ringBufferSize := (1 : Word) <<< (sizeLog2Raw + 3).toNat
    lastParsedOffset := 0
    frameCounter := 0 }

/-- Only the first registration has an effect. -/
def registerSystemCommandBuffer (m : Machine Guest) (addr size : Word) : Machine Guest :=
  if m.systemCmdBufAddr ≠ 0 then
    m
  else
    { m with systemCmdBufAddr := addr, systemCmdBufSize := size, systemCmdBufLastOffset := 0 }

def hasRingBuffer (m : Machine Guest) : Bool := m.ringBufferBase != 0

def observeWritePointer (m : Machine Guest) (dwordIndex : Word) : Machine Guest :=
  if m.wptrObserved ∧ dwordIndex = m.lastWptrDwords then
    m
  else
    { m with lastWptrDwords := dwordIndex, wptrObserved := true }

/-- How far a frame scans the ring, and whether the write pointer is behind. -/
structure ScanPlan where
  scanBound : Word
  wrapPending : Bool
  wrapTargetBytes : Word
deriving DecidableEq, Repr

def scanPlan (m : Machine Guest) : ScanPlan :=
  let wptrBytes := m.lastWptrDwords.toNat * 4
  if m.wptrObserved then
    if m.lastParsedOffset.toNat ≤ wptrBytes ∧ wptrBytes ≤ m.ringBufferSize.toNat then
      ⟨BitVec.ofNat 32 wptrBytes, false, 0⟩
    else if wptrBytes < m.lastParsedOffset.toNat then
      ⟨m.ringBufferSize, true, BitVec.ofNat 32 wptrBytes⟩
    else
      ⟨m.ringBufferSize, false, 0⟩
  else
    ⟨m.ringBufferSize, false, 0⟩

def beginFrame (m : Machine Guest) : Machine Guest :=
  { m with frameCounter := m.frameCounter + 1, vblankCounter := m.vblankCounter + 1 }

/-- A frame that found nothing in the tail follows the write pointer to offset 0. -/
def followsWrap (plan : ScanPlan) (startOffset newOffset : Word) : Bool :=
  plan.wrapPending && newOffset == startOffset

theorem followsWrap_iff {plan : ScanPlan} {startOffset newOffset : Word} :
    followsWrap plan startOffset newOffset = true ↔
      plan.wrapPending = true ∧ newOffset = startOffset := by
  rw [followsWrap, Bool.and_eq_true, beq_iff_eq]

theorem not_followsWrap {plan : ScanPlan} (stays : ¬ plan.wrapPending = true)
    (startOffset newOffset : Word) : ¬ followsWrap plan startOffset newOffset = true :=
  fun follows => stays (followsWrap_iff.mp follows).1

def finishRing (m : Machine Guest) (newOffset : Word) : Machine Guest :=
  { m with lastParsedOffset := newOffset }

def writeReadPointer (m : Machine Guest) (newOffset : Word) : Machine Guest :=
  if m.rptrWriteBackAddr ≠ 0 then
    { m with mem := storeU32 m.mem m.rptrWriteBackAddr (newOffset / 4) }
  else
    m

section Frame

variable (env : Env Guest)

def scanRing (fuel : Nat) (m : Machine Guest) : Option (ScanOutcome Guest) :=
  let plan := scanPlan m
  (scanBuffer env fuel m m.ringBufferBase m.lastParsedOffset plan.scanBound 0).bind fun tail =>
    if followsWrap plan m.lastParsedOffset tail.offset then
      (scanBuffer env fuel tail.machine tail.machine.ringBufferBase 0
        plan.wrapTargetBytes 0).map fun head =>
          { head with trace := tail.trace ++ head.trace }
    else
      some tail

def scanSystemCommandBuffer (fuel : Nat) (m : Machine Guest) :
    Option (Machine Guest × ScanTrace) :=
  if m.systemCmdBufAddr ≠ 0 then
    (scanBuffer env fuel m m.systemCmdBufAddr m.systemCmdBufLastOffset
      m.systemCmdBufSize 0).map fun outcome =>
        ({ outcome.machine with systemCmdBufLastOffset := outcome.offset }, outcome.trace)
  else
    some (m, [])

def scanAndTraceFrame (fuel : Nat) (m : Machine Guest) : Option (Machine Guest × ScanTrace) :=
  (scanRing env fuel (beginFrame m)).bind fun ring =>
    (scanSystemCommandBuffer env fuel (finishRing ring.machine ring.offset)).map fun system =>
      (writeReadPointer system.1 ring.offset, ring.trace ++ system.2)

/-- What the pump thread does each millisecond with the write pointer it reads. -/
def pumpIteration (fuel : Nat) (m : Machine Guest) (writePointer : Word) :
    Option (Machine Guest × ScanTrace) :=
  if hasRingBuffer m then
    scanAndTraceFrame env fuel (observeWritePointer m writePointer)
  else
    some (m, [])

end Frame

/-- A registered ring of at least eight bytes has the size its logarithm says. -/
theorem registerRingBuffer_size (m : Machine Guest) (physAddr : Word) {sizeLog2Raw : Word}
    (fits : sizeLog2Raw.toNat + 3 < 32) :
    (registerRingBuffer m physAddr sizeLog2Raw).ringBufferSize.toNat =
      2 ^ (sizeLog2Raw.toNat + 3) := by
  have shift : (sizeLog2Raw + 3).toNat = sizeLog2Raw.toNat + 3 := by bv_omega
  have small : 2 ^ (sizeLog2Raw.toNat + 3) < 2 ^ 32 := Nat.pow_lt_pow_right (by decide) fits
  have one : (1 : Word).toNat = 1 := rfl
  simp only [registerRingBuffer, shift, BitVec.toNat_shiftLeft, one, Nat.shiftLeft_eq]
  rw [one_mul, Nat.mod_eq_of_lt small]

/-- An unchanged pointer is only not reported again. -/
theorem observeWritePointer_eq (m : Machine Guest) (dwordIndex : Word) :
    observeWritePointer m dwordIndex =
      { m with lastWptrDwords := dwordIndex, wptrObserved := true } := by
  unfold observeWritePointer
  split_ifs with unchanged
  · obtain ⟨observed, rfl⟩ := unchanged
    rw [← observed]
  · rfl

end BumpinHost.Gpu
