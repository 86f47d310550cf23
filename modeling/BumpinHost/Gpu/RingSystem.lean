import BumpinHost.Gpu.Frame
import BumpinHost.Gpu.ScanRuns
import BumpinHost.Library.RecordStream
import BumpinHost.Library.Transition

/-!
# The producer and the pump

The producer writes packets into the ring and moves the write pointer; the pump
polls the pointer and scans.  A step of the pump is one step of the source: a
poll, a report, the decision how far to scan, one packet, the end of one scan, or
the write-back of the read pointer.  Other code of the process may run between
any two steps.
-/

namespace BumpinHost.Gpu

open Memory RecordStream

variable {Guest : Type}

def ringDwords (m : Machine Guest) : Nat := m.ringBufferSize.toNat / 4

def ringAddr (m : Machine Guest) (slot : Nat) : Word :=
  m.ringBufferBase + BitVec.ofNat 32 (4 * slot)

/-- The dword in a slot of the ring. -/
def ringDword (m : Machine Guest) (slot : Nat) : Word := loadU32 m.mem (ringAddr m slot)

/-- Header and payload as memory holds them. -/
def packetDwords (mem : Memory) (bufferAddr offsetBytes header : Word) : List Word :=
  (List.range ((packetBytes header).toNat / 4)).map fun k =>
    loadU32 mem (bufferAddr + offsetBytes + BitVec.ofNat 32 (4 * k))

/-- Ring memory and the registration of the ring are the same. -/
structure KeepsRing (before after : Machine Guest) : Prop where
  base : after.ringBufferBase = before.ringBufferBase
  size : after.ringBufferSize = before.ringBufferSize
  parsed : after.lastParsedOffset = before.lastParsedOffset
  pointer : after.lastWptrDwords = before.lastWptrDwords
  observed : after.wptrObserved = before.wptrObserved
  dwords : ∀ slot, slot < ringDwords before → ringDword after slot = ringDword before slot

inductive ScanStage
  /-- The scan a frame starts with. -/
  | tail (plan : ScanPlan) (startOffset : Word)
  /-- The scan from offset 0 after a wrap. -/
  | head
  | systemCommandBuffer (newOffset : Word)
deriving DecidableEq, Repr

inductive PumpPhase
  | idle
  | polled (dwordIndex : Word)
  | observed
  | scanning (stage : ScanStage) (bufferAddr offset size : Word)
  | returning (newOffset : Word)
deriving DecidableEq, Repr

structure RingState (Guest : Type) where
  machine : Machine Guest
  /-- The register the producer moves and the pump polls, in dwords. -/
  writePointer : Word
  phase : PumpPhase
  produced : List (List Word)
  /-- How many of the produced packets the write pointer covers. -/
  published : Nat
  executed : List (List Word)

/-- Dwords of the stream that the pump has executed. -/
def RingState.consumed (s : RingState Guest) : Nat := position s.produced s.executed.length

inductive RingLabel
  | write (slot : Nat) (value : Word)
  | append (packet : List Word)
  | publish (dwordIndex : Word)
  | otherCode
  | poll (dwordIndex : Word)
  | observe
  | begin
  | packet
  | stop
  | finish
deriving DecidableEq, Repr

/-- A packet as the scanner delimits packets. -/
structure IsRingPacket (packet : List Word) : Prop where
  nonempty : 0 < packet.length
  nonzero : packet[0] ≠ 0
  decodes : packetType packet[0] ≠ 1
  length : 4 * packet.length = (packetBytes packet[0]).toNat

/-- The pump goes on to the system command buffer, if there is one. -/
def afterRing (m : Machine Guest) (newOffset : Word) : PumpPhase :=
  if m.systemCmdBufAddr ≠ 0 then
    .scanning (.systemCommandBuffer newOffset) m.systemCmdBufAddr
      m.systemCmdBufLastOffset m.systemCmdBufSize
  else
    .returning newOffset

/-- What follows the scan of a stage that stopped at an offset. -/
def afterScan (m : Machine Guest) (stage : ScanStage) (offset : Word) :
    Machine Guest × PumpPhase :=
  match stage with
  | .tail plan startOffset =>
      if followsWrap plan startOffset offset then
        (m, .scanning .head m.ringBufferBase 0 plan.wrapTargetBytes)
      else
        (finishRing m offset, afterRing (finishRing m offset) offset)
  | .head => (finishRing m offset, afterRing (finishRing m offset) offset)
  | .systemCommandBuffer newOffset =>
      ({ m with systemCmdBufLastOffset := offset }, .returning newOffset)

def ScanStage.isRing : ScanStage → Bool
  | .systemCommandBuffer _ => false
  | _ => true

inductive RingStep (env : Env Guest) : RingState Guest → RingLabel → RingState Guest → Prop
  /-- A dword that no unconsumed packet occupies. -/
  | write {s : RingState Guest} {slot : Nat} {value : Word} :
      slot < ringDwords s.machine →
      (∀ index, s.consumed ≤ index → index < position s.produced s.produced.length →
        index % ringDwords s.machine ≠ slot) →
      RingStep env s (.write slot value)
        { s with machine :=
          { s.machine with mem := storeU32 s.machine.mem (ringAddr s.machine slot) value } }
  /-- A packet whose dwords have been written, wholly inside the ring. -/
  | append {s : RingState Guest} {packet : List Word} :
      IsRingPacket packet →
      position s.produced s.produced.length % ringDwords s.machine + packet.length ≤
        ringDwords s.machine →
      position s.produced s.produced.length + packet.length <
        s.consumed + ringDwords s.machine →
      (∀ k (indexLt : k < packet.length),
        ringDword s.machine
          (position s.produced s.produced.length % ringDwords s.machine + k) = packet[k]) →
      RingStep env s (.append packet) { s with produced := s.produced ++ [packet] }
  | publish {s : RingState Guest} {count : Nat} {dwordIndex : Word} :
      s.published ≤ count →
      count ≤ s.produced.length →
      dwordIndex.toNat = position s.produced count % ringDwords s.machine →
      RingStep env s (.publish dwordIndex)
        { s with published := count, writePointer := dwordIndex }
  | otherCode {s : RingState Guest} {m : Machine Guest} :
      KeepsRing s.machine m →
      RingStep env s .otherCode { s with machine := m }
  | poll {s : RingState Guest} :
      s.phase = .idle →
      hasRingBuffer s.machine = true →
      RingStep env s (.poll s.writePointer) { s with phase := .polled s.writePointer }
  | observe {s : RingState Guest} {dwordIndex : Word} :
      s.phase = .polled dwordIndex →
      RingStep env s .observe
        { s with machine := observeWritePointer s.machine dwordIndex, phase := .observed }
  | begin {s : RingState Guest} :
      s.phase = .observed →
      RingStep env s .begin
        { s with
          machine := beginFrame s.machine
          phase := .scanning
            (.tail (scanPlan (beginFrame s.machine)) s.machine.lastParsedOffset)
            s.machine.ringBufferBase s.machine.lastParsedOffset
            (scanPlan (beginFrame s.machine)).scanBound }
  | packet {s : RingState Guest} {stage : ScanStage} {bufferAddr offset size header : Word}
      {body : Machine Guest × ScanTrace} :
      s.phase = .scanning stage bufferAddr offset size →
      packetAt s.machine.mem bufferAddr offset size = some header →
      Executes env s.machine bufferAddr offset header 0 body →
      RingStep env s .packet
        { s with
          machine := body.1
          phase := .scanning stage bufferAddr (offset + packetBytes header) size
          executed :=
            if stage.isRing then
              s.executed ++ [packetDwords s.machine.mem bufferAddr offset header]
            else s.executed }
  | stop {s : RingState Guest} {stage : ScanStage} {bufferAddr offset size : Word} :
      s.phase = .scanning stage bufferAddr offset size →
      packetAt s.machine.mem bufferAddr offset size = none →
      RingStep env s .stop
        { s with
          machine := (afterScan s.machine stage offset).1
          phase := (afterScan s.machine stage offset).2 }
  | finish {s : RingState Guest} {newOffset : Word} :
      s.phase = .returning newOffset →
      RingStep env s .finish
        { s with machine := writeReadPointer s.machine newOffset, phase := .idle }

/-- A ring that has just been registered, with nothing produced. -/
def RingState.IsRegistered (s : RingState Guest) : Prop :=
  ∃ m physAddr sizeLog2Raw, sizeLog2Raw.toNat + 3 < 32 ∧
    s = ⟨registerRingBuffer m physAddr sizeLog2Raw, 0, .idle, [], 0, []⟩

def ringSystem (env : Env Guest) : Transition.System (RingState Guest) RingLabel where
  init := RingState.IsRegistered
  step := RingStep env

/-- The packet the pump executes next, with its callbacks, leaves the ring alone. -/
def PacketKeepsRing (env : Env Guest) (s : RingState Guest) : Prop :=
  ∀ stage bufferAddr offset size header body,
    s.phase = .scanning stage bufferAddr offset size →
    packetAt s.machine.mem bufferAddr offset size = some header →
    Executes env s.machine bufferAddr offset header 0 body → KeepsRing s.machine body.1

/-- The read pointer is not written back into the ring. -/
def WritesBackOutsideRing (m : Machine Guest) : Prop :=
  m.rptrWriteBackAddr = 0 ∨
    ∀ slot, slot < ringDwords m → Apart m.rptrWriteBackAddr (ringAddr m slot)

section Frames

variable {env : Env Guest}

/-- A scan of the source is a run of packet steps that ends where packets end. -/
theorem Scans.ringRun {m : Machine Guest} {bufferAddr offset size : Word}
    {outcome : ScanOutcome Guest} (scanned : Scans env m bufferAddr offset size 0 outcome)
    (stage : ScanStage) (s : RingState Guest) :
    ∃ labels executed,
      (ringSystem env).Run
        { s with machine := m, phase := .scanning stage bufferAddr offset size } labels
        { s with
          machine := outcome.machine
          phase := .scanning stage bufferAddr outcome.offset size
          executed := executed } ∧
      packetAt outcome.machine.mem bufferAddr outcome.offset size = none := by
  revert s
  refine scanned.rounds
    (motive := fun m offset outcome => ∀ s : RingState Guest, ∃ labels executed,
      (ringSystem env).Run
        { s with machine := m, phase := .scanning stage bufferAddr offset size } labels
        { s with
          machine := outcome.machine
          phase := .scanning stage bufferAddr outcome.offset size
          executed := executed } ∧
      packetAt outcome.machine.mem bufferAddr outcome.offset size = none) ?_ ?_
  · intro m offset stops s
    exact ⟨[], s.executed, .refl, stops⟩
  · intro m offset header body rest found executed _ ih s
    obtain ⟨labels, log, run, stops⟩ := ih
      { s with
        executed :=
          if stage.isRing then
            s.executed ++ [packetDwords m.mem bufferAddr offset header]
          else s.executed }
    exact ⟨_, log, run.head (.packet rfl found executed), stops⟩

/-- After the main ring, a frame scans the system command buffer and returns. -/
theorem scanSystemCommandBuffer_run {fuel : Nat} {m : Machine Guest} {newOffset : Word}
    {system : Machine Guest × ScanTrace}
    (scanned : scanSystemCommandBuffer env fuel m = some system) (s : RingState Guest) :
    ∃ labels executed, (ringSystem env).Run
      { s with machine := m, phase := afterRing m newOffset } labels
      { s with
        machine := writeReadPointer system.1 newOffset
        phase := .idle
        executed := executed } := by
  unfold scanSystemCommandBuffer at scanned
  unfold afterRing
  split_ifs at scanned ⊢
  · obtain ⟨outcome, scanEq, rfl⟩ := Option.map_eq_some_iff.mp scanned
    obtain ⟨labels, executed, run, stops⟩ :=
      Scans.ringRun ⟨fuel, scanEq⟩ (.systemCommandBuffer newOffset) s
    exact ⟨_, executed, (run.tail (.stop rfl stops)).tail (.finish rfl)⟩
  · obtain rfl := Option.some.inj scanned
    exact ⟨_, s.executed, .single (.finish rfl)⟩

/-- A frame of the source, undisturbed, is a run of the system. -/
theorem scanAndTraceFrame_run {fuel : Nat} {s : RingState Guest}
    {frame : Machine Guest × ScanTrace} (phaseEq : s.phase = .observed)
    (framed : scanAndTraceFrame env fuel s.machine = some frame) :
    ∃ labels executed, (ringSystem env).Run s labels
      { s with machine := frame.1, phase := .idle, executed := executed } := by
  obtain ⟨ring, ringEq, framed⟩ := Option.bind_eq_some_iff.mp framed
  obtain ⟨system, systemEq, rfl⟩ := Option.map_eq_some_iff.mp framed
  obtain ⟨tail, tailEq, ringEq⟩ := Option.bind_eq_some_iff.mp ringEq
  obtain ⟨labels, executed, run, stops⟩ := Scans.ringRun ⟨fuel, tailEq⟩
    (.tail (scanPlan (beginFrame s.machine)) s.machine.lastParsedOffset) s
  have begun : (ringSystem env).step s .begin _ := RingStep.begin phaseEq
  have parsed := (run.head begun).tail (.stop rfl stops)
  have startEq : (beginFrame s.machine).lastParsedOffset = s.machine.lastParsedOffset := rfl
  rw [startEq] at ringEq
  split_ifs at ringEq with wraps
  · obtain ⟨head, headEq, rfl⟩ := Option.map_eq_some_iff.mp ringEq
    simp only [afterScan, if_pos wraps] at parsed
    obtain ⟨headLabels, headExecuted, headRun, headStops⟩ :=
      Scans.ringRun ⟨fuel, headEq⟩ .head { s with executed := executed }
    obtain ⟨lastLabels, lastExecuted, last⟩ :=
      scanSystemCommandBuffer_run systemEq { s with executed := headExecuted }
    exact ⟨_, _, ((parsed.trans headRun).tail (.stop rfl headStops)).trans last⟩
  · obtain rfl := Option.some.inj ringEq
    simp only [afterScan, if_neg wraps] at parsed
    obtain ⟨lastLabels, lastExecuted, last⟩ :=
      scanSystemCommandBuffer_run systemEq { s with executed := executed }
    exact ⟨_, _, parsed.trans last⟩

end Frames

end BumpinHost.Gpu
