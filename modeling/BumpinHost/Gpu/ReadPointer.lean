import BumpinHost.Gpu.RingPump
import BumpinHost.Library.RingOrder

/-!
# The read pointer the pump publishes

At the end of a frame the pump stores the offset it has reached, in dwords, where
the producer looks for it.  Here the producer may write what it likes and wherever
it likes, and the ring may be registered again between two frames; the values
stored are logged with the pointers they were stored between.
-/

namespace BumpinHost.Gpu

open Memory RingOrder

variable {Guest : Type}

def setRptrWriteBackAddr (m : Machine Guest) (addr : Word) : Machine Guest :=
  { m with rptrWriteBackAddr := addr }

/-- One store of the read pointer. -/
structure ReadPointerStore where
  ringDwords : Nat
  /-- The value stored before it for the same registration, at first 0. -/
  before : Word
  value : Word
  /-- The write pointer as the frame observed it. -/
  observed : Word
deriving DecidableEq, Repr

/-- A ring position, not beyond the write pointer. -/
structure ReadPointerStore.IsSound (store : ReadPointerStore) : Prop where
  position : store.value.toNat < store.ringDwords
  inOrder : Between store.ringDwords store.before.toNat store.value.toNat
    store.observed.toNat

/-- The ring and its pump, with the log of the stores. -/
structure ReadPointerState (Guest : Type) where
  ring : RingState Guest
  published : Word
  stores : List ReadPointerStore

inductive ReadPointerLabel
  | registerRingBuffer (physAddr sizeLog2Raw : Word)
  | setRptrWriteBackAddr (addr : Word)
  | append (slot : Nat) (packet : List Word)
  | movePointer (dwordIndex : Word)
  | otherCode
  | pump (label : RingLabel)
deriving DecidableEq, Repr

/-- The tracer's lock is held from the start of a frame to its end. -/
def PumpPhase.inFrame : PumpPhase → Bool
  | .scanning .. | .returning _ => true
  | _ => false

def RingLabel.isPump : RingLabel → Bool
  | .poll _ | .observe | .begin | .packet | .stop | .finish => true
  | _ => false

/-- The registration of the ring is the same; memory may differ. -/
structure KeepsRegistration (before after : Machine Guest) : Prop where
  base : after.ringBufferBase = before.ringBufferBase
  size : after.ringBufferSize = before.ringBufferSize
  parsed : after.lastParsedOffset = before.lastParsedOffset
  pointer : after.lastWptrDwords = before.lastWptrDwords
  observed : after.wptrObserved = before.wptrObserved

namespace ReadPointerState

def withMachine (s : ReadPointerState Guest) (m : Machine Guest) : ReadPointerState Guest :=
  { s with ring := { s.ring with machine := m } }

/-- The end of a frame with a write-back address is a store; the log takes the value
from memory. -/
def afterPump (s : ReadPointerState Guest) (label : RingLabel) (after : RingState Guest) :
    ReadPointerState Guest :=
  if label = .finish ∧ s.ring.machine.rptrWriteBackAddr ≠ 0 then
    let value := loadU32 after.machine.mem s.ring.machine.rptrWriteBackAddr
    { ring := after
      published := value
      stores := s.stores ++ [⟨ringDwords s.ring.machine, s.published, value,
        s.ring.machine.lastWptrDwords⟩] }
  else
    { s with ring := after }

end ReadPointerState

inductive ReadPointerStep (env : Env Guest) :
    ReadPointerState Guest → ReadPointerLabel → ReadPointerState Guest → Prop
  | registerRingBuffer {s : ReadPointerState Guest} {physAddr sizeLog2Raw : Word} :
      s.ring.phase.inFrame = false →
      sizeLog2Raw.toNat + 3 < 32 →
      ReadPointerStep env s (.registerRingBuffer physAddr sizeLog2Raw)
        { s.withMachine (registerRingBuffer s.ring.machine physAddr sizeLog2Raw) with
          published := 0 }
  | setRptrWriteBackAddr {s : ReadPointerState Guest} {addr : Word} :
      s.ring.phase.inFrame = false →
      ReadPointerStep env s (.setRptrWriteBackAddr addr)
        (s.withMachine (setRptrWriteBackAddr s.ring.machine addr))
  /-- A packet written into the ring, wholly inside it. -/
  | append {s : ReadPointerState Guest} {slot : Nat} {packet : List Word} {mem : Memory} :
      IsRingPacket packet →
      slot + packet.length ≤ ringDwords s.ring.machine →
      (∀ k (indexLt : k < packet.length),
        loadU32 mem (ringAddr s.ring.machine (slot + k)) = packet[k]) →
      (∀ addr, (∀ k, k < packet.length → Apart (ringAddr s.ring.machine (slot + k)) addr) →
        loadU32 mem addr = loadU32 s.ring.machine.mem addr) →
      ReadPointerStep env s (.append slot packet)
        (s.withMachine { s.ring.machine with mem := mem })
  | movePointer {s : ReadPointerState Guest} {dwordIndex : Word} :
      ReadPointerStep env s (.movePointer dwordIndex)
        { s with ring := { s.ring with writePointer := dwordIndex } }
  | otherCode {s : ReadPointerState Guest} {m : Machine Guest} :
      KeepsRegistration s.ring.machine m →
      ReadPointerStep env s .otherCode (s.withMachine m)
  | pump {s : ReadPointerState Guest} {label : RingLabel} {after : RingState Guest} :
      label.isPump = true →
      RingStep env s.ring label after →
      ReadPointerStep env s (.pump label) (s.afterPump label after)

/-- A tracer with nothing registered. -/
def ReadPointerState.IsInitial (s : ReadPointerState Guest) : Prop :=
  ∃ mem guest writePointer,
    s = ⟨⟨Machine.initial mem guest, writePointer, .idle, [], 0, []⟩, 0, []⟩

def readPointerSystem (env : Env Guest) :
    Transition.System (ReadPointerState Guest) ReadPointerLabel where
  init := ReadPointerState.IsInitial
  step := ReadPointerStep env

/-- What is assumed of the rest of the process: the write pointer a frame works with is a
position of the ring, and the ring is not registered from inside a frame. -/
structure UsesRing (env : Env Guest) (s : ReadPointerState Guest)
    (label : ReadPointerLabel) : Prop where
  pointerLt : label = .pump .begin →
    s.ring.machine.lastWptrDwords.toNat < ringDwords s.ring.machine
  keeps : label = .pump .packet → ∀ stage bufferAddr offset size header body,
    s.ring.phase = .scanning stage bufferAddr offset size →
    packetAt s.ring.machine.mem bufferAddr offset size = some header →
    Executes env s.ring.machine bufferAddr offset header 0 body →
      KeepsRegistration s.ring.machine body.1

/-- No packet of the ring ends at the end of the ring. -/
structure StaysBelowEnd (env : Env Guest) (s : ReadPointerState Guest)
    (label : ReadPointerLabel) : Prop extends UsesRing env s label where
  beforeEnd : label = .pump .packet → ∀ stage bufferAddr offset size header,
    s.ring.phase = .scanning stage bufferAddr offset size →
    stage.isRing = true →
    packetAt s.ring.machine.mem bufferAddr offset size = some header →
      offset + packetBytes header ≠ s.ring.machine.ringBufferSize

/-- Moreover, what has been parsed but not published is not beyond the write pointer. -/
structure ResumesInOrder (env : Env Guest) (s : ReadPointerState Guest)
    (label : ReadPointerLabel) : Prop extends StaysBelowEnd env s label where
  resumes : label = .pump .begin →
    Between (ringDwords s.ring.machine) s.published.toNat
      (s.ring.machine.lastParsedOffset.toNat / 4) s.ring.machine.lastWptrDwords.toNat

/-- A scan of the tail, from slot `start` and now at slot `slot`. -/
structure ScansTail (m : Machine Guest) (published : Word) (plan : ScanPlan)
    (startOffset offset size : Word) (start slot : Nat) : Prop where
  startEq : startOffset.toNat = 4 * start
  offsetEq : offset.toNat = 4 * slot
  ordered : start ≤ slot
  slotLt : slot < ringDwords m
  pointerLt : m.lastWptrDwords.toNat < ringDwords m
  resumes : Between (ringDwords m) published.toNat start m.lastWptrDwords.toNat
  bound :
    if plan.wrapPending then
      size = m.ringBufferSize ∧ m.lastWptrDwords.toNat < start ∧
        plan.wrapTargetBytes.toNat = 4 * m.lastWptrDwords.toNat
    else size.toNat = 4 * m.lastWptrDwords.toNat ∧ slot ≤ m.lastWptrDwords.toNat

/-- A scan of the head, after a tail that started beyond the write pointer. -/
structure ScansHead (m : Machine Guest) (published : Word) (offset size : Word)
    (start slot : Nat) : Prop where
  offsetEq : offset.toNat = 4 * slot
  sizeEq : size.toNat = 4 * m.lastWptrDwords.toNat
  slotLe : slot ≤ m.lastWptrDwords.toNat
  startLt : start < ringDwords m
  beyond : m.lastWptrDwords.toNat < start
  resumes : Between (ringDwords m) published.toNat start m.lastWptrDwords.toNat

/-- A frame that has scanned the ring, up to a slot that may be published. -/
structure HasScanned (m : Machine Guest) (published newOffset : Word) (slot : Nat) : Prop where
  parsed : m.lastParsedOffset = newOffset
  offsetEq : newOffset.toNat = 4 * slot
  slotLt : slot < ringDwords m
  inOrder : Between (ringDwords m) published.toNat slot m.lastWptrDwords.toNat

/-- Between frames: the parsed offset is a position of the ring. -/
def Rests (m : Machine Guest) : Prop :=
  ∃ slot, m.lastParsedOffset.toNat = 4 * slot ∧ (slot < ringDwords m ∨ slot = 0)

def KnowsPosition (m : Machine Guest) (published : Word) : PumpPhase → Prop
  | .idle | .polled _ => Rests m
  | .observed => Rests m ∧ m.wptrObserved = true
  | .scanning (.tail plan startOffset) _ offset size =>
      ∃ start slot, ScansTail m published plan startOffset offset size start slot
  | .scanning .head _ offset size =>
      ∃ start slot, ScansHead m published offset size start slot
  | .scanning (.systemCommandBuffer newOffset) _ _ _ | .returning newOffset =>
      ∃ slot, HasScanned m published newOffset slot

structure ReadPointerInvariant (s : ReadPointerState Guest) : Prop where
  sizeEq : s.ring.machine.ringBufferSize.toNat = 4 * ringDwords s.ring.machine
  sizeLe : s.ring.machine.ringBufferSize.toNat ≤ 2 ^ 31
  published : s.published.toNat < ringDwords s.ring.machine ∨ s.published = 0
  position : KnowsPosition s.ring.machine s.published s.ring.phase
  sound : ∀ store ∈ s.stores, store.IsSound

section Keeps

variable {m after : Machine Guest} (keeps : KeepsRegistration m after)

include keeps

theorem KeepsRegistration.ringDwords : ringDwords after = ringDwords m := by
  rw [Gpu.ringDwords, keeps.size, Gpu.ringDwords]

theorem Rests.of_keeps (rests : Rests m) : Rests after := by
  unfold Rests
  rw [keeps.parsed, keeps.ringDwords]
  exact rests

theorem ScansTail.of_keeps {published startOffset offset size : Word} {plan : ScanPlan}
    {start slot : Nat} (scans : ScansTail m published plan startOffset offset size start slot) :
    ScansTail after published plan startOffset offset size start slot := by
  obtain ⟨startEq, offsetEq, ordered, slotLt, pointerLt, resumes, bound⟩ := scans
  constructor
  all_goals simpa only [keeps.ringDwords, keeps.pointer, keeps.size]

theorem ScansHead.of_keeps {published offset size : Word} {start slot : Nat}
    (scans : ScansHead m published offset size start slot) :
    ScansHead after published offset size start slot := by
  obtain ⟨offsetEq, sizeEq, slotLe, startLt, beyond, resumes⟩ := scans
  constructor
  all_goals simpa only [keeps.ringDwords, keeps.pointer]

theorem HasScanned.of_keeps {published newOffset : Word} {slot : Nat}
    (scanned : HasScanned m published newOffset slot) :
    HasScanned after published newOffset slot := by
  obtain ⟨parsed, offsetEq, slotLt, inOrder⟩ := scanned
  constructor
  all_goals simpa only [keeps.ringDwords, keeps.pointer, keeps.parsed]

theorem KnowsPosition.of_keeps {published : Word} {phase : PumpPhase}
    (knows : KnowsPosition m published phase) : KnowsPosition after published phase := by
  cases phase with
  | idle => exact Rests.of_keeps keeps knows
  | polled dwordIndex => exact Rests.of_keeps keeps knows
  | observed => exact ⟨knows.1.of_keeps keeps, keeps.observed.trans knows.2⟩
  | scanning stage bufferAddr offset size =>
      cases stage with
      | tail plan startOffset =>
          obtain ⟨start, slot, scans⟩ := knows
          exact ⟨start, slot, scans.of_keeps keeps⟩
      | head =>
          obtain ⟨start, slot, scans⟩ := knows
          exact ⟨start, slot, scans.of_keeps keeps⟩
      | systemCommandBuffer newOffset =>
          obtain ⟨slot, scanned⟩ := knows
          exact ⟨slot, scanned.of_keeps keeps⟩
  | returning newOffset =>
      obtain ⟨slot, scanned⟩ := knows
      exact ⟨slot, scanned.of_keeps keeps⟩

end Keeps

theorem KeepsRegistration.writeReadPointer (m : Machine Guest) (newOffset : Word) :
    KeepsRegistration m (writeReadPointer m newOffset) := by
  unfold Gpu.writeReadPointer
  split_ifs
  · exact ⟨rfl, rfl, rfl, rfl, rfl⟩
  · exact ⟨rfl, rfl, rfl, rfl, rfl⟩

theorem loadU32_writeReadPointer {m : Machine Guest} (registered : m.rptrWriteBackAddr ≠ 0)
    {newOffset : Word} :
    loadU32 (writeReadPointer m newOffset).mem m.rptrWriteBackAddr = newOffset / 4 := by
  rw [writeReadPointer, if_pos registered]
  exact loadU32_storeU32_same _ _ _

theorem ReadPointerInvariant.of_keeps {s : ReadPointerState Guest} {m : Machine Guest}
    (invariant : ReadPointerInvariant s) (keeps : KeepsRegistration s.ring.machine m) :
    ReadPointerInvariant (s.withMachine m) := by
  obtain ⟨sizeEq, sizeLe, published, position, sound⟩ := invariant
  constructor
  · show m.ringBufferSize.toNat = 4 * ringDwords m
    rw [keeps.size, keeps.ringDwords]
    exact sizeEq
  · exact keeps.size ▸ sizeLe
  · show s.published.toNat < ringDwords m ∨ s.published = 0
    rw [keeps.ringDwords]
    exact published
  · exact position.of_keeps keeps
  · exact sound

theorem packetBytes_eq (header : Word) :
    ∃ dwords, (packetBytes header).toNat = 4 * dwords := by
  have upper := packetCount_le header
  unfold packetBytes
  split
  · exact ⟨1, rfl⟩
  · exact ⟨1 + (packetCount header).toNat, by bv_omega⟩

section Pump

variable {m : Machine Guest} {published : Word}

/-- A frame starts from where the last one stopped. -/
theorem scansTail_begin (sizeEq : m.ringBufferSize.toNat = 4 * ringDwords m)
    (sizeLe : m.ringBufferSize.toNat ≤ 2 ^ 31) (rests : Rests m)
    (observed : m.wptrObserved = true) (pointerLt : m.lastWptrDwords.toNat < ringDwords m)
    (resumes : Between (ringDwords m) published.toNat (m.lastParsedOffset.toNat / 4)
      m.lastWptrDwords.toNat) :
    ∃ start, ScansTail m published (scanPlan m) m.lastParsedOffset m.lastParsedOffset
      (scanPlan m).scanBound start start := by
  obtain ⟨start, parsed, startLt⟩ := rests
  rw [parsed, Nat.mul_div_cancel_left _ (by decide)] at resumes
  have target : (BitVec.ofNat 32 (m.lastWptrDwords.toNat * 4)).toNat =
      4 * m.lastWptrDwords.toNat := by
    rw [BitVec.toNat_ofNat]
    omega
  refine ⟨start, parsed, parsed, Nat.le_refl start, by omega, pointerLt, resumes, ?_⟩
  rcases scanPlan_of_observed observed parsed rfl sizeEq pointerLt with
    ⟨ahead, planEq⟩ | ⟨behind, planEq⟩
  · rw [planEq, if_neg Bool.false_ne_true]
    exact ⟨target, ahead⟩
  · rw [planEq, if_pos rfl]
    exact ⟨rfl, behind, target⟩

theorem ScansTail.packet {plan : ScanPlan} {startOffset bufferAddr offset size header : Word}
    {start slot : Nat} (scans : ScansTail m published plan startOffset offset size start slot)
    (sizeEq : m.ringBufferSize.toNat = 4 * ringDwords m)
    (sizeLe : m.ringBufferSize.toNat ≤ 2 ^ 31)
    (found : packetAt m.mem bufferAddr offset size = some header)
    (beforeEnd : offset + packetBytes header ≠ m.ringBufferSize) :
    ∃ next, ScansTail m published plan startOffset (offset + packetBytes header) size
      start next := by
  obtain ⟨dwords, bytes⟩ := packetBytes_eq header
  have offsetEq := scans.offsetEq
  have slotLt := scans.slotLt
  have ordered := scans.ordered
  have pointerLt := scans.pointerLt
  have bound := scans.bound
  split_ifs at bound with wraps
  · obtain ⟨rfl, behind, target⟩ := bound
    have fits := packetAt_fits (by bv_omega) sizeLe found
    have moved : (offset + packetBytes header).toNat = 4 * (slot + dwords) := by bv_omega
    have inRing : slot + dwords < ringDwords m := by
      by_contra atEnd
      exact beforeEnd (BitVec.eq_of_toNat_eq (by omega))
    refine ⟨slot + dwords, { scans with
      offsetEq := moved, ordered := by omega, slotLt := inRing, bound := ?_ }⟩
    rw [if_pos wraps]
    exact ⟨rfl, behind, target⟩
  · obtain ⟨atPointer, slotLe⟩ := bound
    have fits := packetAt_fits (by bv_omega) (by omega) found
    have moved : (offset + packetBytes header).toNat = 4 * (slot + dwords) := by bv_omega
    refine ⟨slot + dwords, { scans with
      offsetEq := moved, ordered := by omega, slotLt := by omega, bound := ?_ }⟩
    rw [if_neg wraps]
    exact ⟨atPointer, by omega⟩

theorem ScansHead.packet {bufferAddr offset size header : Word} {start slot : Nat}
    (scans : ScansHead m published offset size start slot)
    (sizeEq : m.ringBufferSize.toNat = 4 * ringDwords m)
    (sizeLe : m.ringBufferSize.toNat ≤ 2 ^ 31)
    (found : packetAt m.mem bufferAddr offset size = some header) :
    ∃ next, ScansHead m published (offset + packetBytes header) size start next := by
  obtain ⟨dwords, bytes⟩ := packetBytes_eq header
  obtain ⟨offsetEq, scanned, slotLe, startLt, beyond, resumes⟩ := scans
  have fits := packetAt_fits (by bv_omega) (by omega) found
  exact ⟨slot + dwords, by bv_omega, scanned, by omega, startLt, beyond, resumes⟩

/-- A tail with no packet left is followed by the head, if the pointer is behind. -/
theorem ScansTail.follow {plan : ScanPlan} {startOffset offset size : Word}
    {start slot : Nat} (scans : ScansTail m published plan startOffset offset size start slot)
    (follows : followsWrap plan startOffset offset = true) :
    ScansHead m published 0 plan.wrapTargetBytes start 0 := by
  have bound := scans.bound
  rw [if_pos (followsWrap_iff.mp follows).1] at bound
  exact ⟨rfl, bound.2.2, Nat.zero_le _, Nat.lt_of_le_of_lt scans.ordered scans.slotLt,
    bound.2.1, scans.resumes⟩

/-- Where the scan of the tail stops, the frame may publish. -/
theorem ScansTail.inOrder {plan : ScanPlan} {startOffset offset size : Word}
    {start slot : Nat} (scans : ScansTail m published plan startOffset offset size start slot)
    (publishedLt : published.toNat < ringDwords m) :
    Between (ringDwords m) published.toNat slot m.lastWptrDwords.toNat := by
  have ordered := scans.ordered
  have slotLt := scans.slotLt
  have scanned : Between (ringDwords m) start slot m.lastWptrDwords.toNat := by
    have bound := scans.bound
    split_ifs at bound
    · exact .of_tail ordered slotLt bound.2.1
    · exact .of_le ordered bound.2 scans.pointerLt
  exact scans.resumes.trans scanned publishedLt (by omega) slotLt scans.pointerLt

theorem ScansHead.inOrder {offset size : Word} {start slot : Nat}
    (scans : ScansHead m published offset size start slot)
    (publishedLt : published.toNat < ringDwords m) :
    Between (ringDwords m) published.toNat slot m.lastWptrDwords.toNat := by
  obtain ⟨_, _, slotLe, startLt, beyond, resumes⟩ := scans
  exact resumes.trans (.of_head slotLe beyond startLt) publishedLt startLt (by omega) (by omega)

theorem knowsPosition_finishRing {newOffset : Word} {slot : Nat}
    (offsetEq : newOffset.toNat = 4 * slot) (slotLt : slot < ringDwords m)
    (inOrder : Between (ringDwords m) published.toNat slot m.lastWptrDwords.toNat) :
    KnowsPosition (finishRing m newOffset) published
      (afterRing (finishRing m newOffset) newOffset) := by
  have scanned : HasScanned (finishRing m newOffset) published newOffset slot :=
    ⟨rfl, offsetEq, slotLt, inOrder⟩
  unfold afterRing
  split_ifs
  · exact ⟨slot, scanned⟩
  · exact ⟨slot, scanned⟩

end Pump

section Steps

variable {env : Env Guest} {s after : ReadPointerState Guest} {label : ReadPointerLabel}

namespace ReadPointerInvariant

theorem publishedLt (invariant : ReadPointerInvariant s) {slot : Nat}
    (slotLt : slot < ringDwords s.ring.machine) :
    s.published.toNat < ringDwords s.ring.machine := by
  rcases invariant.published with below | zero
  · exact below
  · rw [zero]
    exact Nat.lt_of_le_of_lt (Nat.zero_le slot) slotLt

/-- A pump step that is not the end of a frame logs nothing. -/
theorem of_pump (invariant : ReadPointerInvariant s) {next : RingState Guest}
    (size : next.machine.ringBufferSize = s.ring.machine.ringBufferSize)
    (position : KnowsPosition next.machine s.published next.phase) :
    ReadPointerInvariant { s with ring := next } := by
  have dwordsEq : ringDwords next.machine = ringDwords s.ring.machine := by
    rw [ringDwords, size, ringDwords]
  obtain ⟨sizeEq, sizeLe, published, _, sound⟩ := invariant
  constructor
  · show next.machine.ringBufferSize.toNat = 4 * ringDwords next.machine
    rw [size, dwordsEq]
    exact sizeEq
  · exact size ▸ sizeLe
  · show s.published.toNat < ringDwords next.machine ∨ s.published = 0
    rw [dwordsEq]
    exact published
  · exact position
  · exact sound

theorem registerRingBuffer (invariant : ReadPointerInvariant s) {physAddr sizeLog2Raw : Word}
    (outside : s.ring.phase.inFrame = false) (fits : sizeLog2Raw.toNat + 3 < 32) :
    ReadPointerInvariant
      { s.withMachine (registerRingBuffer s.ring.machine physAddr sizeLog2Raw) with
        published := 0 } := by
  have size := registerRingBuffer_size s.ring.machine physAddr fits
  have power : 2 ^ (sizeLog2Raw.toNat + 3) = 4 * (2 ^ sizeLog2Raw.toNat * 2) := by
    rw [pow_add]
    omega
  have sizeLe : 2 ^ (sizeLog2Raw.toNat + 3) ≤ 2 ^ 31 :=
    Nat.pow_le_pow_right (by decide) (by omega)
  have rests : Rests (Gpu.registerRingBuffer s.ring.machine physAddr sizeLog2Raw) :=
    ⟨0, rfl, Or.inr rfl⟩
  constructor
  · show (Gpu.registerRingBuffer s.ring.machine physAddr sizeLog2Raw).ringBufferSize.toNat =
      4 * ringDwords (Gpu.registerRingBuffer s.ring.machine physAddr sizeLog2Raw)
    rw [ringDwords, size, power]
    omega
  · exact size.trans_le sizeLe
  · exact Or.inr rfl
  · have knows := invariant.position
    show KnowsPosition (Gpu.registerRingBuffer s.ring.machine physAddr sizeLog2Raw) 0
      s.ring.phase
    cases phaseEq : s.ring.phase with
    | idle => exact rests
    | polled dwordIndex => exact rests
    | observed =>
        rw [phaseEq] at knows
        exact ⟨rests, knows.2⟩
    | scanning stage bufferAddr offset size =>
        rw [phaseEq] at outside
        cases outside
    | returning newOffset =>
        rw [phaseEq] at outside
        cases outside
  · exact invariant.sound

/-- One packet of a frame. -/
theorem packet (invariant : ReadPointerInvariant s) {stage : ScanStage}
    {bufferAddr offset size header : Word} {m : Machine Guest} {executed : List (List Word)}
    (phaseEq : s.ring.phase = .scanning stage bufferAddr offset size)
    (found : packetAt s.ring.machine.mem bufferAddr offset size = some header)
    (keeps : KeepsRegistration s.ring.machine m)
    (beforeEnd : stage.isRing = true →
      offset + packetBytes header ≠ s.ring.machine.ringBufferSize) :
    ReadPointerInvariant
      { s with ring :=
        { s.ring with
          machine := m
          phase := .scanning stage bufferAddr (offset + packetBytes header) size
          executed := executed } } := by
  have knows := invariant.position
  rw [phaseEq] at knows
  refine invariant.of_pump keeps.size ?_
  cases stage with
  | tail plan startOffset =>
      obtain ⟨start, slot, scans⟩ := knows
      obtain ⟨next, moved⟩ := scans.packet invariant.sizeEq invariant.sizeLe found
        (beforeEnd rfl)
      exact ⟨start, next, moved.of_keeps keeps⟩
  | head =>
      obtain ⟨start, slot, scans⟩ := knows
      obtain ⟨next, moved⟩ := scans.packet invariant.sizeEq invariant.sizeLe found
      exact ⟨start, next, moved.of_keeps keeps⟩
  | systemCommandBuffer newOffset =>
      obtain ⟨slot, scanned⟩ := knows
      exact ⟨slot, scanned.of_keeps keeps⟩

/-- The end of one scan of a frame. -/
theorem stop (invariant : ReadPointerInvariant s) {stage : ScanStage}
    {bufferAddr offset size : Word}
    (phaseEq : s.ring.phase = .scanning stage bufferAddr offset size) :
    ReadPointerInvariant
      { s with ring :=
        { s.ring with
          machine := (afterScan s.ring.machine stage offset).1
          phase := (afterScan s.ring.machine stage offset).2 } } := by
  have knows := invariant.position
  rw [phaseEq] at knows
  cases stage with
  | tail plan startOffset =>
      obtain ⟨start, slot, scans⟩ := knows
      by_cases follows : followsWrap plan startOffset offset = true
      · simp only [afterScan, if_pos follows]
        exact invariant.of_pump rfl ⟨start, 0, scans.follow follows⟩
      · simp only [afterScan, if_neg follows]
        exact invariant.of_pump rfl (knowsPosition_finishRing scans.offsetEq scans.slotLt
          (scans.inOrder (invariant.publishedLt scans.slotLt)))
  | head =>
      obtain ⟨start, slot, scans⟩ := knows
      have slotLt : slot < ringDwords s.ring.machine :=
        Nat.lt_of_le_of_lt scans.slotLe (scans.beyond.trans scans.startLt)
      exact invariant.of_pump rfl (knowsPosition_finishRing scans.offsetEq slotLt
        (scans.inOrder (invariant.publishedLt slotLt)))
  | systemCommandBuffer newOffset =>
      obtain ⟨slot, scanned⟩ := knows
      have keeps : KeepsRegistration s.ring.machine
          { s.ring.machine with systemCmdBufLastOffset := offset } :=
        ⟨rfl, rfl, rfl, rfl, rfl⟩
      exact invariant.of_pump rfl ⟨slot, scanned.of_keeps keeps⟩

/-- The end of a frame stores what the frame may publish. -/
theorem finish (invariant : ReadPointerInvariant s) {newOffset : Word}
    (phaseEq : s.ring.phase = .returning newOffset) :
    ReadPointerInvariant (s.afterPump .finish
      { s.ring with machine := writeReadPointer s.ring.machine newOffset, phase := .idle }) := by
  have knows := invariant.position
  rw [phaseEq] at knows
  obtain ⟨slot, scanned⟩ := knows
  have rests : Rests s.ring.machine := by
    refine ⟨slot, ?_, Or.inl scanned.slotLt⟩
    rw [scanned.parsed]
    exact scanned.offsetEq
  have keeps := KeepsRegistration.writeReadPointer s.ring.machine newOffset
  have unlogged : ReadPointerInvariant
      { s with ring :=
        { s.ring with
          machine := writeReadPointer s.ring.machine newOffset
          phase := .idle } } :=
    invariant.of_pump keeps.size (rests.of_keeps keeps)
  by_cases registered : s.ring.machine.rptrWriteBackAddr ≠ 0
  · have value : (newOffset / 4).toNat = slot := by
      have four : (4 : Word).toNat = 4 := rfl
      rw [BitVec.toNat_udiv, scanned.offsetEq, four, Nat.mul_div_cancel_left _ (by decide)]
    have slotLt := scanned.slotLt
    have inOrder := scanned.inOrder
    rw [← value] at slotLt inOrder
    rw [ReadPointerState.afterPump, if_pos ⟨rfl, registered⟩]
    dsimp only
    rw [loadU32_writeReadPointer registered]
    refine { unlogged with published := Or.inl ?_, sound := ?_ }
    · show (newOffset / 4).toNat < ringDwords (writeReadPointer s.ring.machine newOffset)
      rw [keeps.ringDwords]
      exact slotLt
    · intro store member
      rcases List.mem_append.mp member with earlier | last
      · exact invariant.sound store earlier
      · obtain rfl := List.mem_singleton.mp last
        exact ⟨slotLt, inOrder⟩
  · rw [ReadPointerState.afterPump, if_neg fun both => registered both.2]
    exact unlogged

end ReadPointerInvariant

/-- What one step keeps. -/
theorem readPointerStep_preserves (step : ReadPointerStep env s label after)
    (meets : ResumesInOrder env s label) (invariant : ReadPointerInvariant s) :
    ReadPointerInvariant after := by
  cases step with
  | registerRingBuffer outside fits => exact invariant.registerRingBuffer outside fits
  | setRptrWriteBackAddr outside => exact invariant.of_keeps ⟨rfl, rfl, rfl, rfl, rfl⟩
  | append isPacket inside written elsewhere =>
      exact invariant.of_keeps ⟨rfl, rfl, rfl, rfl, rfl⟩
  | movePointer => exact invariant.of_pump rfl invariant.position
  | otherCode keeps => exact invariant.of_keeps keeps
  | pump isPump ringStep =>
      have knows := invariant.position
      cases ringStep with
      | poll phaseEq registered =>
          rw [phaseEq] at knows
          exact invariant.of_pump rfl knows
      | @observe dwordIndex phaseEq =>
          rw [phaseEq] at knows
          have observedEq : observeWritePointer s.ring.machine dwordIndex =
              { s.ring.machine with lastWptrDwords := dwordIndex, wptrObserved := true } :=
            observeWritePointer_eq ..
          rw [observedEq]
          exact invariant.of_pump rfl ⟨knows, rfl⟩
      | begin phaseEq =>
          rw [phaseEq] at knows
          obtain ⟨start, scans⟩ := scansTail_begin invariant.sizeEq invariant.sizeLe knows.1
            knows.2 (meets.pointerLt rfl) (meets.resumes rfl)
          have keeps : KeepsRegistration s.ring.machine (beginFrame s.ring.machine) :=
            ⟨rfl, rfl, rfl, rfl, rfl⟩
          exact invariant.of_pump rfl ⟨start, start, scans.of_keeps keeps⟩
      | packet phaseEq found executed =>
          exact invariant.packet phaseEq found (meets.keeps rfl _ _ _ _ _ _ phaseEq found executed)
            fun inRing => meets.beforeEnd rfl _ _ _ _ _ phaseEq inRing found
      | stop phaseEq stops => exact invariant.stop phaseEq
      | finish phaseEq => exact invariant.finish phaseEq
      | write => cases isPump
      | append => cases isPump
      | publish => cases isPump
      | otherCode => cases isPump

end Steps

end BumpinHost.Gpu
