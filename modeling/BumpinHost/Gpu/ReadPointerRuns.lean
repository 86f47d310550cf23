import BumpinHost.Gpu.ReadPointer
import BumpinHost.Gpu.RingConsumption

/-!
# Runs that publish ring positions

A frame that executes a packet up to the very end of the ring publishes the size of the
ring.  In a run without such a frame the values published are positions of the ring, and
none of them is beyond the write pointer, if nothing parsed went unpublished for too long.
-/

namespace BumpinHost.Gpu

open Memory RingOrder

variable {Guest : Type}

theorem ReadPointerState.IsInitial.invariant {s : ReadPointerState Guest}
    (initial : s.IsInitial) : ReadPointerInvariant s := by
  obtain ⟨mem, guest, writePointer, rfl⟩ := initial
  constructor
  · show (0 : Word).toNat = 4 * ((0 : Word).toNat / 4)
    rfl
  · exact Nat.zero_le _
  · exact Or.inr rfl
  · exact ⟨0, rfl, Or.inr rfl⟩
  · exact List.forall_mem_nil _

/-- In every run whose frames stay below the end of the ring and resume in order, every value
stored is a ring position between the value before it and the write pointer. -/
theorem readPointer_sound {env : Env Guest} {trace : List ReadPointerLabel}
    {final : ReadPointerState Guest}
    (history : ((readPointerSystem env).restrict (ResumesInOrder env)).History trace final) :
    ∀ store ∈ final.stores, store.IsSound := by
  have invariant : ReadPointerInvariant final := by
    refine history.invariant (fun _ => ReadPointerInvariant) ?_ ?_
    · intro start initial
      exact initial.invariant
    · rintro past before label after _ invariant ⟨step, meets⟩
      exact readPointerStep_preserves step meets invariant
  exact invariant.sound

/-- The frame under way is going to publish the size of the ring. -/
def PublishesEnd (s : ReadPointerState Guest) : Prop :=
  s.ring.machine.ringBufferSize.toNat ≤ 2 ^ 31 ∧
    match s.ring.phase with
    | .scanning (.tail _ startOffset) _ offset size =>
        offset = s.ring.machine.ringBufferSize ∧ size = offset ∧ startOffset ≠ offset
    | .scanning (.systemCommandBuffer newOffset) _ _ _ | .returning newOffset =>
        newOffset = s.ring.machine.ringBufferSize
    | _ => False

section PublishesEnd

variable {env : Env Guest} {s after final : ReadPointerState Guest} {label : ReadPointerLabel}

theorem PublishesEnd.of_same (ends : PublishesEnd s)
    (size : after.ring.machine.ringBufferSize = s.ring.machine.ringBufferSize)
    (phase : after.ring.phase = s.ring.phase) : PublishesEnd after := by
  unfold PublishesEnd at ends ⊢
  rw [size, phase]
  exact ends

theorem PublishesEnd.inFrame (ends : PublishesEnd s) : s.ring.phase.inFrame = true := by
  have waits := ends.2
  cases phaseEq : s.ring.phase with
  | idle => rw [phaseEq] at waits; cases waits
  | polled => rw [phaseEq] at waits; cases waits
  | observed => rw [phaseEq] at waits; cases waits
  | scanning => rfl
  | returning => rfl

/-- Only the scan of the tail reaches the end of the ring, and it stops there. -/
theorem publishesEnd_of_packet (invariant : ReadPointerInvariant s) {stage : ScanStage}
    {bufferAddr offset size header : Word} {m : Machine Guest} {executed : List (List Word)}
    (phaseEq : s.ring.phase = .scanning stage bufferAddr offset size)
    (inRing : stage.isRing = true)
    (found : packetAt s.ring.machine.mem bufferAddr offset size = some header)
    (keeps : KeepsRegistration s.ring.machine m)
    (atEnd : offset + packetBytes header = s.ring.machine.ringBufferSize) :
    PublishesEnd
      { s with ring :=
        { s.ring with
          machine := m
          phase := .scanning stage bufferAddr (offset + packetBytes header) size
          executed := executed } } := by
  have sizeEq := invariant.sizeEq
  have sizeLe := invariant.sizeLe
  have bytes := packetBytes_pos header
  have knows := invariant.position
  rw [phaseEq] at knows
  refine ⟨keeps.size ▸ sizeLe, ?_⟩
  cases stage with
  | tail plan startOffset =>
      obtain ⟨start, slot, scans⟩ := knows
      have startEq := scans.startEq
      have offsetEq := scans.offsetEq
      have ordered := scans.ordered
      have slotLt := scans.slotLt
      have pointerLt := scans.pointerLt
      have bound := scans.bound
      split_ifs at bound
      · have later : startOffset ≠ offset + packetBytes header := by
          have fits := packetAt_fits (by bv_omega) (bound.1 ▸ sizeLe) found
          bv_omega
        exact ⟨atEnd.trans keeps.size.symm, bound.1.trans atEnd.symm, later⟩
      · have fits := packetAt_fits (by bv_omega) (by omega) found
        bv_omega
  | head =>
      obtain ⟨start, slot, scans⟩ := knows
      obtain ⟨offsetEq, scanned, slotLe, startLt, beyond, _⟩ := scans
      have fits := packetAt_fits (by bv_omega) (by omega) found
      bv_omega
  | systemCommandBuffer newOffset => cases inRing

theorem publishesEnd_afterRing {newOffset : Word}
    (sizeLe : s.ring.machine.ringBufferSize.toNat ≤ 2 ^ 31)
    (atEnd : newOffset = s.ring.machine.ringBufferSize) :
    PublishesEnd { s with ring :=
      { s.ring with
        machine := finishRing s.ring.machine newOffset
        phase := afterRing (finishRing s.ring.machine newOffset) newOffset } } := by
  refine ⟨sizeLe, ?_⟩
  unfold afterRing
  split_ifs
  · exact atEnd
  · exact atEnd

theorem publishesEnd_step (step : ReadPointerStep env s label after)
    (uses : UsesRing env s label) (goesOn : label ≠ .pump .finish) (ends : PublishesEnd s) :
    PublishesEnd after := by
  have inFrame := ends.inFrame
  obtain ⟨sizeLe, waits⟩ := ends
  cases step with
  | registerRingBuffer outside => cases outside.symm.trans inFrame
  | setRptrWriteBackAddr outside => cases outside.symm.trans inFrame
  | append => exact ⟨sizeLe, waits⟩
  | movePointer => exact ⟨sizeLe, waits⟩
  | otherCode keeps => exact PublishesEnd.of_same ⟨sizeLe, waits⟩ keeps.size rfl
  | pump isPump ringStep =>
      cases ringStep with
      | poll phaseEq => rw [phaseEq] at inFrame; cases inFrame
      | observe phaseEq => rw [phaseEq] at inFrame; cases inFrame
      | begin phaseEq => rw [phaseEq] at inFrame; cases inFrame
      | @packet stage bufferAddr offset size header body phaseEq found executed =>
          have keeps := uses.keeps rfl _ _ _ _ _ _ phaseEq found executed
          have bounded : body.1.ringBufferSize.toNat ≤ 2 ^ 31 := keeps.size ▸ sizeLe
          rw [phaseEq] at waits
          cases stage with
          | tail plan startOffset =>
              obtain ⟨rfl, rfl, _⟩ := waits
              rw [packetAt_bound _ _ sizeLe] at found
              cases found
          | head => cases waits
          | systemCommandBuffer newOffset => exact ⟨bounded, waits.trans keeps.size.symm⟩
      | @stop stage bufferAddr offset size phaseEq stops =>
          rw [phaseEq] at waits
          cases stage with
          | tail plan startOffset =>
              obtain ⟨atEnd, _, moved⟩ := waits
              have noFollow : ¬ followsWrap plan startOffset offset = true := fun follows =>
                moved (followsWrap_iff.mp follows).2.symm
              simp only [afterScan, if_neg noFollow]
              exact publishesEnd_afterRing sizeLe atEnd
          | head => cases waits
          | systemCommandBuffer newOffset => exact ⟨sizeLe, waits⟩
      | finish => exact absurd rfl goesOn
      | write => cases isPump
      | append => cases isPump
      | publish => cases isPump
      | otherCode => cases isPump

/-- A frame that has executed a packet up to the end of the ring publishes the size of the
ring, whatever happens until then. -/
theorem endOfRing_unsound {labels : List ReadPointerLabel} {last : ReadPointerState Guest}
    (run : ((readPointerSystem env).restrict (UsesRing env)).Run s labels last)
    (goesOn : .pump .finish ∉ labels) (ends : PublishesEnd s)
    (finishes : ReadPointerStep env last (.pump .finish) final)
    (registered : last.ring.machine.rptrWriteBackAddr ≠ 0) :
    ∃ store ∈ final.stores, ¬ store.IsSound := by
  have lastEnds : PublishesEnd last := by
    revert goesOn
    refine run.invariant (fun labels s => .pump .finish ∉ labels → PublishesEnd s) ?_ ?_
    · intro _
      exact ends
    · rintro past before label after _ ih ⟨step, uses⟩ goesOn
      rw [List.mem_append, List.mem_singleton, not_or] at goesOn
      exact publishesEnd_step step uses (Ne.symm goesOn.2) (ih goesOn.1)
  have atEnd := lastEnds.2
  cases finishes with
  | pump isPump ringStep =>
      cases ringStep with
      | @finish newOffset phaseEq =>
          rw [phaseEq] at atEnd
          rw [ReadPointerState.afterPump, if_pos ⟨rfl, registered⟩]
          refine ⟨_, List.mem_append_right _ (List.mem_singleton_self _), ?_⟩
          intro sound
          have below := sound.position
          dsimp only at below
          rw [loadU32_writeReadPointer registered, BitVec.toNat_udiv, atEnd] at below
          exact Nat.lt_irrefl _ below

end PublishesEnd

/-- A write-back address is registered whenever a frame ends. -/
structure WritesBack (env : Env Guest) (s : ReadPointerState Guest)
    (label : ReadPointerLabel) : Prop extends StaysBelowEnd env s label where
  registered : label = .pump .finish → s.ring.machine.rptrWriteBackAddr ≠ 0

/-- Between frames, all that has been parsed has been published. -/
def PublishesParsed (s : ReadPointerState Guest) : Prop :=
  s.ring.phase.inFrame = false →
    s.published.toNat = s.ring.machine.lastParsedOffset.toNat / 4

section WritesBack

variable {env : Env Guest} {s after : ReadPointerState Guest} {label : ReadPointerLabel}

theorem inFrame_afterScan (m : Machine Guest) (stage : ScanStage) (offset : Word) :
    (afterScan m stage offset).2.inFrame = true := by
  have ring : (afterRing (finishRing m offset) offset).inFrame = true := by
    unfold afterRing
    split_ifs
    · rfl
    · rfl
  cases stage with
  | tail plan startOffset =>
      simp only [afterScan]
      split_ifs
      · rfl
      · exact ring
  | head => exact ring
  | systemCommandBuffer newOffset => rfl

theorem WritesBack.resumesInOrder (meets : WritesBack env s label)
    (step : ReadPointerStep env s label after) (invariant : ReadPointerInvariant s)
    (publishes : PublishesParsed s) : ResumesInOrder env s label := by
  refine { meets with resumes := ?_ }
  rintro rfl
  have pointerLt := meets.pointerLt rfl
  have knows := invariant.position
  cases step with
  | pump isPump ringStep =>
      cases ringStep with
      | begin phaseEq =>
          rw [phaseEq] at knows
          obtain ⟨slot, parsed, slotLt⟩ := knows.1
          have same := publishes (by rw [phaseEq]; rfl)
          rw [parsed, Nat.mul_div_cancel_left _ (by decide)] at same ⊢
          rw [same]
          exact .start (by omega)

theorem publishesParsed_step (step : ReadPointerStep env s label after)
    (meets : WritesBack env s label) (invariant : ReadPointerInvariant s)
    (publishes : PublishesParsed s) : PublishesParsed after := by
  have knows := invariant.position
  intro outside
  cases step with
  | registerRingBuffer =>
      show (0 : Word).toNat = (0 : Word).toNat / 4
      rfl
  | setRptrWriteBackAddr => exact publishes outside
  | append => exact publishes outside
  | movePointer => exact publishes outside
  | otherCode keeps =>
      rw [ReadPointerState.withMachine, keeps.parsed]
      exact publishes outside
  | pump isPump ringStep =>
      cases ringStep with
      | poll phaseEq registered => exact publishes (by rw [phaseEq]; rfl)
      | observe phaseEq =>
          rw [observeWritePointer_eq]
          exact publishes (by rw [phaseEq]; rfl)
      | begin phaseEq => cases outside
      | packet phaseEq found executed => cases outside
      | @stop stage bufferAddr offset size phaseEq stops =>
          have inFrame := inFrame_afterScan s.ring.machine stage offset
          cases inFrame.symm.trans outside
      | @finish newOffset phaseEq =>
          rw [phaseEq] at knows
          obtain ⟨slot, scanned⟩ := knows
          have registered := meets.registered rfl
          rw [ReadPointerState.afterPump, if_pos ⟨rfl, registered⟩]
          dsimp only
          rw [loadU32_writeReadPointer registered,
            (KeepsRegistration.writeReadPointer s.ring.machine newOffset).parsed, scanned.parsed,
            BitVec.toNat_udiv]
          rfl
      | write => cases isPump
      | append => cases isPump
      | publish => cases isPump
      | otherCode => cases isPump

/-- When every frame is written back, only a packet at the end of the ring does harm. -/
theorem writtenBack_sound {trace : List ReadPointerLabel} {final : ReadPointerState Guest}
    (history : ((readPointerSystem env).restrict (WritesBack env)).History trace final) :
    ∀ store ∈ final.stores, store.IsSound := by
  have invariant : ReadPointerInvariant final ∧ PublishesParsed final := by
    refine history.invariant (fun _ s => ReadPointerInvariant s ∧ PublishesParsed s) ?_ ?_
    · intro start initial
      refine ⟨initial.invariant, ?_⟩
      obtain ⟨mem, guest, writePointer, rfl⟩ := initial
      intro _
      show (0 : Word).toNat = (0 : Word).toNat / 4
      rfl
    · rintro past before label after _ ⟨invariant, publishes⟩ ⟨step, meets⟩
      exact ⟨readPointerStep_preserves step (meets.resumesInOrder step invariant publishes)
        invariant, publishesParsed_step step meets invariant publishes⟩
  exact invariant.1.sound

end WritesBack

/-- No step of a frame that the assumptions speak of. -/
def IsPlain (label : ReadPointerLabel) : Prop :=
  label ≠ .pump .begin ∧ label ≠ .pump .packet ∧ label ≠ .otherCode

section Fillers

variable {env : Env Guest} {allowed : ReadPointerState Guest → ReadPointerLabel → Prop}
  {s : ReadPointerState Guest}

theorem pump_step {label : RingLabel} {after : RingState Guest} (isPump : label.isPump = true)
    (inside : label ≠ .finish) (step : RingStep env s.ring label after) :
    ReadPointerStep env s (.pump label) { s with ring := after } := by
  have unlogged : s.afterPump label after = { s with ring := after } :=
    if_neg fun both => inside both.1
  rw [← unlogged]
  exact .pump isPump step

theorem executes_filler (m : Machine Guest) (bufferAddr offset : Word) :
    Executes env m bufferAddr offset 0x80000000 0 (m, []) :=
  ⟨0, if_pos (by decide)⟩

theorem appendFiller_step {slot : Nat} (inside : slot + 1 ≤ ringDwords s.ring.machine) :
    ReadPointerStep env s (.append slot fillerPacket)
      (s.withMachine { s.ring.machine with
        mem := storeU32 s.ring.machine.mem (ringAddr s.ring.machine slot) 0x80000000 }) := by
  refine .append isRingPacket_fillerPacket inside ?_ ?_
  · intro k indexLt
    obtain rfl : k = 0 := Nat.lt_one_iff.mp indexLt
    exact loadU32_storeU32_same _ _ _
  · intro addr apart
    exact loadU32_storeU32_apart _ (apart 0 Nat.zero_lt_one)

/-- The state in which a frame that has executed one filler packet returns. -/
def fillerReturning (s : ReadPointerState Guest) (m : Machine Guest) : ReadPointerState Guest :=
  { s with ring :=
    { s.ring with
      machine := finishRing (beginFrame m) (m.lastParsedOffset + 4)
      phase := .returning (m.lastParsedOffset + 4)
      executed := s.ring.executed ++
        [packetDwords m.mem m.ringBufferBase m.lastParsedOffset 0x80000000] } }

def afterFiller (s : ReadPointerState Guest) (m : Machine Guest) : ReadPointerState Guest :=
  (fillerReturning s m).afterPump .finish
    { (fillerReturning s m).ring with
      machine := writeReadPointer (fillerReturning s m).ring.machine (m.lastParsedOffset + 4)
      phase := .idle }

/-- A frame of this machine executes one filler packet and nothing else. -/
structure ScansFiller (m : Machine Guest) : Prop where
  noSystem : m.systemCmdBufAddr = 0
  found : packetAt m.mem m.ringBufferBase m.lastParsedOffset (scanPlan m).scanBound =
    some 0x80000000
  stops : packetAt m.mem m.ringBufferBase (m.lastParsedOffset + 4) (scanPlan m).scanBound = none

/-- The assumptions let such a frame happen, after this publication. -/
structure AllowsFiller (allowed : ReadPointerState Guest → ReadPointerLabel → Prop)
    (m : Machine Guest) (published : Word) : Prop where
  others : ∀ state label, IsPlain label → allowed state label
  begins : ∀ state, state.ring.machine = m → state.published = published →
    allowed state (.pump .begin)
  executes : ∀ state, state.ring.machine = beginFrame m →
    state.ring.phase = .scanning (.tail (scanPlan m) m.lastParsedOffset) m.ringBufferBase
      m.lastParsedOffset (scanPlan m).scanBound → allowed state (.pump .packet)

/-- An iteration over one filler packet. -/
theorem fillerIteration_run {m : Machine Guest} (phaseEq : s.ring.phase = .idle)
    (registered : hasRingBuffer s.ring.machine = true)
    (machineEq : observeWritePointer s.ring.machine s.ring.writePointer = m)
    (fillers : ScansFiller m) (allows : AllowsFiller allowed m s.published) :
    ((readPointerSystem env).restrict allowed).Run s
      [.pump (.poll s.ring.writePointer), .pump .observe, .pump .begin, .pump .packet,
        .pump .stop, .pump .finish]
      (afterFiller s m) := by
  let scanning : RingState Guest :=
    { s.ring with
      machine := beginFrame m
      phase := .scanning (.tail (scanPlan m) m.lastParsedOffset) m.ringBufferBase
        m.lastParsedOffset (scanPlan m).scanBound }
  let scanned : RingState Guest :=
    { scanning with
      phase := .scanning (.tail (scanPlan m) m.lastParsedOffset) m.ringBufferBase
        (m.lastParsedOffset + 4) (scanPlan m).scanBound
      executed := s.ring.executed ++
        [packetDwords m.mem m.ringBufferBase m.lastParsedOffset 0x80000000] }
  have polled : RingStep env s.ring (.poll s.ring.writePointer)
      { s.ring with phase := .polled s.ring.writePointer } := .poll phaseEq registered
  have observed : RingStep env { s.ring with phase := .polled s.ring.writePointer } .observe
      { s.ring with machine := m, phase := .observed } := machineEq ▸ .observe rfl
  have begun : RingStep env { s.ring with machine := m, phase := .observed } .begin scanning :=
    .begin rfl
  have executed : RingStep env scanning .packet scanned := by
    have bytes : packetBytes 0x80000000 = 4 := by decide
    have step : RingStep env scanning .packet _ := .packet rfl fillers.found (executes_filler ..)
    rw [bytes] at step
    exact step
  have stopped : RingStep env scanned .stop (fillerReturning s m).ring := by
    have noFollow : ¬ followsWrap (scanPlan m) m.lastParsedOffset (m.lastParsedOffset + 4) =
        true := by
      simp [followsWrap]
    have returns : afterRing (finishRing scanned.machine (m.lastParsedOffset + 4))
        (m.lastParsedOffset + 4) = .returning (m.lastParsedOffset + 4) :=
      if_neg (not_not.mpr fillers.noSystem)
    have step : RingStep env scanned .stop _ := .stop rfl fillers.stops
    simp only [afterScan, if_neg noFollow, returns] at step
    exact step
  have finished : RingStep env (fillerReturning s m).ring .finish
      { (fillerReturning s m).ring with
        machine := writeReadPointer (fillerReturning s m).ring.machine (m.lastParsedOffset + 4)
        phase := .idle } := .finish rfl
  refine .head ⟨pump_step rfl (by simp) polled, allows.others _ _ (by simp [IsPlain])⟩ ?_
  refine .head ⟨pump_step rfl (by simp) observed, allows.others _ _ (by simp [IsPlain])⟩ ?_
  refine .head ⟨pump_step rfl (by simp) begun, allows.begins _ rfl rfl⟩ ?_
  refine .head ⟨pump_step rfl (by simp) executed, allows.executes _ rfl rfl⟩ ?_
  refine .head ⟨pump_step rfl (by simp) stopped, allows.others _ _ (by simp [IsPlain])⟩ ?_
  exact .single ⟨.pump rfl finished, allows.others _ _ (by simp [IsPlain])⟩

end Fillers

/-- A ring of eight bytes with a write-back address outside it. -/
def registeredRing : ReadPointerState Unit :=
  ⟨⟨setRptrWriteBackAddr (registerRingBuffer (Machine.initial (fun _ => 0) ()) 0x1000 0) 0x2000,
    0, .idle, [], 0, []⟩, 0, []⟩

/-- One more filler packet in a slot, and the write pointer moved. -/
def withFiller (s : ReadPointerState Unit) (slot : Nat) (dwordIndex : Word) :
    ReadPointerState Unit :=
  { s with ring :=
    { s.ring with
      machine := { s.ring.machine with
        mem := storeU32 s.ring.machine.mem (ringAddr s.ring.machine slot) 0x80000000 }
      writePointer := dwordIndex } }

/-- The pump has executed the filler packet and published its end. -/
def afterIteration (s : ReadPointerState Unit) : ReadPointerState Unit :=
  afterFiller s (observeWritePointer s.ring.machine s.ring.writePointer)

def publishedOnce : ReadPointerState Unit := afterIteration (withFiller registeredRing 0 1)

def publishedTwice : ReadPointerState Unit := afterIteration (withFiller publishedOnce 1 0)

theorem publishedOnce_stores : publishedOnce.stores = [⟨2, 0, 1, 1⟩] := by
  decide +kernel

theorem publishedTwice_stores : publishedTwice.stores = [⟨2, 0, 1, 1⟩, ⟨2, 1, 2, 0⟩] := by
  decide +kernel

/-- Registering the ring and its write-back address. -/
theorem registeredRing_history {allowed : ReadPointerState Unit → ReadPointerLabel → Prop}
    (others : ∀ state label, IsPlain label → allowed state label) :
    ((readPointerSystem Env.idle).restrict allowed).History
      [.registerRingBuffer 0x1000 0, .setRptrWriteBackAddr 0x2000] registeredRing := by
  let initial : ReadPointerState Unit :=
    ⟨⟨Machine.initial (fun _ => 0) (), 0, .idle, [], 0, []⟩, 0, []⟩
  let registered : ReadPointerState Unit :=
    { initial.withMachine (registerRingBuffer initial.ring.machine 0x1000 0) with published := 0 }
  have registers : ReadPointerStep Env.idle initial (.registerRingBuffer 0x1000 0) registered :=
    .registerRingBuffer rfl (by decide)
  have writesBack : ReadPointerStep Env.idle registered (.setRptrWriteBackAddr 0x2000)
      (registered.withMachine (setRptrWriteBackAddr registered.ring.machine 0x2000)) :=
    .setRptrWriteBackAddr rfl
  exact ⟨initial, ⟨_, (), 0, rfl⟩, .head ⟨registers, others _ _ (by simp [IsPlain])⟩
    (.single ⟨writesBack, others _ _ (by simp [IsPlain])⟩)⟩

/-- A filler packet is written, covered by the write pointer, and executed. -/
theorem filler_run {allowed : ReadPointerState Unit → ReadPointerLabel → Prop}
    {s : ReadPointerState Unit} {slot : Nat} {dwordIndex : Word} {m : Machine Unit}
    (inside : slot + 1 ≤ ringDwords s.ring.machine) (phaseEq : s.ring.phase = .idle)
    (registered : hasRingBuffer s.ring.machine = true)
    (machineEq : observeWritePointer (withFiller s slot dwordIndex).ring.machine dwordIndex = m)
    (fillers : ScansFiller m) (allows : AllowsFiller allowed m s.published) :
    ∃ trace, ((readPointerSystem Env.idle).restrict allowed).Run s trace
      (afterIteration (withFiller s slot dwordIndex)) := by
  subst machineEq
  let written : ReadPointerState Unit :=
    s.withMachine { s.ring.machine with
      mem := storeU32 s.ring.machine.mem (ringAddr s.ring.machine slot) 0x80000000 }
  have appended : ReadPointerStep Env.idle s (.append slot fillerPacket) written :=
    appendFiller_step inside
  have moved : ReadPointerStep Env.idle written (.movePointer dwordIndex)
      { written with ring := { written.ring with writePointer := dwordIndex } } := .movePointer
  have iterated : ((readPointerSystem Env.idle).restrict allowed).Run
      (withFiller s slot dwordIndex) _ (afterIteration (withFiller s slot dwordIndex)) :=
    fillerIteration_run phaseEq registered rfl fillers allows
  exact ⟨_, .head ⟨appended, allows.others _ _ (by simp [IsPlain])⟩
    (.head ⟨moved, allows.others _ _ (by simp [IsPlain])⟩ iterated)⟩

/-- A filler packet registers nothing. -/
theorem usesRing_filler {env : Env Guest} {state : ReadPointerState Guest} {stage : ScanStage}
    {bufferAddr offset size : Word}
    (phaseEq : state.ring.phase = .scanning stage bufferAddr offset size)
    (found : packetAt state.ring.machine.mem bufferAddr offset size = some 0x80000000) :
    UsesRing env state (.pump .packet) := by
  constructor
  · intro begins
    cases begins
  · intro _ otherStage otherAddr otherOffset otherSize header body otherPhase otherFound executed
    rw [phaseEq] at otherPhase
    injection otherPhase with _ addrEq offsetEq sizeEq
    rw [← addrEq, ← offsetEq, ← sizeEq, found] at otherFound
    obtain rfl := Option.some.inj otherFound
    rw [← addrEq, ← offsetEq] at executed
    obtain rfl := executed.unique (executes_filler ..)
    exact ⟨rfl, rfl, rfl, rfl, rfl⟩

/-- The ring with a packet in its first slot. -/
def firstFiller : Machine Unit :=
  observeWritePointer (withFiller registeredRing 0 1).ring.machine 1

/-- The ring with a packet in its last slot. -/
def lastFiller : Machine Unit :=
  observeWritePointer (withFiller publishedOnce 1 0).ring.machine 0

theorem readPointer_sound_oneFiller :
    (∃ trace, ((readPointerSystem Env.idle).restrict (ResumesInOrder Env.idle)).History trace
      publishedOnce) ∧ publishedOnce.stores = [⟨2, 0, 1, 1⟩] ∧
      ∀ store ∈ publishedOnce.stores, store.IsSound := by
  have others : ∀ (state : ReadPointerState Unit) label, IsPlain label →
      ResumesInOrder Env.idle state label := by
    rintro state label ⟨notBegin, notPacket, _⟩
    exact ⟨⟨⟨fun begins => absurd begins notBegin, fun executes => absurd executes notPacket⟩,
      fun executes => absurd executes notPacket⟩, fun begins => absurd begins notBegin⟩
  have begins : ∀ state : ReadPointerState Unit, state.ring.machine = firstFiller →
      state.published = 0 → ResumesInOrder Env.idle state (.pump .begin) := by
    intro state machineEq publishedEq
    refine ⟨⟨⟨fun _ => ?_, nofun⟩, nofun⟩, fun _ => ?_⟩
    · rw [machineEq]
      decide
    · rw [machineEq, publishedEq]
      decide
  have found : packetAt firstFiller.mem firstFiller.ringBufferBase firstFiller.lastParsedOffset
      (scanPlan firstFiller).scanBound = some 0x80000000 := by
    decide
  have executes : ∀ state : ReadPointerState Unit, state.ring.machine = beginFrame firstFiller →
      state.ring.phase = .scanning (.tail (scanPlan firstFiller) firstFiller.lastParsedOffset)
        firstFiller.ringBufferBase firstFiller.lastParsedOffset
        (scanPlan firstFiller).scanBound → ResumesInOrder Env.idle state (.pump .packet) := by
    intro state machineEq phaseEq
    have foundThere : packetAt state.ring.machine.mem firstFiller.ringBufferBase
        firstFiller.lastParsedOffset (scanPlan firstFiller).scanBound = some 0x80000000 := by
      rw [machineEq]
      exact found
    refine ⟨⟨usesRing_filler phaseEq foundThere, fun _ => ?_⟩, nofun⟩
    intro stage bufferAddr offset size header otherPhase _ otherFound
    rw [phaseEq] at otherPhase
    injection otherPhase with _ addrEq offsetEq sizeEq
    rw [← addrEq, ← offsetEq, ← sizeEq, foundThere] at otherFound
    obtain rfl := Option.some.inj otherFound
    rw [machineEq, ← offsetEq]
    decide
  obtain ⟨start, isInitial, registers⟩ := registeredRing_history others
  obtain ⟨trace, run⟩ := filler_run (by decide) rfl rfl rfl ⟨rfl, found, by decide⟩
    ⟨others, begins, executes⟩
  have history : ((readPointerSystem Env.idle).restrict (ResumesInOrder Env.idle)).History _
      publishedOnce := ⟨start, isInitial, registers.trans run⟩
  exact ⟨⟨_, history⟩, publishedOnce_stores, readPointer_sound history⟩

/-- A packet that ends at the end of the ring is published as the size of the ring, which
is not a position of it. -/
theorem readPointer_reachesEnd :
    ¬ ∀ (trace : List ReadPointerLabel) (final : ReadPointerState Unit),
      ((readPointerSystem Env.idle).restrict fun s label =>
        UsesRing Env.idle s label ∧ label ≠ .otherCode).History trace final →
          ∀ store ∈ final.stores, store.IsSound := by
  intro sound
  let allowed : ReadPointerState Unit → ReadPointerLabel → Prop := fun s label =>
    UsesRing Env.idle s label ∧ label ≠ .otherCode
  have others : ∀ (state : ReadPointerState Unit) label, IsPlain label →
      allowed state label := by
    rintro state label ⟨notBegin, notPacket, notOther⟩
    exact ⟨⟨fun begins => absurd begins notBegin, fun executes => absurd executes notPacket⟩,
      notOther⟩
  have begins : ∀ {m : Machine Unit} (state : ReadPointerState Unit),
      m.lastWptrDwords.toNat < ringDwords m → state.ring.machine = m →
        allowed state (.pump .begin) := by
    intro m state pointerLt machineEq
    refine ⟨⟨fun _ => ?_, nofun⟩, nofun⟩
    rw [machineEq]
    exact pointerLt
  have executes : ∀ {m : Machine Unit} (state : ReadPointerState Unit),
      packetAt m.mem m.ringBufferBase m.lastParsedOffset (scanPlan m).scanBound =
        some 0x80000000 → state.ring.machine = beginFrame m →
      state.ring.phase = .scanning (.tail (scanPlan m) m.lastParsedOffset) m.ringBufferBase
        m.lastParsedOffset (scanPlan m).scanBound → allowed state (.pump .packet) := by
    intro m state found machineEq phaseEq
    refine ⟨usesRing_filler phaseEq ?_, nofun⟩
    rw [machineEq]
    exact found
  have firstFound : packetAt firstFiller.mem firstFiller.ringBufferBase
      firstFiller.lastParsedOffset (scanPlan firstFiller).scanBound = some 0x80000000 := by
    decide
  have lastFound : packetAt lastFiller.mem lastFiller.ringBufferBase
      lastFiller.lastParsedOffset (scanPlan lastFiller).scanBound = some 0x80000000 := by
    decide +kernel
  obtain ⟨start, isInitial, registers⟩ := registeredRing_history others
  have ⟨_, first⟩ : ∃ trace, ((readPointerSystem Env.idle).restrict allowed).Run
      registeredRing trace publishedOnce :=
    filler_run (by decide) rfl rfl rfl ⟨rfl, firstFound, by decide⟩
      ⟨others, fun state machineEq _ => begins state (by decide) machineEq,
        fun state => executes state firstFound⟩
  have ⟨_, second⟩ : ∃ trace, ((readPointerSystem Env.idle).restrict allowed).Run
      publishedOnce trace publishedTwice :=
    filler_run (by decide +kernel) rfl (by decide +kernel) rfl
      ⟨rfl, lastFound, by decide +kernel⟩
      ⟨others, fun state machineEq _ => begins state (by decide +kernel) machineEq,
        fun state => executes state lastFound⟩
  have stores := sound _ publishedTwice
    ⟨start, isInitial, (registers.trans first).trans second⟩
  rw [publishedTwice_stores] at stores
  have below := (stores ⟨2, 1, 2, 0⟩ (by decide)).position
  exact absurd below (by decide)

end BumpinHost.Gpu
