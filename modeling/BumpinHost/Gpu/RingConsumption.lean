import BumpinHost.Gpu.RingPump

/-!
# Exactly-once consumption of the ring

Every step keeps the ring invariant, so in every run the executed packets are a
prefix of the published ones; and an iteration that polls a pointer value executes
everything published at the poll, unless it first has to finish the tail of the
ring, in which case the next iteration does.
-/

namespace BumpinHost.Gpu

open Memory RecordStream

variable {Guest : Type} {env : Env Guest} {s after : RingState Guest} {label : RingLabel}
  {goal : Nat}

theorem PhaseInvariant.afterRing {newOffset : Word} (atOffset : AtOffset s newOffset)
    (parsed : s.machine.lastParsedOffset = newOffset) (reached : Reached s goal) :
    PhaseInvariant { s with phase := afterRing s.machine newOffset } goal := by
  subst parsed
  unfold Gpu.afterRing
  split_ifs
  · exact ⟨atOffset, reached⟩
  · exact ⟨atOffset, reached⟩

/-- One packet of a scan of the ring, whatever stage it belongs to. -/
theorem Covers.packet {target : Nat} {bufferAddr offset size header : Word}
    {m : Machine Guest} (covers : Covers s offset size target) (invariant : RingInvariant s)
    (baseEq : bufferAddr = s.machine.ringBufferBase)
    (found : packetAt s.machine.mem bufferAddr offset size = some header)
    (keeps : KeepsRing s.machine m) :
    RingInvariant
        { s with
          machine := m
          executed := s.executed ++ [packetDwords s.machine.mem bufferAddr offset header] } ∧
      Covers
        { s with
          machine := m
          executed := s.executed ++ [packetDwords s.machine.mem bufferAddr offset header] }
        (offset + packetBytes header) size target := by
  subst baseEq
  have more : offset ≠ size := by
    rintro rfl
    rw [packetAt_bound _ _ (covers.size_le invariant)] at found
    cases found
  obtain ⟨other, packet, next, executedLt, foundNext, dwords, bytes, fits⟩ :=
    covers.next invariant more
  obtain rfl : other = header := Option.some.inj (foundNext.symm.trans found)
  have targetLe : target ≤ s.published := by
    obtain ⟨_, _, _, _, _, _, _, _, targetLe, _⟩ := covers
    exact targetLe
  have executed := invariant.execute next (by omega)
  have covered := covers.execute next executedLt bytes fits
  have same : SamePump { s with executed := s.executed ++ [packet] }
      { s with machine := m, executed := s.executed ++ [packet] } :=
    SamePump.of_keepsRing keeps
  rw [dwords]
  exact ⟨executed.of_keepsRing keeps, covered.of_samePump same executed.executedLe⟩

section Steps

variable (invariant : RingInvariant s) (pump : PhaseInvariant s goal)

include invariant pump

/-- A packet of the ring that a scan acts on is the next one of the stream. -/
theorem packet_preserves {stage : ScanStage} {bufferAddr offset size header : Word}
    {m : Machine Guest} (phaseEq : s.phase = .scanning stage bufferAddr offset size)
    (found : packetAt s.machine.mem bufferAddr offset size = some header)
    (keeps : KeepsRing s.machine m) :
    let next : RingState Guest :=
      { s with
        machine := m
        phase := .scanning stage bufferAddr (offset + packetBytes header) size
        executed :=
          if stage.isRing then
            s.executed ++ [packetDwords s.machine.mem bufferAddr offset header]
          else s.executed }
    RingInvariant next ∧ PhaseInvariant next goal := by
  have publishedLe := invariant.publishedLe
  unfold PhaseInvariant at pump
  rw [phaseEq] at pump
  cases stage with
  | tail plan startOffset =>
      obtain ⟨baseEq, scan⟩ := pump
      by_cases wraps : plan.wrapPending = true
      · rw [if_pos wraps] at scan
        obtain ⟨sizeEq, goalLe, target, t, covers, wrapTarget, targetLe, reached⟩ := scan
        obtain ⟨executed, covered⟩ := covers.packet invariant baseEq found keeps
        have dwordsEq : ringDwords m = ringDwords s.machine := by
          rw [ringDwords, keeps.size, ringDwords]
        refine ⟨{ executed with }, baseEq.trans keeps.base.symm, ?_⟩
        rw [if_pos wraps]
        refine ⟨sizeEq.trans keeps.size.symm, goalLe, target, t, covered, wrapTarget, ?_,
          reached⟩
        show t ≤ ringDwords m
        omega
      · rw [if_neg wraps] at scan
        obtain ⟨executed, covered⟩ := scan.packet invariant baseEq found keeps
        refine ⟨{ executed with }, baseEq.trans keeps.base.symm, ?_⟩
        rw [if_neg wraps]
        exact covered
  | head =>
      obtain ⟨executed, covered⟩ := pump.2.packet invariant pump.1 found keeps
      exact ⟨{ executed with }, pump.1.trans keeps.base.symm, covered⟩
  | systemCommandBuffer newOffset =>
      have same : SamePump s { s with machine := m } := SamePump.of_keepsRing keeps
      have kept := invariant.of_keepsRing keeps
      have reached : Reached { s with machine := m } goal := pump.2.of_samePump same
      have atOffset : AtOffset { s with machine := m } s.machine.lastParsedOffset :=
        pump.1.of_samePump same invariant.executedLe
      rw [← keeps.parsed] at atOffset
      exact ⟨{ kept with }, atOffset, reached⟩

/-- Where a scan stops, it has executed its packets; the frame goes on from there. -/
theorem stop_preserves {stage : ScanStage} {bufferAddr offset size : Word}
    (phaseEq : s.phase = .scanning stage bufferAddr offset size)
    (stops : packetAt s.machine.mem bufferAddr offset size = none) :
    let next : RingState Guest :=
      { s with
        machine := (afterScan s.machine stage offset).1
        phase := (afterScan s.machine stage offset).2 }
    RingInvariant next ∧ PhaseInvariant next goal := by
  -- A scan that is the last one of the ring in this frame.
  have parsed : ∀ newOffset, AtOffset s newOffset →
      (s.executed.length = goal ∨ newOffset = s.machine.ringBufferSize) →
      RingInvariant
        { s with
          machine := finishRing s.machine newOffset
          phase := afterRing (finishRing s.machine newOffset) newOffset } ∧
      PhaseInvariant
        { s with
          machine := finishRing s.machine newOffset
          phase := afterRing (finishRing s.machine newOffset) newOffset } goal := by
    intro newOffset atOffset reached
    refine ⟨{ invariant with }, ?_⟩
    exact PhaseInvariant.afterRing (s := { s with machine := finishRing s.machine newOffset })
      atOffset rfl reached
  unfold PhaseInvariant at pump
  rw [phaseEq] at pump
  cases stage with
  | tail plan startOffset =>
      obtain ⟨rfl, scan⟩ := pump
      by_cases wraps : plan.wrapPending = true
      · rw [if_pos wraps] at scan
        obtain ⟨rfl, goalLe, target, t, covers, wrapTarget, targetLe, reached⟩ := scan
        obtain rfl := covers.eq_of_stops invariant stops
        by_cases follows : followsWrap plan startOffset s.machine.ringBufferSize = true
        · simp only [afterScan, if_pos follows]
          exact ⟨{ invariant with }, rfl,
            covers.follow invariant goalLe wrapTarget targetLe reached⟩
        · simp only [afterScan, if_neg follows]
          exact parsed _ covers.atOffset (Or.inr rfl)
      · rw [if_neg wraps] at scan
        obtain rfl := scan.eq_of_stops invariant stops
        simp only [afterScan, if_neg (not_followsWrap wraps startOffset offset)]
        exact parsed _ scan.atOffset (Or.inl (scan.all invariant))
  | head =>
      obtain ⟨rfl, covers⟩ := pump
      obtain rfl := covers.eq_of_stops invariant stops
      simp only [afterScan]
      exact parsed _ covers.atOffset (Or.inl (covers.all invariant))
  | systemCommandBuffer newOffset =>
      exact ⟨{ invariant with }, pump.1, pump.2⟩

end Steps

/-- The number of packets the last poll saw published. -/
def nextGoal (s : RingState Guest) (label : RingLabel) (goal : Nat) : Nat :=
  match label with
  | .poll _ => s.published
  | _ => goal

/-- Every step keeps both sides of the invariant. -/
theorem ringStep_preserves (step : RingStep env s label after)
    (keepsRing : PacketKeepsRing env s) (outside : WritesBackOutsideRing s.machine)
    (invariant : RingInvariant s) (pump : PhaseInvariant s goal) :
    RingInvariant after ∧ PhaseInvariant after (nextGoal s label goal) := by
  cases step with
  | write slotLt free =>
      exact ⟨invariant.write slotLt free,
        pump.of_samePump (SamePump.write _ _) invariant.executedLe⟩
  | append isPacket inside room written =>
      exact ⟨invariant.append isPacket inside room written,
        pump.of_samePump (SamePump.append invariant.publishedLe _) invariant.executedLe⟩
  | publish more countLe pointer =>
      exact ⟨invariant.publish more countLe pointer,
        pump.of_samePump (SamePump.publish more _) invariant.executedLe⟩
  | otherCode keeps =>
      exact ⟨invariant.of_keepsRing keeps,
        pump.of_samePump (SamePump.of_keepsRing keeps) invariant.executedLe⟩
  | poll phaseEq registered =>
      unfold PhaseInvariant at pump
      rw [phaseEq] at pump
      exact ⟨{ invariant with }, pump.1, invariant.executedLe, Nat.le_refl _,
        invariant.pointer⟩
  | observe phaseEq =>
      unfold PhaseInvariant at pump
      rw [phaseEq] at pump
      rw [observeWritePointer_eq]
      exact ⟨{ invariant with }, pump.1, rfl, pump.2⟩
  | begin phaseEq =>
      unfold PhaseInvariant at pump
      rw [phaseEq] at pump
      obtain ⟨atOffset, observed, points⟩ := pump
      exact ⟨{ invariant with }, rfl, points.plan invariant observed atOffset⟩
  | packet phaseEq found executed =>
      exact packet_preserves invariant pump phaseEq found
        (keepsRing _ _ _ _ _ _ phaseEq found executed)
  | stop phaseEq stops => exact stop_preserves invariant pump phaseEq stops
  | @finish newOffset phaseEq =>
      unfold PhaseInvariant at pump
      rw [phaseEq] at pump
      have keeps := KeepsRing.writeReadPointer outside newOffset
      have same := SamePump.of_keepsRing keeps
      have kept := invariant.of_keepsRing keeps
      have atOffset := pump.1.of_samePump same invariant.executedLe
      rw [← keeps.parsed] at atOffset
      exact ⟨{ kept with }, atOffset, pump.2.of_samePump same⟩

/-- What the assumptions about the rest of the process exclude. -/
def LeavesRingAlone (env : Env Guest) (s : RingState Guest) (_ : RingLabel) : Prop :=
  PacketKeepsRing env s ∧ WritesBackOutsideRing s.machine

theorem RingState.IsRegistered.invariant (registered : s.IsRegistered) :
    RingInvariant s ∧ PhaseInvariant s 0 := by
  obtain ⟨m, physAddr, sizeLog2Raw, fits, rfl⟩ := registered
  have size := registerRingBuffer_size m physAddr fits
  have power : 2 ^ (sizeLog2Raw.toNat + 3) = 4 * (2 ^ sizeLog2Raw.toNat * 2) := by
    rw [pow_add]
    omega
  have positive : 0 < 2 ^ sizeLog2Raw.toNat := Nat.two_pow_pos _
  have dwords : ringDwords (registerRingBuffer m physAddr sizeLog2Raw) =
      2 ^ sizeLog2Raw.toNat * 2 := by
    rw [ringDwords, size, power]
    omega
  have sizeLe : 2 ^ (sizeLog2Raw.toNat + 3) ≤ 2 ^ 31 :=
    Nat.pow_le_pow_right (by decide) (by omega)
  constructor
  · refine
      { sizeEq := ?_
        sizeLe := size.trans_le sizeLe
        positive := ?_
        packets := fun n indexLt => absurd indexLt (Nat.not_lt_zero n)
        inside := fun n indexLt => absurd indexLt (Nat.not_lt_zero n)
        publishedLe := Nat.le_refl 0
        executedLe := Nat.le_refl 0
        inOrder := rfl
        room := ?_
        holds := fun n _ indexLt => absurd indexLt (Nat.not_lt_zero n)
        pointer := ?_ }
    · show (registerRingBuffer m physAddr sizeLog2Raw).ringBufferSize.toNat = 4 * ringDwords _
      rw [dwords, size, power]
    · show 0 < ringDwords _
      rw [dwords]
      omega
    · show position ([] : List (List Word)) 0 < position ([] : List (List Word)) 0 + ringDwords _
      rw [dwords, position_zero]
      omega
    · show 0 = position ([] : List (List Word)) 0 % ringDwords _
      rw [position_zero, Nat.zero_mod]
  · refine ⟨⟨0, rfl, Nat.zero_le _, ?_⟩, Or.inl rfl⟩
    rw [RingState.consumed, List.length_nil, position_zero]

theorem ringHistory_invariant {trace : List RingLabel} {final : RingState Guest}
    (history : ((ringSystem env).restrict (LeavesRingAlone env)).History trace final) :
    RingInvariant final ∧ ∃ goal, PhaseInvariant final goal := by
  refine history.invariant
    (fun _ s => RingInvariant s ∧ ∃ goal, PhaseInvariant s goal) ?_ ?_
  · intro start registered
    exact ⟨registered.invariant.1, 0, registered.invariant.2⟩
  · rintro past before label after _ ⟨invariant, goal, pump⟩ ⟨step, keepsRing, outside⟩
    obtain ⟨kept, pumpKept⟩ := ringStep_preserves step keepsRing outside invariant pump
    exact ⟨kept, _, pumpKept⟩

/-- Steps inside one pump iteration or between two, during which the write pointer keeps
its value. -/
def IsQuiet (writePointer : Word) (label : RingLabel) : Prop :=
  label ≠ .finish ∧ (∀ dwordIndex, label ≠ .poll dwordIndex) ∧
    ∀ dwordIndex, label = .publish dwordIndex → dwordIndex = writePointer

/-- The second of two iterations with the same goal, so far: it has nothing left to
execute in the tail of the ring. -/
def Settled (s : RingState Guest) (goal : Nat) : Prop :=
  match s.phase with
  | .polled _ | .observed => Reached s goal
  | .scanning (.tail plan startOffset) _ offset size =>
      plan.wrapPending = true → offset = startOffset ∧ offset = size
  | .scanning .head _ _ _ => True
  | .idle | .scanning (.systemCommandBuffer _) _ _ _ | .returning _ =>
      s.executed.length = goal

theorem Settled.of_samePump {before : RingState Guest} (same : SamePump before s)
    (settled : Settled before goal) : Settled s goal := by
  unfold Settled at settled ⊢
  rw [same.phase, same.executed]
  cases phaseEq : before.phase with
  | idle =>
      rw [phaseEq] at settled
      exact settled
  | polled dwordIndex =>
      rw [phaseEq] at settled
      exact settled.of_samePump same
  | observed =>
      rw [phaseEq] at settled
      exact settled.of_samePump same
  | scanning stage bufferAddr offset size =>
      rw [phaseEq] at settled
      cases stage with
      | tail plan startOffset => exact settled
      | head => trivial
      | systemCommandBuffer newOffset => exact settled
  | returning newOffset =>
      rw [phaseEq] at settled
      exact settled

/-- A goal that has been reached leaves nothing to scan before a wrap. -/
theorem Covers.eq_of_reached {offset size : Word} {target t : Nat}
    (covers : Covers s offset size target) (executed : s.executed.length = goal)
    (reached : position s.produced goal = position s.produced target + t) :
    offset = size := by
  obtain ⟨o, b, offsetEq, sizeEq, ordered, _, _, _, _, targetEq⟩ := covers
  rw [RingState.consumed, executed] at targetEq
  exact BitVec.eq_of_toNat_eq (by omega)

theorem settled_begin (observed : s.phase = .observed) (invariant : RingInvariant s)
    (pump : PhaseInvariant s goal) (settled : Settled s goal) :
    Settled
      { s with
        machine := beginFrame s.machine
        phase := .scanning
          (.tail (scanPlan (beginFrame s.machine)) s.machine.lastParsedOffset)
          s.machine.ringBufferBase s.machine.lastParsedOffset
          (scanPlan (beginFrame s.machine)).scanBound } goal := by
  unfold PhaseInvariant at pump
  unfold Settled at settled
  rw [observed] at pump settled
  obtain ⟨atOffset, wasObserved, points⟩ := pump
  have plan := points.plan invariant wasObserved atOffset
  intro wraps
  replace wraps : (scanPlan s.machine).wrapPending = true := wraps
  rw [if_pos wraps] at plan
  obtain ⟨sizeEq, _, target, t, covers, _, _, reached⟩ := plan
  refine ⟨rfl, ?_⟩
  show s.machine.lastParsedOffset = (scanPlan s.machine).scanBound
  rcases settled with executed | atEnd
  · exact covers.eq_of_reached executed reached
  · exact atEnd.trans sizeEq.symm

/-- The second iteration stays settled until it has executed everything. -/
theorem ringStep_settled (step : RingStep env s label after) (invariant : RingInvariant s)
    (pump : PhaseInvariant s goal) (settled : Settled s goal)
    (noPoll : ∀ dwordIndex, label ≠ .poll dwordIndex) : Settled after goal := by
  cases step with
  | write slotLt free => exact settled.of_samePump (SamePump.write _ _)
  | append isPacket inside room written =>
      exact settled.of_samePump (SamePump.append invariant.publishedLe _)
  | publish more countLe pointer => exact settled.of_samePump (SamePump.publish more _)
  | otherCode keeps => exact settled.of_samePump (SamePump.of_keepsRing keeps)
  | poll => exact absurd rfl (noPoll _)
  | observe phaseEq =>
      unfold Settled at settled
      rw [phaseEq] at settled
      rw [observeWritePointer_eq]
      exact settled
  | begin phaseEq => exact settled_begin phaseEq invariant pump settled
  | @packet stage bufferAddr offset size header body phaseEq found executed =>
      unfold Settled at settled
      unfold PhaseInvariant at pump
      rw [phaseEq] at settled pump
      cases stage with
      | tail plan startOffset =>
          intro wraps
          obtain ⟨_, rfl⟩ := settled wraps
          obtain ⟨rfl, scan⟩ := pump
          rw [if_pos wraps] at scan
          obtain ⟨_, _, target, t, covers, _⟩ := scan
          rw [packetAt_bound _ _ (covers.size_le invariant)] at found
          cases found
      | head => trivial
      | systemCommandBuffer newOffset => exact settled
  | @stop stage bufferAddr offset size phaseEq stops =>
      unfold Settled at settled
      unfold PhaseInvariant at pump
      rw [phaseEq] at settled pump
      have afterRing_settled : ∀ newOffset, s.executed.length = goal →
          Settled
            { s with
              machine := finishRing s.machine newOffset
              phase := afterRing (finishRing s.machine newOffset) newOffset } goal := by
        intro newOffset executed
        unfold Gpu.afterRing
        split_ifs
        · exact executed
        · exact executed
      cases stage with
      | tail plan startOffset =>
          obtain ⟨rfl, scan⟩ := pump
          by_cases wraps : plan.wrapPending = true
          · have follows : followsWrap plan startOffset offset = true :=
              followsWrap_iff.mpr ⟨wraps, (settled wraps).1⟩
            simp only [afterScan, if_pos follows]
            trivial
          · rw [if_neg wraps] at scan
            obtain rfl := scan.eq_of_stops invariant stops
            simp only [afterScan, if_neg (not_followsWrap wraps startOffset offset)]
            exact afterRing_settled _ (scan.all invariant)
      | head =>
          obtain ⟨rfl, covers⟩ := pump
          obtain rfl := covers.eq_of_stops invariant stops
          exact afterRing_settled _ (covers.all invariant)
      | systemCommandBuffer newOffset => exact settled
  | @finish newOffset phaseEq =>
      unfold Settled at settled
      rw [phaseEq] at settled
      exact settled

/-- Two whole iterations at the end of a history that poll the same pointer value, with
nothing around them that changes it. -/
structure EndsInTwoIterations (trace : List RingLabel) (writePointer : Word) : Prop where
  shape : ∃ past first gap second,
    trace = past ++ .poll writePointer :: (first ++ .finish :: (gap ++
      .poll writePointer :: (second ++ [.finish]))) ∧
    (∀ label ∈ first, IsQuiet writePointer label) ∧
    (∀ label ∈ gap, IsQuiet writePointer label) ∧
    ∀ label ∈ second, IsQuiet writePointer label

/-- Exactly-once consumption, at the end of a history. -/
structure ConsumesExactlyOnce (trace : List RingLabel) (final : RingState Guest) : Prop where
  inOrder : final.executed <+: final.produced.take final.published
  complete : ∀ writePointer, EndsInTwoIterations trace writePointer →
    final.executed = final.produced.take final.published

section TwoIterations

variable {env : Env Guest} {writePointer : Word} {labels : List RingLabel}
  {final : RingState Guest}

/-- Quiet steps publish nothing and keep the goal. -/
theorem quietRun_preserves
    (run : ((ringSystem env).restrict (LeavesRingAlone env)).Run s labels final)
    (quiet : ∀ label ∈ labels, IsQuiet writePointer label)
    (pointerEq : s.writePointer = writePointer) (invariant : RingInvariant s)
    (pump : PhaseInvariant s goal) :
    RingInvariant final ∧ PhaseInvariant final goal ∧ final.published = s.published ∧
      final.writePointer = writePointer ∧ (Settled s goal → Settled final goal) := by
  revert quiet
  refine run.invariant
    (fun labels state => (∀ label ∈ labels, IsQuiet writePointer label) →
      RingInvariant state ∧ PhaseInvariant state goal ∧ state.published = s.published ∧
        state.writePointer = writePointer ∧ (Settled s goal → Settled state goal)) ?_ ?_
  · intro _
    exact ⟨invariant, pump, rfl, pointerEq, fun settled => settled⟩
  · rintro past before label after _ ih ⟨step, keepsRing, outside⟩ quiet
    obtain ⟨invariant, pump, published, pointer, settled⟩ :=
      ih (fun label member => quiet label (List.mem_append_left _ member))
    obtain ⟨_, noPoll, samePointer⟩ := quiet label (by simp)
    obtain ⟨kept, pumpKept⟩ := ringStep_preserves step keepsRing outside invariant pump
    have sameGoal : nextGoal before label goal = goal := by
      cases label with
      | poll dwordIndex => exact absurd rfl (noPoll dwordIndex)
      | _ => rfl
    rw [sameGoal] at pumpKept
    refine ⟨kept, pumpKept, ?_, ?_,
      fun start => ringStep_settled step invariant pump (settled start) noPoll⟩
    · cases step with
      | publish more countLe pointerIs =>
          rw [samePointer _ rfl, ← pointer] at pointerIs
          exact (invariant.published_eq more countLe pointerIs).trans published
      | _ => exact published
    · cases step with
      | publish more countLe pointerIs => exact samePointer _ rfl
      | _ => exact pointer

/-- One whole iteration after a poll: it reaches what was published, and executes it all if
it had nothing left in the tail. -/
theorem iteration_preserves
    (run : ((ringSystem env).restrict (LeavesRingAlone env)).Run s
      (.poll writePointer :: (labels ++ [.finish])) final)
    (quiet : ∀ label ∈ labels, IsQuiet writePointer label)
    (invariant : RingInvariant s) (pump : PhaseInvariant s goal) :
    RingInvariant final ∧ PhaseInvariant final s.published ∧ final.phase = .idle ∧
      final.published = s.published ∧ final.writePointer = writePointer ∧
      (goal = s.published → final.executed.length = s.published) := by
  obtain ⟨polled, ⟨pollStep, keepsRing, outside⟩, rest⟩ := run.of_cons
  obtain ⟨pollInvariant, pollPump⟩ :=
    ringStep_preserves pollStep keepsRing outside invariant pump
  have settled : goal = s.published → Settled polled s.published := by
    intro sameGoal
    cases pollStep with
    | poll phaseEq registered =>
        unfold PhaseInvariant at pump
        rw [phaseEq] at pump
        exact sameGoal ▸ pump.2
  have pointerEq : polled.writePointer = writePointer := by
    cases pollStep
    rfl
  have publishedEq : polled.published = s.published := by
    cases pollStep
    rfl
  obtain ⟨before, middle, last⟩ := rest.split
  obtain ⟨middleInvariant, middlePump, published, pointer, settledKept⟩ :=
    quietRun_preserves middle quiet pointerEq pollInvariant pollPump
  obtain ⟨_, ⟨finishStep, keepsRingLast, outsideLast⟩, ending⟩ := last.of_cons
  obtain rfl := ending.eq_of_nil
  obtain ⟨finalInvariant, finalPump⟩ :=
    ringStep_preserves finishStep keepsRingLast outsideLast middleInvariant middlePump
  refine ⟨finalInvariant, finalPump, ?_, ?_, ?_, ?_⟩
  · cases finishStep
    rfl
  · cases finishStep
    exact published.trans publishedEq
  · cases finishStep
    exact pointer
  · intro sameGoal
    have finalSettled := settledKept (settled sameGoal)
    cases finishStep with
    | finish phaseEq =>
        unfold Settled at finalSettled
        rw [phaseEq] at finalSettled
        exact finalSettled

end TwoIterations

/-- In every run of the producer and the pump in which packets, callbacks and the
write-back of the read pointer leave the ring alone, the executed packets are a prefix of
the packets the write pointer covers, and after two iterations with the same write pointer
they are all of them. -/
theorem ring_consumesExactlyOnce (env : Env Guest) {trace : List RingLabel}
    {final : RingState Guest}
    (history : ((ringSystem env).restrict (LeavesRingAlone env)).History trace final) :
    ConsumesExactlyOnce trace final := by
  have inOrder : ∀ {state : RingState Guest}, RingInvariant state →
      state.executed <+: state.produced.take state.published := by
    intro state invariant
    rw [invariant.inOrder]
    exact List.take_prefix_take_left invariant.executedLe
  refine ⟨inOrder (ringHistory_invariant history).1, ?_⟩
  rintro writePointer ⟨past, first, gap, second, rfl, quietFirst, quietGap, quietSecond⟩
  obtain ⟨start, isInit, run⟩ := history
  obtain ⟨polling, pastRun, rest⟩ := run.split
  obtain ⟨invariant, goal, pump⟩ := ringHistory_invariant ⟨start, isInit, pastRun⟩
  have regroup : RingLabel.poll writePointer :: (first ++ .finish :: (gap ++
      .poll writePointer :: (second ++ [.finish]))) =
      (.poll writePointer :: (first ++ [.finish])) ++ (gap ++
        .poll writePointer :: (second ++ [.finish])) := by simp
  rw [regroup] at rest
  obtain ⟨between, firstRun, rest⟩ := rest.split
  obtain ⟨betweenInvariant, betweenPump, _, betweenPublished, betweenPointer, _⟩ :=
    iteration_preserves firstRun quietFirst invariant pump
  obtain ⟨again, gapRun, secondRun⟩ := rest.split
  obtain ⟨againInvariant, againPump, againPublished, _, _⟩ :=
    quietRun_preserves gapRun quietGap betweenPointer betweenInvariant betweenPump
  obtain ⟨finalInvariant, _, _, finalPublished, _, complete⟩ :=
    iteration_preserves secondRun quietSecond againInvariant againPump
  have executed : final.executed.length = final.published := by
    rw [complete (againPublished.trans betweenPublished).symm, finalPublished]
  have order := finalInvariant.inOrder
  rw [executed] at order
  exact order

theorem packetKeepsRing_of_not_scanning
    (notScanning : ∀ stage bufferAddr offset size,
      s.phase ≠ .scanning stage bufferAddr offset size) : PacketKeepsRing env s :=
  fun stage bufferAddr offset size _ _ phaseEq =>
    absurd phaseEq (notScanning stage bufferAddr offset size)

theorem packetKeepsRing_of_stops {stage : ScanStage} {bufferAddr offset size : Word}
    (phaseEq : s.phase = .scanning stage bufferAddr offset size)
    (stops : packetAt s.machine.mem bufferAddr offset size = none) : PacketKeepsRing env s := by
  intro _ _ _ _ header body otherEq found
  rw [phaseEq] at otherEq
  injection otherEq with _ addrEq offsetEq sizeEq
  rw [← addrEq, ← offsetEq, ← sizeEq, stops] at found
  cases found

/-- The machine after a frame that finds no packet, with no system command buffer. -/
def emptyFrame (m : Machine Guest) : Machine Guest :=
  writeReadPointer (finishRing (beginFrame m) m.lastParsedOffset) m.lastParsedOffset

theorem emptyIteration_run {allowed : RingState Guest → RingLabel → Prop} {m : Machine Guest}
    (allows : ∀ between label, PacketKeepsRing env between →
      between.machine.rptrWriteBackAddr = m.rptrWriteBackAddr → allowed between label)
    (phaseEq : s.phase = .idle) (registered : hasRingBuffer s.machine = true)
    (machineEq : observeWritePointer s.machine s.writePointer = m)
    (sameWriteBack : s.machine.rptrWriteBackAddr = m.rptrWriteBackAddr)
    (noSystem : m.systemCmdBufAddr = 0) (noWrap : (scanPlan m).wrapPending = false)
    (stops : packetAt m.mem m.ringBufferBase m.lastParsedOffset (scanPlan m).scanBound = none) :
    ((ringSystem env).restrict allowed).Run s
      [.poll s.writePointer, .observe, .begin, .stop, .finish]
      { s with machine := emptyFrame m, phase := .idle } := by
  have polled : RingStep env s (.poll s.writePointer)
      { s with phase := .polled s.writePointer } := .poll phaseEq registered
  have observed : RingStep env { s with phase := .polled s.writePointer } .observe
      { s with machine := m, phase := .observed } := machineEq ▸ .observe rfl
  have begun : RingStep env { s with machine := m, phase := .observed } .begin
      { s with
        machine := beginFrame m
        phase := .scanning (.tail (scanPlan m) m.lastParsedOffset) m.ringBufferBase
          m.lastParsedOffset (scanPlan m).scanBound } := .begin rfl
  have noFollow : ¬ followsWrap (scanPlan m) m.lastParsedOffset m.lastParsedOffset = true := by
    simp [followsWrap, noWrap]
  have returns : afterRing (finishRing (beginFrame m) m.lastParsedOffset) m.lastParsedOffset =
      .returning m.lastParsedOffset := by
    exact if_neg (by simpa [finishRing, beginFrame] using noSystem)
  have stopped : RingStep env
      { s with
        machine := beginFrame m
        phase := .scanning (.tail (scanPlan m) m.lastParsedOffset) m.ringBufferBase
          m.lastParsedOffset (scanPlan m).scanBound } .stop
      { s with
        machine := finishRing (beginFrame m) m.lastParsedOffset
        phase := .returning m.lastParsedOffset } := by
    have step : RingStep env
        { s with
          machine := beginFrame m
          phase := .scanning (.tail (scanPlan m) m.lastParsedOffset) m.ringBufferBase
            m.lastParsedOffset (scanPlan m).scanBound } .stop _ := .stop rfl stops
    simpa only [afterScan, if_neg noFollow, returns] using step
  have finished : RingStep env
      { s with
        machine := finishRing (beginFrame m) m.lastParsedOffset
        phase := .returning m.lastParsedOffset } .finish
      { s with machine := emptyFrame m, phase := .idle } := .finish rfl
  refine .head ⟨polled, allows _ _ ?_ sameWriteBack⟩ (.head
    ⟨observed, allows _ _ ?_ sameWriteBack⟩ (.head ⟨begun, allows _ _ ?_ rfl⟩ (.head
      ⟨stopped, allows _ _ ?_ rfl⟩ (.single ⟨finished, allows _ _ ?_ rfl⟩))))
  · exact packetKeepsRing_of_not_scanning (by simp [phaseEq])
  · exact packetKeepsRing_of_not_scanning (by simp)
  · exact packetKeepsRing_of_not_scanning (by simp)
  · exact packetKeepsRing_of_stops rfl stops
  · exact packetKeepsRing_of_not_scanning (by simp)

/-- A packet of one filler dword. -/
def fillerPacket : List Word := [0x80000000]

theorem isRingPacket_fillerPacket : IsRingPacket fillerPacket where
  nonempty := by decide
  nonzero := by decide
  decodes := by decide
  length := by decide

/-- An empty ring of eight bytes at `0x1000`, with the given read-pointer write-back. -/
def smallRing (rptrWriteBackAddr : Word) : RingState Unit :=
  ⟨registerRingBuffer
      { Machine.initial (fun _ => 0) () with rptrWriteBackAddr := rptrWriteBackAddr } 0x1000 0,
    0, .idle, [], 0, []⟩

theorem smallRing_isRegistered (rptrWriteBackAddr : Word) :
    (smallRing rptrWriteBackAddr).IsRegistered :=
  ⟨_, 0x1000, 0, by decide, rfl⟩

theorem smallRing_dwords (rptrWriteBackAddr : Word) :
    ringDwords (smallRing rptrWriteBackAddr).machine = 2 := by
  show ((1 : Word) <<< ((0 : Word) + 3).toNat).toNat / 4 = 2
  decide

/-- The ring after one filler packet has been written to its first slot. -/
def smallRingProduced (rptrWriteBackAddr : Word) : RingState Unit :=
  { smallRing rptrWriteBackAddr with
    machine :=
      { (smallRing rptrWriteBackAddr).machine with
        mem := storeU32 (fun _ => 0) 0x1000 0x80000000 }
    produced := [fillerPacket] }

theorem smallRing_produce {rptrWriteBackAddr : Word}
    {allowed : RingState Unit → RingLabel → Prop}
    (idle : ∀ s label, s.phase = .idle →
      s.machine.rptrWriteBackAddr = rptrWriteBackAddr → allowed s label) :
    ((ringSystem Env.idle).restrict allowed).Run
      (smallRing rptrWriteBackAddr) [.write 0 0x80000000, .append fillerPacket]
      (smallRingProduced rptrWriteBackAddr) := by
  have written : RingStep Env.idle (smallRing rptrWriteBackAddr) (.write 0 0x80000000)
      { smallRing rptrWriteBackAddr with
        machine := (smallRingProduced rptrWriteBackAddr).machine } := by
    refine .write (by rw [smallRing_dwords]; decide) ?_
    intro index _ indexLt
    exact absurd indexLt (Nat.not_lt_zero index)
  have dwords : ringDwords (smallRingProduced rptrWriteBackAddr).machine = 2 :=
    smallRing_dwords rptrWriteBackAddr
  have appended : RingStep Env.idle
      { smallRing rptrWriteBackAddr with
        machine := (smallRingProduced rptrWriteBackAddr).machine } (.append fillerPacket)
      (smallRingProduced rptrWriteBackAddr) := by
    have fits : 0 % ringDwords (smallRingProduced rptrWriteBackAddr).machine + 1 ≤
        ringDwords (smallRingProduced rptrWriteBackAddr).machine := by rw [dwords]; decide
    have room : 0 + 1 < 0 + ringDwords (smallRingProduced rptrWriteBackAddr).machine := by
      rw [dwords]; decide
    refine .append isRingPacket_fillerPacket fits room ?_
    intro k indexLt
    obtain rfl : k = 0 := Nat.lt_one_iff.mp indexLt
    exact loadU32_storeU32_same _ _ _
  exact .head ⟨written, idle _ _ rfl rfl⟩ (.single ⟨appended, idle _ _ rfl rfl⟩)

theorem packetKeepsRing_of_idle (phaseEq : s.phase = .idle) : PacketKeepsRing env s :=
  packetKeepsRing_of_not_scanning (by simp [phaseEq])

/-- The filler packet is executed without effect. -/
theorem executes_fillerPacket (m : Machine Unit) (bufferAddr offset : Word) :
    Executes Env.idle m bufferAddr offset 0x80000000 0 (m, []) :=
  ⟨0, rfl⟩

/-- The ring after the packet has been published and executed. -/
def smallRingExecuted : RingState Unit :=
  { smallRingProduced 0 with
    machine := finishRing (beginFrame (observeWritePointer (smallRingProduced 0).machine 1)) 4
    published := 1
    writePointer := 1
    executed := [fillerPacket] }

theorem smallRing_execute :
    ((ringSystem Env.idle).restrict (LeavesRingAlone Env.idle)).Run
      { smallRingProduced 0 with published := 1, writePointer := 1 }
      [.poll 1, .observe, .begin, .packet, .stop, .finish] smallRingExecuted := by
  let published : RingState Unit := { smallRingProduced 0 with published := 1, writePointer := 1 }
  let observed := observeWritePointer published.machine 1
  let scanning : RingState Unit :=
    { published with
      machine := beginFrame observed
      phase := .scanning (.tail (scanPlan (beginFrame observed)) 0) 0x1000 0 4 }
  have polls : RingStep Env.idle published (.poll 1) { published with phase := .polled 1 } :=
    .poll rfl (by decide)
  have observes : RingStep Env.idle { published with phase := .polled 1 } .observe
      { published with machine := observed, phase := .observed } := .observe rfl
  have begins : RingStep Env.idle { published with machine := observed, phase := .observed }
      .begin scanning := .begin rfl
  have found : packetAt scanning.machine.mem 0x1000 0 4 = some 0x80000000 := by decide
  have dwords : packetDwords scanning.machine.mem 0x1000 0 0x80000000 = fillerPacket := by decide
  let executed : RingState Unit :=
    { scanning with
      phase := .scanning (.tail (scanPlan (beginFrame observed)) 0) 0x1000 4 4
      executed := [fillerPacket] }
  have executes : RingStep Env.idle scanning .packet executed := by
    have step : RingStep Env.idle scanning .packet _ :=
      .packet rfl found (executes_fillerPacket _ _ _)
    rw [dwords, show packetBytes 0x80000000 = 4 by decide] at step
    exact step
  have last : packetAt executed.machine.mem 0x1000 4 4 = none := by decide
  have stops : RingStep Env.idle executed .stop
      { smallRingExecuted with phase := .returning 4 } := .stop rfl last
  have finishes : RingStep Env.idle { smallRingExecuted with phase := .returning 4 } .finish
      smallRingExecuted := .finish rfl
  have quiet : PacketKeepsRing Env.idle scanning := by
    intro stage bufferAddr offset size header body phaseEq headerEq executesBody
    injection phaseEq with _ addrEq offsetEq sizeEq
    subst addrEq offsetEq sizeEq
    obtain rfl : 0x80000000 = header := Option.some.inj (found.symm.trans headerEq)
    rw [executesBody.unique (executes_fillerPacket _ _ _)]
    exact ⟨rfl, rfl, rfl, rfl, rfl, fun _ _ => rfl⟩
  refine .head ⟨polls, packetKeepsRing_of_idle rfl, .inl rfl⟩ (.head
    ⟨observes, packetKeepsRing_of_not_scanning ?_, .inl rfl⟩ (.head
      ⟨begins, packetKeepsRing_of_not_scanning ?_, .inl rfl⟩ (.head
        ⟨executes, quiet, .inl rfl⟩ (.head ⟨stops, packetKeepsRing_of_stops rfl last, .inl rfl⟩
          (.single ⟨finishes, packetKeepsRing_of_not_scanning ?_, .inl rfl⟩)))))
  all_goals simp

/-- The packet is executed once: the second iteration after it has been published finds
nothing. -/
theorem ring_consumesExactlyOnce_smallRing :
    ∃ trace, ∃ final : RingState Unit, EndsInTwoIterations trace 1 ∧ .packet ∈ trace ∧
      ConsumesExactlyOnce trace final ∧ final.executed = [fillerPacket] := by
  have produced : ((ringSystem Env.idle).restrict (LeavesRingAlone Env.idle)).Run (smallRing 0)
      [.write 0 0x80000000, .append fillerPacket] (smallRingProduced 0) :=
    smallRing_produce fun _ _ phaseEq unregistered =>
      ⟨packetKeepsRing_of_idle phaseEq, .inl unregistered⟩
  have publishes : RingStep Env.idle (smallRingProduced 0) (.publish 1)
      { smallRingProduced 0 with published := 1, writePointer := 1 } :=
    .publish (Nat.zero_le 1) (Nat.le_refl 1) (by decide)
  have again : ((ringSystem Env.idle).restrict (LeavesRingAlone Env.idle)).Run
      smallRingExecuted _ _ :=
    emptyIteration_run (fun _ _ keeps same => ⟨keeps, .inl same⟩) rfl (by decide) rfl rfl rfl
      (by decide) (by decide)
  have run := ((produced.tail ⟨publishes, packetKeepsRing_of_idle rfl, .inl rfl⟩).trans
    smallRing_execute).trans again
  have iterations : EndsInTwoIterations _ 1 :=
    ⟨[.write 0 0x80000000, .append fillerPacket, .publish 1],
      [.observe, .begin, .packet, .stop], [], [.observe, .begin, .stop], rfl,
      by simp [IsQuiet], by simp, by simp [IsQuiet]⟩
  have consumes := ring_consumesExactlyOnce Env.idle ⟨_, smallRing_isRegistered 0, run⟩
  exact ⟨_, _, iterations, by simp, consumes, consumes.complete 1 iterations⟩

/-- The machine of the ring whose read pointer is written back to its first slot, after a
number of iterations. -/
def overwrittenMachine : Nat → Machine Unit
  | 0 => emptyFrame (observeWritePointer (smallRingProduced 0x1000).machine 0)
  | n + 1 => emptyFrame (observeWritePointer (overwrittenMachine n) 1)

/-- Written back into the ring, the read pointer destroys a packet before it is
published, and no later iteration executes it. -/
theorem ring_overwrittenByReadPointer :
    ¬ ∀ (trace : List RingLabel) (final : RingState Unit),
      ((ringSystem Env.idle).restrict fun s _ => PacketKeepsRing Env.idle s).History
        trace final → ConsumesExactlyOnce trace final := by
  intro consumes
  let published : RingState Unit :=
    { smallRingProduced 0x1000 with
      machine := overwrittenMachine 0, published := 1, writePointer := 1 }
  have before : ((ringSystem Env.idle).restrict fun s _ => PacketKeepsRing Env.idle s).Run
      (smallRingProduced 0x1000) _ { published with published := 0, writePointer := 0 } :=
    emptyIteration_run (fun _ _ keeps _ => keeps) rfl (by decide) rfl rfl rfl (by decide)
      (by decide)
  have publishes : RingStep Env.idle { published with published := 0, writePointer := 0 }
      (.publish 1) published :=
    .publish (Nat.zero_le 1) (Nat.le_refl 1) (by decide)
  have first : ((ringSystem Env.idle).restrict fun s _ => PacketKeepsRing Env.idle s).Run
      published _ { published with machine := overwrittenMachine 1 } :=
    emptyIteration_run (fun _ _ keeps _ => keeps) rfl (by decide) rfl rfl rfl (by decide)
      (by decide)
  have second : ((ringSystem Env.idle).restrict fun s _ => PacketKeepsRing Env.idle s).Run
      { published with machine := overwrittenMachine 1 } _
      { published with machine := overwrittenMachine 2 } :=
    emptyIteration_run (fun _ _ keeps _ => keeps) rfl (by decide) rfl rfl rfl (by decide)
      (by decide)
  have produced : ((ringSystem Env.idle).restrict fun s _ => PacketKeepsRing Env.idle s).Run
      (smallRing 0x1000) [.write 0 0x80000000, .append fillerPacket] (smallRingProduced 0x1000) :=
    smallRing_produce fun _ _ phaseEq _ => packetKeepsRing_of_idle phaseEq
  have run := (((produced.trans before).tail
    ⟨publishes, packetKeepsRing_of_idle rfl⟩).trans first).trans second
  have complete := (consumes _ _ ⟨_, smallRing_isRegistered 0x1000, run⟩).complete 1
    ⟨[.write 0 0x80000000, .append fillerPacket, .poll 0, .observe, .begin, .stop, .finish,
      .publish 1], [.observe, .begin, .stop], [], [.observe, .begin, .stop], rfl,
      by simp [IsQuiet], by simp, by simp [IsQuiet]⟩
  exact absurd complete (by decide)

end BumpinHost.Gpu
