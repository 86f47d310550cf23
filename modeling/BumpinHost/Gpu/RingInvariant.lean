import BumpinHost.Gpu.RingSystem

/-!
# The ring invariant

The dwords of the packets that have not been executed are still in the ring, the
pump's offset agrees with the stream position it has reached, up to the ambiguity
between the end of the ring and its start, and a scan that is under way ends at a
packet boundary that the write pointer covered when it was polled.
-/

namespace BumpinHost.Gpu

open Memory RecordStream

variable {Guest : Type}

/-- The producer's side, and how far the pump has come. -/
structure RingInvariant (s : RingState Guest) : Prop where
  sizeEq : s.machine.ringBufferSize.toNat = 4 * ringDwords s.machine
  sizeLe : s.machine.ringBufferSize.toNat ≤ 2 ^ 31
  positive : 0 < ringDwords s.machine
  packets : ∀ n (indexLt : n < s.produced.length), IsRingPacket s.produced[n]
  inside : ∀ n (indexLt : n < s.produced.length),
    position s.produced n % ringDwords s.machine + s.produced[n].length ≤
      ringDwords s.machine
  publishedLe : s.published ≤ s.produced.length
  executedLe : s.executed.length ≤ s.published
  inOrder : s.executed = s.produced.take s.executed.length
  room : position s.produced s.produced.length < s.consumed + ringDwords s.machine
  holds : ∀ n k (indexLt : n < s.produced.length), s.executed.length ≤ n →
    ∀ dwordLt : k < s.produced[n].length,
      ringDword s.machine (position s.produced n % ringDwords s.machine + k) =
        s.produced[n][k]
  pointer : s.writePointer.toNat =
    position s.produced s.published % ringDwords s.machine

/-- The offset is where the stream position lies in the ring; the end of the ring
stands for its start. -/
def AtOffset (s : RingState Guest) (offset : Word) : Prop :=
  ∃ o, offset.toNat = 4 * o ∧ o ≤ ringDwords s.machine ∧
    s.consumed % ringDwords s.machine = o % ringDwords s.machine

/-- Scanning on from an offset to a bound executes the packets up to a target. -/
def Covers (s : RingState Guest) (offset size : Word) (target : Nat) : Prop :=
  ∃ o b, offset.toNat = 4 * o ∧ size.toNat = 4 * b ∧ o ≤ b ∧ b ≤ ringDwords s.machine ∧
    s.consumed % ringDwords s.machine = o % ringDwords s.machine ∧
    s.executed.length ≤ target ∧ target ≤ s.published ∧
    position s.produced target = s.consumed + (b - o)

/-- A write pointer value that was right when a number of packets was published. -/
def Points (s : RingState Guest) (dwordIndex : Word) (target : Nat) : Prop :=
  s.executed.length ≤ target ∧ target ≤ s.published ∧
    dwordIndex.toNat = position s.produced target % ringDwords s.machine

/-- All packets up to the goal have been executed, or a wrap is still to be followed. -/
def Reached (s : RingState Guest) (goal : Nat) : Prop :=
  s.executed.length = goal ∨ s.machine.lastParsedOffset = s.machine.ringBufferSize

/-- The pump's side: `goal` is the number of packets that were published at the last poll. -/
def PhaseInvariant (s : RingState Guest) (goal : Nat) : Prop :=
  match s.phase with
  | .idle => AtOffset s s.machine.lastParsedOffset ∧ Reached s goal
  | .polled dwordIndex => AtOffset s s.machine.lastParsedOffset ∧ Points s dwordIndex goal
  | .observed =>
      AtOffset s s.machine.lastParsedOffset ∧ s.machine.wptrObserved = true ∧
        Points s s.machine.lastWptrDwords goal
  | .scanning (.tail plan _) bufferAddr offset size =>
      bufferAddr = s.machine.ringBufferBase ∧
        if plan.wrapPending then
          size = s.machine.ringBufferSize ∧ goal ≤ s.published ∧
            ∃ target t, Covers s offset size target ∧ plan.wrapTargetBytes.toNat = 4 * t ∧
              t ≤ ringDwords s.machine ∧
              position s.produced goal = position s.produced target + t
        else Covers s offset size goal
  | .scanning .head bufferAddr offset size =>
      bufferAddr = s.machine.ringBufferBase ∧ Covers s offset size goal
  | .scanning (.systemCommandBuffer _) _ _ _ =>
      AtOffset s s.machine.lastParsedOffset ∧ Reached s goal
  | .returning _ => AtOffset s s.machine.lastParsedOffset ∧ Reached s goal

/-- What the pump's side depends on is the same, except that more may be published. -/
structure SamePump (before after : RingState Guest) : Prop where
  phase : after.phase = before.phase
  executed : after.executed = before.executed
  base : after.machine.ringBufferBase = before.machine.ringBufferBase
  size : after.machine.ringBufferSize = before.machine.ringBufferSize
  parsed : after.machine.lastParsedOffset = before.machine.lastParsedOffset
  pointer : after.machine.lastWptrDwords = before.machine.lastWptrDwords
  observed : after.machine.wptrObserved = before.machine.wptrObserved
  publishedLe : before.published ≤ after.published
  positions : ∀ n, n ≤ before.published →
    position after.produced n = position before.produced n

theorem SamePump.ringDwords {before after : RingState Guest} (same : SamePump before after) :
    ringDwords after.machine = ringDwords before.machine := by
  rw [Gpu.ringDwords, same.size, Gpu.ringDwords]

theorem SamePump.consumed {before after : RingState Guest} (same : SamePump before after)
    (executedLe : before.executed.length ≤ before.published) :
    after.consumed = before.consumed := by
  rw [RingState.consumed, same.executed, same.positions _ executedLe, RingState.consumed]

section SamePump

variable {before after : RingState Guest} (same : SamePump before after)
  (executedLe : before.executed.length ≤ before.published)

include same executedLe

theorem AtOffset.of_samePump {offset : Word} (atOffset : AtOffset before offset) :
    AtOffset after offset := by
  obtain ⟨o, offsetEq, offsetLe, slots⟩ := atOffset
  refine ⟨o, offsetEq, ?_, ?_⟩
  · rw [same.ringDwords]
    exact offsetLe
  · rw [same.ringDwords, same.consumed executedLe]
    exact slots

theorem Covers.of_samePump {offset size : Word} {target : Nat}
    (covers : Covers before offset size target) : Covers after offset size target := by
  obtain ⟨o, b, offsetEq, sizeEq, ordered, boundLe, slots, executed, published, reached⟩ :=
    covers
  have publishedLe := same.publishedLe
  refine ⟨o, b, offsetEq, sizeEq, ordered, ?_, ?_, ?_, by omega, ?_⟩
  · rw [same.ringDwords]
    exact boundLe
  · rw [same.ringDwords, same.consumed executedLe]
    exact slots
  · rw [same.executed]
    exact executed
  · rw [same.positions target published, same.consumed executedLe]
    exact reached

omit executedLe in
theorem Points.of_samePump {dwordIndex : Word} {target : Nat}
    (points : Points before dwordIndex target) : Points after dwordIndex target := by
  obtain ⟨executed, published, pointer⟩ := points
  have publishedLe := same.publishedLe
  refine ⟨?_, by omega, ?_⟩
  · rw [same.executed]
    exact executed
  · rw [same.ringDwords, same.positions target published]
    exact pointer

omit executedLe in
theorem Reached.of_samePump {goal : Nat} (reached : Reached before goal) :
    Reached after goal := by
  unfold Reached at reached ⊢
  rw [same.executed, same.parsed, same.size]
  exact reached

theorem PhaseInvariant.of_samePump {goal : Nat} (pump : PhaseInvariant before goal) :
    PhaseInvariant after goal := by
  unfold PhaseInvariant at pump ⊢
  rw [same.phase]
  cases phaseEq : before.phase with
  | idle =>
      simp only [phaseEq, same.parsed] at pump ⊢
      exact ⟨pump.1.of_samePump same executedLe, pump.2.of_samePump same⟩
  | polled dwordIndex =>
      simp only [phaseEq, same.parsed] at pump ⊢
      exact ⟨pump.1.of_samePump same executedLe, pump.2.of_samePump same⟩
  | observed =>
      simp only [phaseEq, same.parsed, same.observed, same.pointer] at pump ⊢
      exact ⟨pump.1.of_samePump same executedLe, pump.2.1, pump.2.2.of_samePump same⟩
  | scanning stage bufferAddr offset size =>
      cases stage with
      | tail plan startOffset =>
          simp only [phaseEq, same.base, same.size] at pump ⊢
          refine ⟨pump.1, ?_⟩
          have scan := pump.2
          split_ifs at scan ⊢
          · obtain ⟨sizeEq, goalLe, target, t, covers, wrapTarget, targetLe, reached⟩ := scan
            have published := same.publishedLe
            have targetPublished : target ≤ before.published := by
              obtain ⟨_, _, _, _, _, _, _, _, targetPublished, _⟩ := covers
              exact targetPublished
            refine ⟨sizeEq, by omega, target, t, covers.of_samePump same executedLe,
              wrapTarget, ?_, ?_⟩
            · rw [same.ringDwords]
              exact targetLe
            · rw [same.positions goal goalLe, same.positions target targetPublished]
              exact reached
          · exact scan.of_samePump same executedLe
      | head =>
          simp only [phaseEq, same.base] at pump ⊢
          exact ⟨pump.1, pump.2.of_samePump same executedLe⟩
      | systemCommandBuffer newOffset =>
          simp only [phaseEq, same.parsed] at pump ⊢
          exact ⟨pump.1.of_samePump same executedLe, pump.2.of_samePump same⟩
  | returning newOffset =>
      simp only [phaseEq, same.parsed] at pump ⊢
      exact ⟨pump.1.of_samePump same executedLe, pump.2.of_samePump same⟩

end SamePump

end BumpinHost.Gpu
