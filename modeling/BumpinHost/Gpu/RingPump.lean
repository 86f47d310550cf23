import BumpinHost.Gpu.RingProducer

/-!
# Pump steps and the ring invariant

While a scan has not reached its bound, the next packet of the stream lies at its
offset and is executed; at the bound the scan stops.  A write pointer behind the
offset means that the stream has wrapped exactly once.
-/

namespace BumpinHost.Gpu

open Memory RecordStream

variable {Guest : Type} {s : RingState Guest} {offset size : Word} {target goal : Nat}

/-- The dwords of the next packet of the stream, where the scan looks for them. -/
theorem Covers.next (covers : Covers s offset size target) (invariant : RingInvariant s)
    (more : offset ≠ size) :
    ∃ header packet, s.produced[s.executed.length]? = some packet ∧
      s.executed.length < target ∧
      packetAt s.machine.mem s.machine.ringBufferBase offset size = some header ∧
      packetDwords s.machine.mem s.machine.ringBufferBase offset header = packet ∧
      (packetBytes header).toNat = 4 * packet.length ∧
      offset.toNat + 4 * packet.length ≤ size.toNat := by
  obtain ⟨o, b, offsetEq, sizeEq, ordered, boundLe, slots, executedLe, targetLe, reached⟩ :=
    covers
  have publishedLe := invariant.publishedLe
  have sizeLe := invariant.sizeLe
  have ringSize := invariant.sizeEq
  have before : o < b := by
    by_contra atBound
    exact more (BitVec.eq_of_toNat_eq (by omega))
  have executedLt : s.executed.length < target := by
    by_contra all
    have same : s.executed.length = target := by omega
    rw [RingState.consumed, same] at reached
    omega
  have indexLt : s.executed.length < s.produced.length := by omega
  have isPacket := invariant.packets _ indexLt
  have inside := invariant.inside _ indexLt
  have successor := position_succ indexLt
  have withinTarget : position s.produced (s.executed.length + 1) ≤
      position s.produced target := position_le_of_le executedLt
  have slot : position s.produced s.executed.length % ringDwords s.machine = o := by
    rw [RingState.consumed] at slots
    rw [slots]
    exact Nat.mod_eq_of_lt (by omega)
  rw [slot] at inside
  rw [RingState.consumed] at reached
  have loads : ∀ k (dwordLt : k < s.produced[s.executed.length].length),
      loadU32 s.machine.mem (s.machine.ringBufferBase + offset + BitVec.ofNat 32 (4 * k)) =
        s.produced[s.executed.length][k] := by
    intro k dwordLt
    have dword := invariant.holds _ k indexLt (Nat.le_refl _) dwordLt
    have address : s.machine.ringBufferBase + offset + BitVec.ofNat 32 (4 * k) =
        ringAddr s.machine (o + k) := by
      unfold ringAddr
      bv_omega
    rw [address, ← dword, slot, ringDword]
  have headerLoad := loads 0 isPacket.nonempty
  rw [Nat.mul_zero, BitVec.add_zero] at headerLoad
  have length := isPacket.length
  have found : packetAt s.machine.mem s.machine.ringBufferBase offset size = some _ :=
    packetAt_eq_some headerLoad isPacket.nonzero isPacket.decodes (by omega)
  refine ⟨_, _, List.getElem?_eq_getElem indexLt, executedLt, found, ?_, length.symm, by omega⟩
  rw [packetDwords, ← length, Nat.mul_div_cancel_left _ (by decide)]
  apply List.ext_getElem
  · simp
  · intro k _ dwordLt
    rw [List.getElem_map, List.getElem_range]
    exact loads k dwordLt

/-- At its bound a scan finds nothing. -/
theorem packetAt_bound (mem : Memory) (bufferAddr : Word) (sizeLe : size.toNat ≤ 2 ^ 31) :
    packetAt mem bufferAddr size size = none := by
  rw [packetAt, if_neg (by bv_omega)]

theorem Covers.eq_of_stops (covers : Covers s offset size target) (invariant : RingInvariant s)
    (stops : packetAt s.machine.mem s.machine.ringBufferBase offset size = none) :
    offset = size := by
  by_contra more
  obtain ⟨header, _, _, _, found, _⟩ := covers.next invariant more
  rw [stops] at found
  cases found

theorem Covers.size_le (covers : Covers s offset size target) (invariant : RingInvariant s) :
    size.toNat ≤ 2 ^ 31 := by
  obtain ⟨_, b, _, sizeEq, _, boundLe, _⟩ := covers
  have ringSize := invariant.sizeEq
  have sizeLe := invariant.sizeLe
  omega

/-- Executing the next packet of the stream. -/
theorem RingInvariant.execute (invariant : RingInvariant s) {packet : List Word}
    (next : s.produced[s.executed.length]? = some packet)
    (published : s.executed.length < s.published) :
    RingInvariant { s with executed := s.executed ++ [packet] } := by
  obtain ⟨indexLt, rfl⟩ := List.getElem?_eq_some_iff.mp next
  have length : (s.executed ++ [s.produced[s.executed.length]]).length =
      s.executed.length + 1 := by simp
  have successor := position_succ indexLt
  refine
    { invariant with
      executedLe := ?_
      inOrder := ?_
      room := ?_
      holds := ?_ }
  · rw [length]
    exact published
  · rw [length, ← List.take_append_getElem indexLt, ← invariant.inOrder]
  · have room := invariant.room
    rw [RingState.consumed] at room ⊢
    rw [length]
    show position s.produced s.produced.length <
      position s.produced (s.executed.length + 1) + ringDwords s.machine
    omega
  · intro n k nLt notExecuted dwordLt
    rw [length] at notExecuted
    exact invariant.holds n k nLt (by omega) dwordLt

theorem Covers.execute (covers : Covers s offset size target) {header : Word}
    {packet : List Word} (next : s.produced[s.executed.length]? = some packet)
    (executedLt : s.executed.length < target)
    (bytes : (packetBytes header).toNat = 4 * packet.length)
    (fits : offset.toNat + 4 * packet.length ≤ size.toNat) :
    Covers { s with executed := s.executed ++ [packet] } (offset + packetBytes header) size
      target := by
  obtain ⟨indexLt, rfl⟩ := List.getElem?_eq_some_iff.mp next
  obtain ⟨o, b, offsetEq, sizeEq, ordered, boundLe, slots, executedLe, targetLe, reached⟩ :=
    covers
  have successor := position_succ indexLt
  have length : (s.executed ++ [s.produced[s.executed.length]]).length =
      s.executed.length + 1 := by simp
  have sizeLt := size.isLt
  have moved : position s.produced (s.executed.length + 1) % ringDwords s.machine =
      (o + s.produced[s.executed.length].length) % ringDwords s.machine := by
    rw [RingState.consumed] at slots
    rw [successor, Nat.add_mod, slots, ← Nat.add_mod]
  rw [RingState.consumed] at reached
  refine ⟨o + s.produced[s.executed.length].length, b, by bv_omega, sizeEq, by omega, boundLe,
    ?_, ?_, targetLe, ?_⟩
  · rw [RingState.consumed, length]
    exact moved
  · rw [length]
    exact executedLt
  · rw [RingState.consumed, length, reached]
    show _ = position s.produced (s.executed.length + 1) + _
    omega

/-- A scan that reached its bound has executed its packets. -/
theorem Covers.all (covers : Covers s size size target) (invariant : RingInvariant s) :
    s.executed.length = target := by
  obtain ⟨o, b, offsetEq, sizeEq, ordered, boundLe, slots, executedLe, targetLe, reached⟩ :=
    covers
  have publishedLe := invariant.publishedLe
  have executedPublished := invariant.executedLe
  apply eq_of_position_eq (IsRingPacket.positive invariant.packets) (by omega) (by omega)
  rw [reached, RingState.consumed]
  omega

theorem Covers.atOffset (covers : Covers s offset size target) : AtOffset s offset := by
  obtain ⟨o, b, offsetEq, sizeEq, ordered, boundLe, slots, _⟩ := covers
  exact ⟨o, offsetEq, by omega, slots⟩

/-- Following a wrap: the end of the ring is its start. -/
theorem Covers.follow {wrapTarget : Word} {t : Nat}
    (covers : Covers s s.machine.ringBufferSize s.machine.ringBufferSize target)
    (invariant : RingInvariant s) (goalLe : goal ≤ s.published)
    (wrapTargetEq : wrapTarget.toNat = 4 * t) (targetLe : t ≤ ringDwords s.machine)
    (reached : position s.produced goal = position s.produced target + t) :
    Covers s 0 wrapTarget goal := by
  have all := covers.all invariant
  have publishedLe := invariant.publishedLe
  obtain ⟨o, b, offsetEq, _, _, _, slots, executedLe, targetPublished, _⟩ := covers
  have ringSize := invariant.sizeEq
  have atEnd : o = ringDwords s.machine := by omega
  rw [atEnd, Nat.mod_self] at slots
  have goalBeyond : target ≤ goal := by
    apply le_of_position_le (IsRingPacket.positive invariant.packets) (by omega)
    omega
  refine ⟨0, t, rfl, wrapTargetEq, Nat.zero_le t, targetLe, ?_, by omega, goalLe, ?_⟩
  · rw [Nat.zero_mod]
    exact slots
  · rw [RingState.consumed, all]
    omega

/-- With a write pointer that was polled, a frame either scans up to it or, when it is
behind, up to the end of the ring. -/
theorem scanPlan_of_observed {m : Machine Guest} {o v : Nat} (observed : m.wptrObserved = true)
    (parsed : m.lastParsedOffset.toNat = 4 * o) (pointer : m.lastWptrDwords.toNat = v)
    (ringSize : m.ringBufferSize.toNat = 4 * ringDwords m) (pointerLt : v < ringDwords m) :
    (o ≤ v ∧ scanPlan m = ⟨BitVec.ofNat 32 (v * 4), false, 0⟩) ∨
      (v < o ∧ scanPlan m = ⟨m.ringBufferSize, true, BitVec.ofNat 32 (v * 4)⟩) := by
  unfold scanPlan
  simp only [observed, if_true, pointer, parsed]
  rcases Nat.lt_or_ge v o with behind | ahead
  · right
    rw [if_neg (by omega), if_pos (by omega)]
    exact ⟨behind, rfl⟩
  · left
    rw [if_pos (by omega)]
    exact ⟨ahead, rfl⟩

/-- The plan of a frame covers the packets that were published at the poll, in one scan
or in two. -/
theorem Points.plan (points : Points s s.machine.lastWptrDwords goal)
    (invariant : RingInvariant s) (observed : s.machine.wptrObserved = true)
    (atOffset : AtOffset s s.machine.lastParsedOffset) :
    if (scanPlan s.machine).wrapPending then
      (scanPlan s.machine).scanBound = s.machine.ringBufferSize ∧ goal ≤ s.published ∧
        ∃ target t,
          Covers s s.machine.lastParsedOffset (scanPlan s.machine).scanBound target ∧
          (scanPlan s.machine).wrapTargetBytes.toNat = 4 * t ∧
          t ≤ ringDwords s.machine ∧
          position s.produced goal = position s.produced target + t
    else
      Covers s s.machine.lastParsedOffset (scanPlan s.machine).scanBound goal := by
  obtain ⟨o, parsed, offsetLe, slots⟩ := atOffset
  obtain ⟨executedLe, goalLe, pointer⟩ := points
  have publishedLe := invariant.publishedLe
  have ringSize := invariant.sizeEq
  have sizeLe := invariant.sizeLe
  have positive := invariant.positive
  have pointerLt : s.machine.lastWptrDwords.toNat < ringDwords s.machine := by
    rw [pointer]
    exact Nat.mod_lt _ positive
  have ordered : s.consumed ≤ position s.produced goal := position_le_of_le executedLe
  have upper : position s.produced goal ≤ position s.produced s.produced.length :=
    position_le_of_le (goalLe.trans publishedLe)
  have room := invariant.room
  rcases scanPlan_of_observed observed parsed rfl ringSize pointerLt with
    ⟨ahead, planEq⟩ | ⟨behind, planEq⟩
  · rw [planEq]
    have slot : s.consumed % ringDwords s.machine = o := by
      rw [slots]
      exact Nat.mod_eq_of_lt (by omega)
    have distance := eq_add_of_mod_le ordered (by omega)
      (show s.consumed % ringDwords s.machine ≤
        position s.produced goal % ringDwords s.machine by omega)
    rw [slot, ← pointer] at distance
    refine ⟨o, s.machine.lastWptrDwords.toNat, parsed, ?_, ahead, by omega, slots, executedLe,
      goalLe, distance⟩
    rw [BitVec.toNat_ofNat]
    omega
  · rw [planEq]
    have distance : position s.produced goal =
        s.consumed + (ringDwords s.machine - o) + s.machine.lastWptrDwords.toNat := by
      rw [pointer]
      rw [pointer] at behind
      exact eq_add_of_behind slots offsetLe ordered (by omega) behind
    -- The end of the ring is a packet boundary, since no packet straddles it.
    have lapEnd : (s.consumed + (ringDwords s.machine - o)) % ringDwords s.machine = 0 := by
      rw [Nat.add_mod, slots, ← Nat.add_mod, Nat.add_sub_cancel' offsetLe, Nat.mod_self]
    obtain ⟨target, targetLe, boundary⟩ := exists_position_eq (goalLe.trans publishedLe)
      lapEnd (by omega) invariant.inside
    have executedTarget : s.executed.length ≤ target := by
      apply le_of_position_le (IsRingPacket.positive invariant.packets) (by omega)
      rw [boundary, RingState.consumed]
      omega
    refine ⟨rfl, goalLe, target, s.machine.lastWptrDwords.toNat, ?_, ?_, by omega, ?_⟩
    · exact ⟨o, ringDwords s.machine, parsed, ringSize, offsetLe, Nat.le_refl _, slots,
        executedTarget, by omega, boundary⟩
    · rw [BitVec.toNat_ofNat]
      omega
    · rw [boundary]
      exact distance

end BumpinHost.Gpu
