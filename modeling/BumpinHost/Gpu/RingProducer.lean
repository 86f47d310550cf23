import BumpinHost.Gpu.RingInvariant

/-!
# Producer steps and the ring invariant

Writing free dwords, appending a packet, moving the write pointer and code that
leaves the ring alone keep the invariant.
-/

namespace BumpinHost.Gpu

open Memory RecordStream

variable {Guest : Type} {s : RingState Guest}

/-- Different slots of the ring share no byte, also when the ring's addresses wrap. -/
theorem ringAddr_apart (m : Machine Guest) {first second : Nat}
    (sizeLe : m.ringBufferSize.toNat ≤ 2 ^ 31) (firstLt : first < ringDwords m)
    (secondLt : second < ringDwords m) (different : first ≠ second) :
    Apart (ringAddr m first) (ringAddr m second) := by
  unfold ringDwords at firstLt secondLt
  unfold Apart ringAddr
  bv_omega

theorem IsRingPacket.positive {records : List (List Word)}
    (packets : ∀ n (indexLt : n < records.length), IsRingPacket records[n]) :
    ∀ n (indexLt : n < records.length), 0 < records[n].length :=
  fun n indexLt => (packets n indexLt).nonempty

namespace RingInvariant

/-- The slot of a dword of a packet. -/
theorem slot_eq (invariant : RingInvariant s) {n k : Nat} (indexLt : n < s.produced.length)
    (dwordLt : k < s.produced[n].length) :
    (position s.produced n + k) % ringDwords s.machine =
      position s.produced n % ringDwords s.machine + k := by
  have inside := invariant.inside n indexLt
  rw [← Nat.mod_add_mod]
  exact Nat.mod_eq_of_lt (by omega)

/-- Free dwords may hold anything. -/
theorem write (invariant : RingInvariant s) {slot : Nat} {value : Word}
    (slotLt : slot < ringDwords s.machine)
    (free : ∀ index, s.consumed ≤ index → index < position s.produced s.produced.length →
      index % ringDwords s.machine ≠ slot) :
    RingInvariant
      { s with machine :=
        { s.machine with mem := storeU32 s.machine.mem (ringAddr s.machine slot) value } } := by
  refine { invariant with holds := ?_ }
  intro n k (indexLt : n < s.produced.length) notExecuted dwordLt
  replace dwordLt : k < s.produced[n].length := dwordLt
  have inside := invariant.inside n indexLt
  have start : position s.produced s.executed.length ≤ position s.produced n :=
    position_le_of_le notExecuted
  have finish : position s.produced (n + 1) ≤ position s.produced s.produced.length :=
    position_le_of_le indexLt
  rw [position_succ indexLt] at finish
  have unaffected := free (position s.produced n + k) (by unfold RingState.consumed; omega)
    (by omega)
  rw [invariant.slot_eq indexLt dwordLt] at unaffected
  have apart := ringAddr_apart s.machine invariant.sizeLe slotLt
    (show position s.produced n % ringDwords s.machine + k < ringDwords s.machine by omega)
    (fun same => unaffected same.symm)
  refine Eq.trans ?_ (invariant.holds n k indexLt notExecuted dwordLt)
  exact loadU32_storeU32_apart s.machine.mem apart

theorem append (invariant : RingInvariant s) {packet : List Word} (isPacket : IsRingPacket packet)
    (inside : position s.produced s.produced.length % ringDwords s.machine + packet.length ≤
      ringDwords s.machine)
    (room : position s.produced s.produced.length + packet.length <
      s.consumed + ringDwords s.machine)
    (written : ∀ k (indexLt : k < packet.length),
      ringDword s.machine
        (position s.produced s.produced.length % ringDwords s.machine + k) = packet[k]) :
    RingInvariant { s with produced := s.produced ++ [packet] } := by
  have publishedLe := invariant.publishedLe
  have executedLe := invariant.executedLe
  have kept : ∀ n, n ≤ s.produced.length →
      position (s.produced ++ [packet]) n = position s.produced n :=
    fun n indexLe => position_append_left s.produced [packet] indexLe
  have whole : position (s.produced ++ [packet]) (s.produced ++ [packet]).length =
      position s.produced s.produced.length + packet.length := by
    rw [position, List.take_length, position, List.take_length]
    simp
  have last : ∀ {n}, n < (s.produced ++ [packet]).length → ¬ n < s.produced.length →
      n = s.produced.length := by
    intro n indexLt notBefore
    rw [List.length_append, List.length_singleton] at indexLt
    omega
  refine
    { invariant with
      packets := ?_
      inside := ?_
      publishedLe := ?_
      inOrder := ?_
      room := ?_
      holds := ?_
      pointer := ?_ }
  · intro n indexLt
    by_cases before : n < s.produced.length
    · rw [List.getElem_append_left before]
      exact invariant.packets n before
    · obtain rfl := last indexLt before
      simpa using isPacket
  · intro n indexLt
    replace indexLt : n < (s.produced ++ [packet]).length := indexLt
    by_cases before : n < s.produced.length
    · rw [kept n (by omega), List.getElem_append_left before]
      exact invariant.inside n before
    · obtain rfl := last indexLt before
      rw [kept _ (Nat.le_refl _)]
      simpa using inside
  · show s.published ≤ (s.produced ++ [packet]).length
    rw [List.length_append]
    omega
  · rw [List.take_append_of_le_length (executedLe.trans publishedLe)]
    exact invariant.inOrder
  · rw [whole, RingState.consumed, kept _ (executedLe.trans publishedLe)]
    exact room
  · intro n k indexLt notExecuted dwordLt
    by_cases before : n < s.produced.length
    · simp only [List.getElem_append_left before] at dwordLt ⊢
      rw [kept n (by omega)]
      exact invariant.holds n k before notExecuted dwordLt
    · obtain rfl := last indexLt before
      simp only [List.getElem_concat_length] at dwordLt ⊢
      rw [kept _ (Nat.le_refl _)]
      exact written k dwordLt
  · rw [kept _ (by omega)]
    exact invariant.pointer

theorem publish (invariant : RingInvariant s) {count : Nat} {dwordIndex : Word}
    (more : s.published ≤ count) (countLe : count ≤ s.produced.length)
    (pointer : dwordIndex.toNat = position s.produced count % ringDwords s.machine) :
    RingInvariant { s with published := count, writePointer := dwordIndex } := by
  have executedLe := invariant.executedLe
  exact
    { invariant with
      publishedLe := countLe
      executedLe := show s.executed.length ≤ count by omega
      pointer := pointer }

/-- Moving the write pointer to the value it has covers no new packet. -/
theorem published_eq (invariant : RingInvariant s) {count : Nat}
    (more : s.published ≤ count) (countLe : count ≤ s.produced.length)
    (pointer : s.writePointer.toNat = position s.produced count % ringDwords s.machine) :
    count = s.published := by
  have nonempty := IsRingPacket.positive invariant.packets
  have executed : position s.produced s.executed.length ≤ position s.produced s.published :=
    position_le_of_le invariant.executedLe
  have upper : position s.produced count ≤ position s.produced s.produced.length :=
    position_le_of_le countLe
  have room := invariant.room
  unfold RingState.consumed at room
  by_contra different
  have strict := position_lt_of_lt nonempty
    (show s.published < count by omega) countLe
  exact mod_ne_of_lt strict (by omega) (invariant.pointer.symm.trans pointer)

/-- The invariant speaks of the ring only. -/
theorem of_keepsRing (invariant : RingInvariant s) {m : Machine Guest}
    (keeps : KeepsRing s.machine m) : RingInvariant { s with machine := m } := by
  have dwordsEq : ringDwords m = ringDwords s.machine := by
    rw [ringDwords, keeps.size, ringDwords]
  refine
    { invariant with
      sizeEq := ?_
      sizeLe := ?_
      positive := ?_
      inside := ?_
      room := ?_
      holds := ?_
      pointer := ?_ }
  · rw [dwordsEq, keeps.size]
    exact invariant.sizeEq
  · rw [keeps.size]
    exact invariant.sizeLe
  · rw [dwordsEq]
    exact invariant.positive
  · rw [dwordsEq]
    exact invariant.inside
  · rw [dwordsEq]
    exact invariant.room
  · intro n k indexLt notExecuted dwordLt
    have inside := invariant.inside n indexLt
    rw [dwordsEq]
    refine (keeps.dwords _ (Nat.lt_of_lt_of_le (Nat.add_lt_add_left dwordLt _) inside)).trans ?_
    exact invariant.holds n k indexLt notExecuted dwordLt
  · rw [dwordsEq]
    exact invariant.pointer

end RingInvariant

theorem SamePump.of_keepsRing {m : Machine Guest} (keeps : KeepsRing s.machine m) :
    SamePump s { s with machine := m } :=
  ⟨rfl, rfl, keeps.base, keeps.size, keeps.parsed, keeps.pointer, keeps.observed,
    Nat.le_refl _, fun _ _ => rfl⟩

theorem SamePump.write (slot : Nat) (value : Word) :
    SamePump s
      { s with machine :=
        { s.machine with mem := storeU32 s.machine.mem (ringAddr s.machine slot) value } } :=
  ⟨rfl, rfl, rfl, rfl, rfl, rfl, rfl, Nat.le_refl _, fun _ _ => rfl⟩

theorem SamePump.publish {count : Nat} (more : s.published ≤ count) (dwordIndex : Word) :
    SamePump s { s with published := count, writePointer := dwordIndex } :=
  ⟨rfl, rfl, rfl, rfl, rfl, rfl, rfl, more, fun _ _ => rfl⟩

theorem SamePump.append (publishedLe : s.published ≤ s.produced.length) (packet : List Word) :
    SamePump s { s with produced := s.produced ++ [packet] } :=
  ⟨rfl, rfl, rfl, rfl, rfl, rfl, rfl, Nat.le_refl _,
    fun _ indexLe => position_append_left s.produced [packet] (indexLe.trans publishedLe)⟩

/-- Writing the read pointer back outside the ring leaves the ring alone. -/
theorem KeepsRing.writeReadPointer {m : Machine Guest} (outside : WritesBackOutsideRing m)
    (newOffset : Word) : KeepsRing m (writeReadPointer m newOffset) := by
  unfold Gpu.writeReadPointer
  split_ifs with registered
  · refine ⟨rfl, rfl, rfl, rfl, rfl, fun slot slotLt => ?_⟩
    rcases outside with unregistered | apart
    · exact absurd unregistered registered
    · exact loadU32_storeU32_apart m.mem (apart slot slotLt)
  · exact ⟨rfl, rfl, rfl, rfl, rfl, fun _ _ => rfl⟩

end BumpinHost.Gpu
