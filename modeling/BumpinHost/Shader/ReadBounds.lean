import BumpinHost.Library.TracedLoops
import BumpinHost.Shader.ControlFlowScan

/-!
# What the walks over microcode read

Both walks are run with a trace of the index of every dword they read.  A pair is read
below a bound that is never above the length of the microcode, and a slot only after a
test against that length, where the 32-bit index cannot wrap.  No trace has an index
outside the microcode, and both walks end, whatever the microcode says.
-/

namespace BumpinHost.Shader

/-- A walk, with the indices it has read. -/
abbrev Reading := Traced Word String

def readDword (dwords : List Word) (index : Word) : Reading Word := do
  Traced.log index
  return dwordAt dwords index

/-- Read and unpack the control-flow pair at an index. -/
def readPair (dwords : List Word) (i : Word) :
    Reading (ControlFlowInstruction × ControlFlowInstruction) := do
  let d0 ← readDword dwords (i * 3)
  let d1 ← readDword dwords (i * 3 + 1)
  let d2 ← readDword dwords (i * 3 + 2)
  return unpackControlFlowPair d0 d1 d2

/-- Read a slot, unless it lies outside the microcode. -/
def readSlot (dwords : List Word) (dwordCount slot : Word) :
    Reading (Option (Word × Word × Word)) :=
  let slotDwordStart := slot * 3
  if dwordCount ≤ slotDwordStart + 2 then return none
  else do
    let iw0 ← readDword dwords slotDwordStart
    let iw1 ← readDword dwords (slotDwordStart + 1)
    let iw2 ← readDword dwords (slotDwordStart + 2)
    return some (iw0, iw1, iw2)

/-- The loop variables of a walk, and what it has made so far. -/
structure WalkState (Made : Type) where
  i : Word
  cfEndDword : Word
  made : Made

/-- A walk begins at the first pair. -/
def WalkState.first {Made : Type} (dwordCount : Word) (made : Made) : WalkState Made :=
  ⟨0, dwordCount / 3 * 3, made⟩

section Walks

variable (dwords : List Word) (dwordCount : Word) (shaderType : Int)

/-- Append the line of instruction `j` of a block. -/
def disassembleSlot (cf : ControlFlowInstruction) (lines : List DisassemblyLine) (j : Nat) :
    Reading (List DisassemblyLine) := do
  let slot := cf.address + BitVec.ofNat 32 j
  match ← readSlot dwords dwordCount slot with
  | none => return lines ++ [.outOfRange j slot dwordCount]
  | some (iw0, iw1, iw2) =>
      if isFetchSlot cf j then
        let fetchOpcode := iw0 &&& 0x1F
        if fetchOpcode ≠ 0 then return lines ++ [.textureFetch j fetchOpcode]
        else return lines ++ [.vertexFetch j (decodeVertexFetchInstruction iw0 iw1 iw2)]
      else return lines ++ [.alu j (decodeAluInstruction iw0 iw1 iw2)]

def disassembleControlFlow (pair : Word) (which : Nat) (cf : ControlFlowInstruction)
    (lines : List DisassemblyLine) : Reading (List DisassemblyLine) :=
  let lines := lines ++ [.controlFlow pair which cf]
  if ¬ isExecFamily cf.opcode then return lines
  else (List.range cf.count.toNat).foldlM (disassembleSlot dwords dwordCount cf) lines

/-- One round of the disassembler's loop. -/
def disassembleRound (st : WalkState (List DisassemblyLine)) :
    Reading (WalkState (List DisassemblyLine) ⊕ List DisassemblyLine) :=
  if st.i * 3 < st.cfEndDword then do
    let (a, b) ← readPair dwords st.i
    let lines ← disassembleControlFlow dwords dwordCount st.i 0 a st.made
    let lines ← disassembleControlFlow dwords dwordCount st.i 1 b lines
    return .inl ⟨st.i + 1, controlFlowEnd b (controlFlowEnd a st.cfEndDword), lines⟩
  else
    return .inr st.made

/-- The disassembler's walk, for so many rounds. -/
def disassembleLoop (rounds : Nat) : Reading (Option (List DisassemblyLine)) :=
  Traced.loop (disassembleRound dwords dwordCount) rounds (.first dwordCount [])

def readTranslateSlot (cf : ControlFlowInstruction) (st : TranslateState) (j : Nat) :
    Reading TranslateState := do
  match ← readSlot dwords dwordCount (cf.address + BitVec.ofNat 32 j) with
  | none =>
      Traced.lift (.error
        "control-flow address/count referenced a slot past the real microcode end")
  | some (iw0, iw1, iw2) =>
      if isFetchSlot cf j then Traced.lift (translateFetch st iw0 iw1 iw2)
      else Traced.lift (translateAlu shaderType st iw0 iw1 iw2)

def readTranslateControlFlow (cf : ControlFlowInstruction) (cfEndDword : Word)
    (st : TranslateState) : Reading (Word × TranslateState) :=
  let isUnconditionalExec := cf.opcode = .kExec ∨ cf.opcode = .kExecEnd
  if isExecFamily cf.opcode ∧ ¬ isUnconditionalExec then
    Traced.lift (.error "conditional control flow not supported")
  else if ¬ isExecFamily cf.opcode then
    if cf.opcode ≠ .kNop ∧ cf.opcode ≠ .kAlloc then
      Traced.lift (.error "unsupported control-flow opcode")
    else
      return (cfEndDword, st)
  else do
    let candidateEnd := cf.address * 3
    let cfEndDword := if candidateEnd < cfEndDword then candidateEnd else cfEndDword
    let st ← (List.range cf.count.toNat).foldlM
      (readTranslateSlot dwords dwordCount shaderType cf) st
    return (cfEndDword, st)

/-- One round of the translator's loop. -/
def translateRound (st : WalkState TranslateState) :
    Reading (WalkState TranslateState ⊕ TranslateState) :=
  if st.i * 3 < st.cfEndDword then do
    let (a, b) ← readPair dwords st.i
    let (cfEndDword, made) ←
      readTranslateControlFlow dwords dwordCount shaderType a st.cfEndDword st.made
    let (cfEndDword, made) ←
      readTranslateControlFlow dwords dwordCount shaderType b cfEndDword made
    return .inl ⟨st.i + 1, cfEndDword, made⟩
  else
    return .inr st.made

/-- The translator's walk, for so many rounds. -/
def translateLoop (rounds : Nat) : Reading (Option TranslateState) :=
  Traced.loop (translateRound dwords dwordCount shaderType) rounds
    (.first dwordCount .initial)

end Walks

theorem toNat_slotStart {slot : Word} (fits : slot.toNat * 3 < 2 ^ 32) :
    (slot * 3).toNat = slot.toNat * 3 := by
  rw [BitVec.toNat_mul]
  exact Nat.mod_eq_of_lt fits

theorem toNat_slotDword {slot : Word} (k : Nat) (fits : slot.toNat * 3 + k < 2 ^ 32) :
    (slot * 3 + BitVec.ofNat 32 k).toNat = slot.toNat * 3 + k := by
  rw [BitVec.toNat_add, toNat_slotStart (by omega), BitVec.toNat_ofNat]
  omega

/-- A slot is read inside the microcode when its last dword is. -/
theorem slotDwords_lt {dwordCount slot : Word} (inside : slot.toNat * 3 + 2 < dwordCount.toNat) :
    slot * 3 < dwordCount ∧ slot * 3 + 1 < dwordCount ∧ slot * 3 + 2 < dwordCount := by
  have size := dwordCount.isLt
  have first : (slot * 3).toNat = slot.toNat * 3 := toNat_slotStart (by omega)
  have second : (slot * 3 + 1).toNat = slot.toNat * 3 + 1 := toNat_slotDword 1 (by omega)
  have third : (slot * 3 + 2).toNat = slot.toNat * 3 + 2 := toNat_slotDword 2 (by omega)
  simp only [BitVec.lt_def, first, second, third]
  omega

theorem pair_lt {dwordCount i cfEndDword : Word}
    (bound : cfEndDword.toNat ≤ dwordCount.toNat / 3 * 3)
    (fits : i.toNat ≤ dwordCount.toNat / 3) (inside : i * 3 < cfEndDword) :
    i.toNat < dwordCount.toNat / 3 := by
  have size := dwordCount.isLt
  have product : (i * 3).toNat = i.toNat * 3 := toNat_slotStart (by omega)
  have before := BitVec.lt_def.mp inside
  omega

/-- The test of a slot is not fooled by a wrap: the slot is one of the first few
thousand. -/
theorem slot_lt {dwordCount slot : Word} (small : slot.toNat < 4104)
    (inside : slot * 3 + 2 < dwordCount) : slot.toNat * 3 + 2 < dwordCount.toNat := by
  have last : (slot * 3 + 2).toNat = slot.toNat * 3 + 2 := toNat_slotDword 2 (by omega)
  rw [← last]
  exact BitVec.lt_def.mp inside

/-- What the fields of a decoded control-flow instruction cannot exceed. -/
structure FieldsSmall (cf : ControlFlowInstruction) : Prop where
  address : cf.address.toNat < 4096
  count : cf.count.toNat < 8

theorem fieldsSmall_decode (word0 word1 : Word) :
    FieldsSmall (decodeOneControlFlowInstruction word0 word1) := by
  constructor
  · exact toNat_address_lt word0 word1
  · unfold decodeOneControlFlowInstruction
    rw [BitVec.toNat_and]
    exact lt_of_le_of_lt Nat.and_le_right (by decide)

theorem FieldsSmall.slot_lt {cf : ControlFlowInstruction} (small : FieldsSmall cf) {j : Nat}
    (inBlock : j ∈ List.range cf.count.toNat) :
    (cf.address + BitVec.ofNat 32 j).toNat < 4104 := by
  have position := List.mem_range.mp inBlock
  have address := small.address
  have count := small.count
  rw [BitVec.toNat_add, BitVec.toNat_ofNat]
  omega

/-- The bound of the control-flow program is only ever lowered. -/
theorem controlFlowEnd_le (cf : ControlFlowInstruction) (cfEndDword : Word) :
    (controlFlowEnd cf cfEndDword).toNat ≤ cfEndDword.toNat := by
  unfold controlFlowEnd
  split
  · rename_i lower
    exact le_of_lt (BitVec.lt_def.mp lower.2)
  · exact le_rfl

section Reads

variable {dwords : List Word} {dwordCount : Word} {shaderType : Int}

/-- An index inside the microcode. -/
def InMicrocode (dwordCount index : Word) : Prop :=
  index < dwordCount

theorem readDword_keeps {index : Word} (inside : index < dwordCount) :
    (readDword dwords index).Keeps (InMicrocode dwordCount) := by
  have logged : (Traced.log index : Reading PUnit).Keeps (InMicrocode dwordCount) :=
    .log inside
  exact logged.bind fun _ _ => .pure _

theorem readPair_keeps {i : Word} (inside : i.toNat * 3 + 2 < dwordCount.toNat) :
    (readPair dwords i).Keeps (InMicrocode dwordCount) := by
  obtain ⟨first, second, third⟩ := slotDwords_lt inside
  exact (readDword_keeps first).bind fun _ _ =>
    (readDword_keeps second).bind fun _ _ =>
      (readDword_keeps third).bind fun _ _ => .pure _

theorem readSlot_keeps {slot : Word} (small : slot.toNat < 4104) :
    (readSlot dwords dwordCount slot).Keeps (InMicrocode dwordCount) := by
  unfold readSlot
  dsimp only
  split
  · exact .pure none
  · rename_i inside
    obtain ⟨first, second, third⟩ := slotDwords_lt (slot_lt small (BitVec.not_le.mp inside))
    exact (readDword_keeps first).bind fun _ _ =>
      (readDword_keeps second).bind fun _ _ =>
        (readDword_keeps third).bind fun _ _ => .pure _

theorem readPair_result (dwords : List Word) (i : Word) :
    (readPair dwords i).result = .ok (unpackControlFlowPair (dwordAt dwords (i * 3))
      (dwordAt dwords (i * 3 + 1)) (dwordAt dwords (i * 3 + 2))) :=
  rfl

theorem readPair_small {i : Word} {pair : ControlFlowInstruction × ControlFlowInstruction}
    (read : (readPair dwords i).result = .ok pair) :
    FieldsSmall pair.1 ∧ FieldsSmall pair.2 := by
  rw [readPair_result] at read
  obtain rfl := Except.ok.inj read
  exact ⟨fieldsSmall_decode _ _, fieldsSmall_decode _ _⟩

/-- The control-flow program is searched inside the microcode. -/
structure WalkInvariant {Made : Type} (dwordCount : Word) (st : WalkState Made) : Prop where
  bound : st.cfEndDword.toNat ≤ dwordCount.toNat / 3 * 3
  fits : st.i.toNat ≤ dwordCount.toNat / 3

theorem WalkInvariant.first {Made : Type} (dwordCount : Word) (made : Made) :
    WalkInvariant dwordCount (.first dwordCount made) := by
  constructor
  · change (dwordCount / 3 * 3).toNat ≤ dwordCount.toNat / 3 * 3
    rw [BitVec.toNat_mul, BitVec.toNat_udiv]
    exact Nat.mod_le _ _
  · exact Nat.zero_le _

theorem WalkInvariant.toNat_next {Made : Type} {st : WalkState Made}
    (holds : WalkInvariant dwordCount st) (inside : st.i * 3 < st.cfEndDword) :
    (st.i + 1).toNat = st.i.toNat + 1 := by
  have before := pair_lt holds.bound holds.fits inside
  have size := dwordCount.isLt
  have one : (1 : Word).toNat = 1 := rfl
  rw [BitVec.toNat_add, one]
  omega

theorem WalkInvariant.next {Made : Type} {st : WalkState Made} {cfEndDword : Word}
    (holds : WalkInvariant dwordCount st) (inside : st.i * 3 < st.cfEndDword)
    (lower : cfEndDword.toNat ≤ st.cfEndDword.toNat) (made : Made) :
    WalkInvariant dwordCount ⟨st.i + 1, cfEndDword, made⟩ := by
  have before := pair_lt holds.bound holds.fits inside
  constructor
  · exact lower.trans holds.bound
  · change (st.i + 1).toNat ≤ dwordCount.toNat / 3
    rw [holds.toNat_next inside]
    exact before

/-- A walk is at its end when no pair is left. -/
theorem WalkInvariant.outside {Made : Type} {st : WalkState Made}
    (holds : WalkInvariant dwordCount st) (done : dwordCount.toNat / 3 ≤ st.i.toNat) :
    ¬ st.i * 3 < st.cfEndDword := by
  intro inside
  have before := pair_lt holds.bound holds.fits inside
  omega

theorem disassembleSlot_keeps {cf : ControlFlowInstruction} (small : FieldsSmall cf) {j : Nat}
    (inBlock : j ∈ List.range cf.count.toNat) (lines : List DisassemblyLine) :
    (disassembleSlot dwords dwordCount cf lines j).Keeps (InMicrocode dwordCount) := by
  refine (readSlot_keeps (small.slot_lt inBlock)).bind fun read _ => ?_
  cases read with
  | none => exact .pure _
  | some dwords =>
      dsimp only
      split
      · split <;> exact .pure _
      · exact .pure _

theorem disassembleControlFlow_keeps {cf : ControlFlowInstruction} (small : FieldsSmall cf)
    (pair : Word) (which : Nat) (lines : List DisassemblyLine) :
    (disassembleControlFlow dwords dwordCount pair which cf lines).Keeps
      (InMicrocode dwordCount) := by
  unfold disassembleControlFlow
  dsimp only
  split
  · exact .pure _
  · exact .foldlM (fun j inBlock lines => disassembleSlot_keeps small inBlock lines) _

theorem disassembleRound_keeps {st : WalkState (List DisassemblyLine)}
    (holds : WalkInvariant dwordCount st) :
    (disassembleRound dwords dwordCount st).Keeps (InMicrocode dwordCount) := by
  unfold disassembleRound
  split
  · rename_i inside
    have before := pair_lt holds.bound holds.fits inside
    refine (readPair_keeps (by omega)).bind fun pair read => ?_
    obtain ⟨smallA, smallB⟩ := readPair_small read
    exact (disassembleControlFlow_keeps smallA _ _ _).bind fun _ _ =>
      (disassembleControlFlow_keeps smallB _ _ _).bind fun _ _ => .pure _
  · exact .pure _

theorem readTranslateSlot_keeps {cf : ControlFlowInstruction} (small : FieldsSmall cf)
    {j : Nat} (inBlock : j ∈ List.range cf.count.toNat) (st : TranslateState) :
    (readTranslateSlot dwords dwordCount shaderType cf st j).Keeps
      (InMicrocode dwordCount) := by
  refine (readSlot_keeps (small.slot_lt inBlock)).bind fun read _ => ?_
  cases read with
  | none => exact .lift _
  | some dwords =>
      dsimp only
      split <;> exact .lift _

theorem readTranslateControlFlow_keeps {cf : ControlFlowInstruction} (small : FieldsSmall cf)
    (cfEndDword : Word) (st : TranslateState) :
    (readTranslateControlFlow dwords dwordCount shaderType cf cfEndDword st).Keeps
      (InMicrocode dwordCount) := by
  unfold readTranslateControlFlow
  dsimp only
  split
  · exact .lift _
  · split
    · split
      · exact .lift _
      · exact .pure _
    · refine Traced.Keeps.bind ?_ fun _ _ => .pure _
      exact .foldlM (fun j inBlock st => readTranslateSlot_keeps small inBlock st) _

theorem translateRound_keeps {st : WalkState TranslateState}
    (holds : WalkInvariant dwordCount st) :
    (translateRound dwords dwordCount shaderType st).Keeps (InMicrocode dwordCount) := by
  unfold translateRound
  split
  · rename_i inside
    have before := pair_lt holds.bound holds.fits inside
    refine (readPair_keeps (by omega)).bind fun pair read => ?_
    obtain ⟨smallA, smallB⟩ := readPair_small read
    exact (readTranslateControlFlow_keeps smallA _ _).bind fun _ _ =>
      (readTranslateControlFlow_keeps smallB _ _).bind fun _ _ => .pure _
  · exact .pure _

theorem readSlot_result (dwords : List Word) (dwordCount slot : Word) :
    (readSlot dwords dwordCount slot).result =
      .ok (if dwordCount ≤ slot * 3 + 2 then none
        else some (dwordAt dwords (slot * 3), dwordAt dwords (slot * 3 + 1),
          dwordAt dwords (slot * 3 + 2))) := by
  unfold readSlot
  dsimp only
  split <;> rfl

theorem disassembleSlot_result (cf : ControlFlowInstruction) (lines : List DisassemblyLine)
    (j : Nat) :
    (disassembleSlot dwords dwordCount cf lines j).result =
      .ok (lines ++ [slotLine dwords dwordCount cf j]) := by
  unfold disassembleSlot slotLine
  rw [Traced.result_bind, readSlot_result]
  dsimp only
  split
  · rfl
  · rw [Fallible.ok_bind]
    dsimp only
    split
    · split <;> rfl
    · rfl

theorem disassembleSlots_result (cf : ControlFlowInstruction) (slots : List Nat)
    (lines : List DisassemblyLine) :
    (slots.foldlM (disassembleSlot dwords dwordCount cf) lines).result =
      .ok (lines ++ slots.map (slotLine dwords dwordCount cf)) := by
  induction slots generalizing lines with
  | nil => simp
  | cons j slots ih =>
      rw [List.foldlM_cons, Traced.result_bind, disassembleSlot_result, Fallible.ok_bind, ih]
      simp

theorem disassembleControlFlow_result (pair : Word) (which : Nat)
    (cf : ControlFlowInstruction) (lines : List DisassemblyLine) :
    (disassembleControlFlow dwords dwordCount pair which cf lines).result =
      .ok (lines ++ controlFlowLines dwords dwordCount pair which cf) := by
  unfold disassembleControlFlow controlFlowLines
  dsimp only
  split
  · rfl
  · rw [disassembleSlots_result]
    simp

theorem readTranslateSlot_result (cf : ControlFlowInstruction) (st : TranslateState)
    (j : Nat) :
    (readTranslateSlot dwords dwordCount shaderType cf st j).result =
      translateSlot dwords dwordCount shaderType cf st j := by
  unfold readTranslateSlot translateSlot
  rw [Traced.result_bind, readSlot_result]
  dsimp only
  split
  · rfl
  · rw [Fallible.ok_bind]
    dsimp only
    split <;> rfl

theorem readTranslateControlFlow_result (cf : ControlFlowInstruction) (cfEndDword : Word)
    (st : TranslateState) :
    (readTranslateControlFlow dwords dwordCount shaderType cf cfEndDword st).result =
      translateControlFlow dwords dwordCount shaderType cf cfEndDword st := by
  unfold readTranslateControlFlow translateControlFlow
  dsimp only
  split
  · rfl
  · split
    · split <;> rfl
    · rw [Traced.result_bind, Traced.result_foldlM]
      simp only [readTranslateSlot_result]
      rfl

/-- The halves of the pair at an index. -/
def pairAt (dwords : List Word) (i : Word) : ControlFlowInstruction × ControlFlowInstruction :=
  unpackControlFlowPair (dwordAt dwords (i * 3)) (dwordAt dwords (i * 3 + 1))
    (dwordAt dwords (i * 3 + 2))

/-- The bound after both halves of the pair at an index. -/
def pairEnd (dwords : List Word) (i cfEndDword : Word) : Word :=
  controlFlowEnd (pairAt dwords i).2 (controlFlowEnd (pairAt dwords i).1 cfEndDword)

theorem pairEnd_le (dwords : List Word) (i cfEndDword : Word) :
    (pairEnd dwords i cfEndDword).toNat ≤ cfEndDword.toNat :=
  (controlFlowEnd_le _ _).trans (controlFlowEnd_le _ _)

/-- The lines of both halves of the pair at an index. -/
def pairLines (dwords : List Word) (dwordCount i : Word) : List DisassemblyLine :=
  controlFlowLines dwords dwordCount i 0 (pairAt dwords i).1 ++
    controlFlowLines dwords dwordCount i 1 (pairAt dwords i).2

theorem disassembleRound_inside {st : WalkState (List DisassemblyLine)}
    (inside : st.i * 3 < st.cfEndDword) :
    (disassembleRound dwords dwordCount st).result =
      .ok (.inl ⟨st.i + 1, pairEnd dwords st.i st.cfEndDword,
        st.made ++ pairLines dwords dwordCount st.i⟩) := by
  unfold disassembleRound pairLines
  rw [if_pos inside, Traced.result_bind, readPair_result, Fallible.ok_bind]
  dsimp only
  rw [Traced.result_bind, disassembleControlFlow_result, Fallible.ok_bind,
    Traced.result_bind, disassembleControlFlow_result, Fallible.ok_bind, List.append_assoc]
  rfl

theorem disassembleRound_outside {st : WalkState (List DisassemblyLine)}
    (outside : ¬ st.i * 3 < st.cfEndDword) :
    (disassembleRound dwords dwordCount st).result = .ok (.inr st.made) := by
  unfold disassembleRound
  rw [if_neg outside]
  rfl

theorem translateRound_inside {st : WalkState TranslateState}
    (inside : st.i * 3 < st.cfEndDword) :
    (translateRound dwords dwordCount shaderType st).result =
      (translateControlFlow dwords dwordCount shaderType (pairAt dwords st.i).1
          st.cfEndDword st.made >>= fun first =>
        translateControlFlow dwords dwordCount shaderType (pairAt dwords st.i).2
            first.1 first.2 >>= fun second =>
          .ok (.inl ⟨st.i + 1, second.1, second.2⟩)) := by
  unfold translateRound
  rw [if_pos inside, Traced.result_bind, readPair_result, Fallible.ok_bind]
  dsimp only
  rw [Traced.result_bind, readTranslateControlFlow_result]
  simp only [Traced.result_bind, readTranslateControlFlow_result]
  rfl

theorem translateRound_outside {st : WalkState TranslateState}
    (outside : ¬ st.i * 3 < st.cfEndDword) :
    (translateRound dwords dwordCount shaderType st).result = .ok (.inr st.made) := by
  unfold translateRound
  rw [if_neg outside]
  rfl

theorem disassembleRound_invariant {st next : WalkState (List DisassemblyLine)}
    (holds : WalkInvariant dwordCount st)
    (goesOn : (disassembleRound dwords dwordCount st).result = .ok (.inl next)) :
    WalkInvariant dwordCount next := by
  by_cases inside : st.i * 3 < st.cfEndDword
  · rw [disassembleRound_inside inside] at goesOn
    obtain rfl := Sum.inl.inj (Except.ok.inj goesOn)
    exact holds.next inside (pairEnd_le dwords st.i st.cfEndDword) _
  · rw [disassembleRound_outside inside] at goesOn
    cases goesOn

theorem translateRound_invariant {st next : WalkState TranslateState}
    (holds : WalkInvariant dwordCount st)
    (goesOn : (translateRound dwords dwordCount shaderType st).result = .ok (.inl next)) :
    WalkInvariant dwordCount next := by
  by_cases inside : st.i * 3 < st.cfEndDword
  · rw [translateRound_inside inside] at goesOn
    obtain ⟨⟨end1, st1⟩, first, continued⟩ := Fallible.bind_eq_ok_iff.mp goesOn
    obtain ⟨⟨end2, st2⟩, second, returned⟩ := Fallible.bind_eq_ok_iff.mp continued
    obtain rfl := Sum.inl.inj (Except.ok.inj returned)
    obtain rfl := (translateControlFlow_cases first).1
    obtain rfl := (translateControlFlow_cases second).1
    exact holds.next inside (pairEnd_le dwords st.i st.cfEndDword) _
  · rw [translateRound_outside inside] at goesOn
    cases goesOn

/-- With as many rounds as there are pairs left, and one to see the end, the walk ends
with its listing.  The induction is on the pairs left. -/
theorem disassembleLoop_from {left : Nat} {st : WalkState (List DisassemblyLine)}
    (holds : WalkInvariant dwordCount st) (enough : dwordCount.toNat / 3 ≤ st.i.toNat + left) :
    (Traced.loop (disassembleRound dwords dwordCount) (left + 1) st).result =
      .ok (some (st.made ++ linesFrom dwords dwordCount left st.i st.cfEndDword)) := by
  induction left generalizing st with
  | zero =>
      have outside := holds.outside enough
      rw [Traced.loop_succ, Traced.result_bind, disassembleRound_outside outside,
        Fallible.ok_bind]
      unfold linesFrom
      rw [List.append_nil]
      rfl
  | succ left ih =>
      rw [Traced.loop_succ, Traced.result_bind]
      by_cases inside : st.i * 3 < st.cfEndDword
      · have goesOn : (disassembleRound dwords dwordCount st).result = _ :=
          disassembleRound_inside inside
        have next := disassembleRound_invariant holds goesOn
        have position := holds.toNat_next inside
        rw [goesOn, Fallible.ok_bind]
        dsimp only
        rw [ih next (by dsimp only; omega), linesFrom, if_pos inside]
        unfold pairLines pairEnd pairAt
        simp only [List.append_assoc]
      · rw [disassembleRound_outside inside, Fallible.ok_bind, linesFrom, if_neg inside,
          List.append_nil]
        rfl

theorem translateLoop_from {left : Nat} {st : WalkState TranslateState}
    (holds : WalkInvariant dwordCount st) (enough : dwordCount.toNat / 3 ≤ st.i.toNat + left) :
    (Traced.loop (translateRound dwords dwordCount shaderType) (left + 1) st).result =
      (translateWalk dwords dwordCount shaderType left st.i st.cfEndDword st.made >>= fun made =>
        .ok (some made)) := by
  induction left generalizing st with
  | zero =>
      have outside := holds.outside enough
      rw [Traced.loop_succ, Traced.result_bind, translateRound_outside outside,
        Fallible.ok_bind]
      rfl
  | succ left ih =>
      rw [Traced.loop_succ, Traced.result_bind]
      by_cases inside : st.i * 3 < st.cfEndDword
      · have round : (translateRound dwords dwordCount shaderType st).result = _ :=
          translateRound_inside inside
        have position := holds.toNat_next inside
        rw [translateWalk, if_pos inside]
        change _ = ((translateControlFlow dwords dwordCount shaderType (pairAt dwords st.i).1
            st.cfEndDword st.made >>= fun first =>
          translateControlFlow dwords dwordCount shaderType (pairAt dwords st.i).2
              first.1 first.2 >>= fun second =>
            translateWalk dwords dwordCount shaderType left (st.i + 1) second.1 second.2) >>=
              fun made => .ok (some made))
        cases first : translateControlFlow dwords dwordCount shaderType
            (pairAt dwords st.i).1 st.cfEndDword st.made with
        | error reason =>
            rw [round, first]
            rfl
        | ok middle =>
            cases second : translateControlFlow dwords dwordCount shaderType
                (pairAt dwords st.i).2 middle.1 middle.2 with
            | error reason =>
                rw [round, first, Fallible.ok_bind, second, Fallible.ok_bind, second]
                rfl
            | ok after =>
                have goesOn := round
                rw [first, Fallible.ok_bind, second, Fallible.ok_bind] at goesOn
                have next := translateRound_invariant holds goesOn
                rw [goesOn, Fallible.ok_bind, Fallible.ok_bind, second, Fallible.ok_bind]
                exact ih next (by dsimp only; omega)
      · rw [translateRound_outside inside, Fallible.ok_bind, translateWalk, if_neg inside]
        rfl

end Reads

/-- Whatever the microcode, and however many rounds they have run, both walks have read
below its length only.  Both end, as the disassembly and the translation of the
microcode. -/
theorem microcodeWalks_readInside (dwords : List Word) (dwordCount : Word)
    (shaderType : Int) :
    (∀ rounds,
      (∀ index ∈ (disassembleLoop dwords dwordCount rounds).events, index < dwordCount) ∧
        ∀ index ∈ (translateLoop dwords dwordCount shaderType rounds).events,
          index < dwordCount) ∧
      (disassembleLoop dwords dwordCount (dwordCount.toNat / 3 + 1)).result =
        .ok (some (disassembly dwords dwordCount)) ∧
      (translateLoop dwords dwordCount shaderType (dwordCount.toNat / 3 + 1)).result =
        (translateWalk dwords dwordCount shaderType (dwordCount.toNat / 3) 0
          (dwordCount / 3 * 3) .initial).map some := by
  have bound : dwordCount.toNat / 3 ≤ (0 : Word).toNat + dwordCount.toNat / 3 :=
    Nat.le_add_left _ _
  refine ⟨fun rounds => ⟨?_, ?_⟩, ?_, ?_⟩
  · exact Traced.Keeps.loop (fun _ holds => disassembleRound_keeps holds)
      (fun _ _ holds goesOn => disassembleRound_invariant holds goesOn) rounds
      (WalkInvariant.first dwordCount [])
  · exact Traced.Keeps.loop (fun _ holds => translateRound_keeps holds)
      (fun _ _ holds goesOn => translateRound_invariant holds goesOn) rounds
      (WalkInvariant.first dwordCount TranslateState.initial)
  · exact disassembleLoop_from (.first dwordCount []) bound
  · have walked : (translateLoop dwords dwordCount shaderType
        (dwordCount.toNat / 3 + 1)).result = _ :=
      translateLoop_from (.first dwordCount TranslateState.initial) bound
    rw [walked]
    cases translateWalk dwords dwordCount shaderType (dwordCount.toNat / 3)
      (WalkState.first dwordCount TranslateState.initial).i
      (WalkState.first dwordCount TranslateState.initial).cfEndDword .initial <;> rfl

/-- A block of seven instructions that begins at the last slot of its microcode: the
first one is read, the others lie outside. -/
example : (disassembleLoop [0x00007001, 0x1000, 0, 0, 0, 0] 6 3).events =
    [0, 1, 2, 3, 4, 5] := by
  decide +kernel

end BumpinHost.Shader
