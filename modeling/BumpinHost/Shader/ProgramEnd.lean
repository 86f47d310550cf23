import BumpinHost.Library.GrowingFold
import BumpinHost.Shader.Recognition

/-!
# Where a translation ends

The control-flow program is a sequence of pairs.  The translator takes it to end where
the first instruction block begins, and visits both halves of every pair before that.
An instruction that ends the shader does not end the walk.  What a successful
translation lists comes from the slots of the blocks it visited; it is what the shader
itself gives exactly when the slots that only one of the two has write nothing.
-/

namespace BumpinHost.Shader

/-- A slot of an EXEC block: the control-flow instruction, and the position in its
block. -/
abbrev BlockSlot := ControlFlowInstruction × Nat

/-- Both halves of each of `pairs` pairs, from pair `i` on. -/
def controlFlowFrom (dwords : List Word) : Nat → Word → List ControlFlowInstruction
  | 0, _ => []
  | pairs + 1, i =>
      let (a, b) := unpackControlFlowPair (dwordAt dwords (i * 3))
        (dwordAt dwords (i * 3 + 1)) (dwordAt dwords (i * 3 + 2))
      a :: b :: controlFlowFrom dwords pairs (i + 1)

/-- All control-flow instructions that fit in the microcode, in control-flow order. -/
def controlFlowOrder (dwords : List Word) (dwordCount : Word) :
    List ControlFlowInstruction :=
  controlFlowFrom dwords (dwordCount.toNat / 3) 0

/-- The instructions up to and including the first one that ends the shader. -/
def throughExecEnd : List ControlFlowInstruction → List ControlFlowInstruction
  | [] => []
  | cf :: rest => if cf.opcode = .kExecEnd then [cf] else cf :: throughExecEnd rest

/-- Both halves of each pair that begins before all blocks named by earlier pairs. -/
def visitedFrom (dwords : List Word) : Nat → Word → Word → List ControlFlowInstruction
  | 0, _, _ => []
  | rounds + 1, i, cfEndDword =>
      if i * 3 < cfEndDword then
        let (a, b) := unpackControlFlowPair (dwordAt dwords (i * 3))
          (dwordAt dwords (i * 3 + 1)) (dwordAt dwords (i * 3 + 2))
        a :: b :: visitedFrom dwords rounds (i + 1)
          (controlFlowEnd b (controlFlowEnd a cfEndDword))
      else
        []

/-- The control-flow instructions that lie before the first block. -/
def visitedControlFlow (dwords : List Word) (dwordCount : Word) :
    List ControlFlowInstruction :=
  visitedFrom dwords (dwordCount.toNat / 3) 0 (dwordCount / 3 * 3)

def blockSlots (cf : ControlFlowInstruction) : List BlockSlot :=
  if isExecFamily cf.opcode then (List.range cf.count.toNat).map fun j => (cf, j) else []

/-- The slots of all blocks of a control-flow program, in the order in which they run. -/
def programBlockSlots (program : List ControlFlowInstruction) : List BlockSlot :=
  program.flatMap blockSlots

/-- The slots that the translator visits. -/
def visitedSlots (dwords : List Word) (dwordCount : Word) : List BlockSlot :=
  programBlockSlots (visitedControlFlow dwords dwordCount)

/-- The slots that the shader runs, where its first `kExecEnd` ends it. -/
def shaderSlots (dwords : List Word) (dwordCount : Word) : List BlockSlot :=
  programBlockSlots (throughExecEnd (controlFlowOrder dwords dwordCount))

theorem throughExecEnd_prefix (program : List ControlFlowInstruction) :
    throughExecEnd program <+: program := by
  induction program with
  | nil => exact List.prefix_refl _
  | cons cf rest ih =>
      unfold throughExecEnd
      split
      · exact ⟨rest, rfl⟩
      · exact (List.prefix_cons_inj cf).mpr ih

theorem visitedFrom_prefix (dwords : List Word) (rounds : Nat) (i cfEndDword : Word) :
    visitedFrom dwords rounds i cfEndDword <+: controlFlowFrom dwords rounds i := by
  induction rounds generalizing i cfEndDword with
  | zero => exact List.prefix_refl _
  | succ rounds ih =>
      unfold visitedFrom controlFlowFrom
      split
      · exact (List.prefix_cons_inj _).mpr ((List.prefix_cons_inj _).mpr (ih _ _))
      · exact List.nil_prefix

/-- The translator and the shader begin with the same slots. -/
theorem visitedSlots_comparable (dwords : List Word) (dwordCount : Word) :
    visitedSlots dwords dwordCount <+: shaderSlots dwords dwordCount ∨
      shaderSlots dwords dwordCount <+: visitedSlots dwords dwordCount := by
  have visited : visitedControlFlow dwords dwordCount <+: controlFlowOrder dwords dwordCount :=
    visitedFrom_prefix dwords _ _ _
  have ended := throughExecEnd_prefix (controlFlowOrder dwords dwordCount)
  rcases List.prefix_or_prefix_of_prefix visited ended with shorter | shorter
  · exact .inl (shorter.flatMap blockSlots)
  · exact .inr (shorter.flatMap blockSlots)

def TranslatedParts.size (parts : TranslatedParts) : Nat :=
  parts.attributes.length + parts.vertexExports.length + parts.pixelExports.length

def translateBlockSlot (dwords : List Word) (dwordCount : Word) (shaderType : Int)
    (st : TranslateState) (slot : BlockSlot) : Except String TranslateState :=
  translateSlot dwords dwordCount shaderType slot.1 st slot.2

/-- What translating exactly these slots gives, where it succeeds. -/
def slotParts (dwords : List Word) (dwordCount : Word) (shaderType : Int)
    (slots : List BlockSlot) : Option TranslatedParts :=
  (slots.foldlM (translateBlockSlot dwords dwordCount shaderType) .initial).toOption.map
    TranslateState.parts

/-- The slot lies inside the microcode and holds an ALU instruction that the translator
takes for filler. -/
def IdleSlot (dwords : List Word) (dwordCount : Word) (slot : BlockSlot) : Prop :=
  let exec := execSlot dwords slot.1 slot.2
  let alu := decodeAluInstruction exec.iw0 exec.iw1 exec.iw2
  (slot.1.address + BitVec.ofNat 32 slot.2) * 3 + 2 < dwordCount ∧ exec.isFetch = false ∧
    (alu.scalarWriteMask = 0 ∨ alu.scalarOpcode = 50) ∧ alu.vectorWriteMask = 0

instance idleSlotDecidable (dwords : List Word) (dwordCount : Word) (slot : BlockSlot) :
    Decidable (IdleSlot dwords dwordCount slot) :=
  inferInstanceAs (Decidable (_ ∧ _ ∧ _ ∧ _))

theorem translateFetch_size {st st' : TranslateState} {iw0 iw1 iw2 : Word}
    (translated : translateFetch st iw0 iw1 iw2 = .ok st') :
    st'.parts.size = st.parts.size + 1 := by
  obtain ⟨format, -, -, -, ⟨-, -, rfl⟩ | ⟨-, rfl⟩⟩ := translateFetch_cases translated
  all_goals simp only [TranslateState.parts, TranslatedParts.size, List.length_append,
    List.length_singleton]
  all_goals omega

/-- An accepted ALU instruction is filler, or adds one export. -/
theorem translateAlu_size {shaderType : Int} {st st' : TranslateState} {iw0 iw1 iw2 : Word}
    (translated : translateAlu shaderType st iw0 iw1 iw2 = .ok st') :
    (decodeAluInstruction iw0 iw1 iw2).vectorWriteMask = 0 ∨
      st'.parts.size = st.parts.size + 1 := by
  obtain ⟨-, ⟨filler, -⟩ | ⟨-, -, -, -, -, -, recorded⟩⟩ := translateAlu_cases translated
  · exact .inl filler
  · right
    rw [recorded]
    split
    all_goals simp only [TranslateState.parts, TranslatedParts.size, List.length_append,
      List.length_singleton]
    all_goals omega

/-- A slot that is not idle adds an attribute or an export. -/
theorem translateBlockSlot_grows (dwords : List Word) (dwordCount : Word)
    (shaderType : Int) :
    Grows (translateBlockSlot dwords dwordCount shaderType) TranslateState.parts
      TranslatedParts.size (IdleSlot dwords dwordCount) := by
  constructor
  case idle =>
    rintro ⟨cf, j⟩ st ⟨inside, alu, scalar, filler⟩
    have noScalar := not_and_or.mpr (scalar.imp not_not.mpr not_not.mpr)
    have unfetched : ¬ isFetchSlot cf j := by
      rw [show isFetchSlot cf j = false from alu]
      exact Bool.false_ne_true
    unfold translateBlockSlot translateSlot
    dsimp only
    rw [if_neg (BitVec.not_le.mpr inside), if_neg unfetched]
    exact (if_neg noScalar).trans (if_pos filler)
  case larger =>
    rintro ⟨cf, j⟩ st st' translated busy
    obtain ⟨inside, ⟨-, accepted⟩ | ⟨alu, accepted⟩⟩ := translateSlot_cases translated
    · have := translateFetch_size accepted
      omega
    · rcases translateAlu_size accepted with filler | larger
      · exact absurd ⟨inside, alu, (translateAlu_cases accepted).1, filler⟩ busy
      · omega

theorem translateControlFlow_blockSlots {dwords : List Word} {dwordCount : Word}
    {shaderType : Int} {cf : ControlFlowInstruction} {cfEndDword cfEndDword' : Word}
    {st st' : TranslateState}
    (translated : translateControlFlow dwords dwordCount shaderType cf cfEndDword st =
      .ok (cfEndDword', st')) :
    (blockSlots cf).foldlM (translateBlockSlot dwords dwordCount shaderType) st = .ok st' := by
  unfold blockSlots
  obtain ⟨skipped, rfl⟩ | ⟨exec, folded⟩ := (translateControlFlow_cases translated).2
  · rcases skipped with skipped | skipped <;> rw [skipped] <;> rfl
  · have family : isExecFamily cf.opcode := by
      rcases exec with exec | exec <;> rw [exec] <;> rfl
    rw [if_pos family, List.foldlM_map]
    exact folded

/-- A walk that succeeds translates the slots it visits, one after the other.  The
induction is on the rounds of the walk. -/
theorem translateWalk_visited {dwords : List Word} {dwordCount : Word} {shaderType : Int}
    {rounds : Nat} {i cfEndDword : Word} {st st' : TranslateState}
    (translated : translateWalk dwords dwordCount shaderType rounds i cfEndDword st =
      .ok st') :
    (programBlockSlots (visitedFrom dwords rounds i cfEndDword)).foldlM
      (translateBlockSlot dwords dwordCount shaderType) st = .ok st' := by
  induction rounds generalizing i cfEndDword st with
  | zero => exact translated
  | succ rounds ih =>
      unfold visitedFrom
      by_cases inside : i * 3 < cfEndDword
      · rw [if_pos inside]
        generalize pair : unpackControlFlowPair (dwordAt dwords (i * 3))
          (dwordAt dwords (i * 3 + 1)) (dwordAt dwords (i * 3 + 2)) = unpacked
        obtain ⟨a, b⟩ := unpacked
        obtain ⟨st1, st2, first, second, rest⟩ := translateWalk_succ pair inside translated
        have later := ih rest
        unfold programBlockSlots at later ⊢
        rw [List.flatMap_cons, List.flatMap_cons, List.foldlM_append,
          translateControlFlow_blockSlots first]
        dsimp only [bind, Except.bind]
        rw [List.foldlM_append, translateControlFlow_blockSlots second]
        exact later
      · rw [if_neg inside]
        unfold translateWalk at translated
        rw [if_neg inside] at translated
        exact translated

/-- The attributes, exports and stride of a successful translation come from the slots
of the blocks it visited.  They are those of the shader exactly when every slot that
only one of the two runs is idle. -/
theorem translateShader_parts {dwords : List Word} {dwordCount : Word} {shaderType : Int}
    (success : (translateShader dwords dwordCount shaderType).success = true) :
    slotParts dwords dwordCount shaderType (visitedSlots dwords dwordCount) =
        some (translateShader dwords dwordCount shaderType).parts ∧
      (slotParts dwords dwordCount shaderType (shaderSlots dwords dwordCount) =
          some (translateShader dwords dwordCount shaderType).parts ↔
        (∀ slot ∈ (visitedSlots dwords dwordCount).drop
            (shaderSlots dwords dwordCount).length, IdleSlot dwords dwordCount slot) ∧
          ∀ slot ∈ (shaderSlots dwords dwordCount).drop
            (visitedSlots dwords dwordCount).length, IdleSlot dwords dwordCount slot) := by
  obtain ⟨st, walked, parts, -⟩ := translateShader_walked success
  have folded : (visitedSlots dwords dwordCount).foldlM
      (translateBlockSlot dwords dwordCount shaderType) .initial = .ok st :=
    translateWalk_visited walked
  rw [parts]
  constructor
  · unfold slotParts
    rw [folded]
    rfl
  · exact (translateBlockSlot_grows dwords dwordCount shaderType).foldlM_shown_iff
      (visitedSlots_comparable dwords dwordCount) folded

/-- The first half of its pair ends the shader.  The second half names a block with
another fetch, at another stride. -/
def deadBlockMicrocode : List Word :=
  [0x00012001, 0x10032000, 0x10000001, 0x1000, 0x390A88, 7, 0xF803E, 0, 0xC2010100,
    0, 0x260688, 9]

theorem translateShader_parts_deadBlock :
    slotParts deadBlockMicrocode 12 0 (visitedSlots deadBlockMicrocode 12) =
        some (translateShader deadBlockMicrocode 12 0).parts ∧
      (slotParts deadBlockMicrocode 12 0 (shaderSlots deadBlockMicrocode 12) =
          some (translateShader deadBlockMicrocode 12 0).parts ↔
        (∀ slot ∈ (visitedSlots deadBlockMicrocode 12).drop
            (shaderSlots deadBlockMicrocode 12).length,
          IdleSlot deadBlockMicrocode 12 slot) ∧
          ∀ slot ∈ (shaderSlots deadBlockMicrocode 12).drop
            (visitedSlots deadBlockMicrocode 12).length,
          IdleSlot deadBlockMicrocode 12 slot) :=
  translateShader_parts (by decide +kernel)

/-- The block after the end of the shader adds its attribute and replaces the stride. -/
theorem deadBlock_isTranslated :
    ¬ ∀ (dwords : List Word) (dwordCount : Word) (shaderType : Int),
      dwords.length = dwordCount.toNat → shaderType = 0 ∨ shaderType = 1 →
      (translateShader dwords dwordCount shaderType).success = true →
      slotParts dwords dwordCount shaderType (shaderSlots dwords dwordCount) =
        some (translateShader dwords dwordCount shaderType).parts := by
  intro stops
  have same := stops deadBlockMicrocode 12 0 rfl (.inl rfl) (by decide +kernel)
  revert same
  decide +kernel

end BumpinHost.Shader
