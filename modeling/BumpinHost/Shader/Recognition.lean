import BumpinHost.Library.Simulation
import BumpinHost.Shader.Semantics

/-!
# What a successful translation recognised

The translator and the decoding of the microcode into instructions visit the same
slots.  Whenever the translator accepts a slot, the slot has a meaning, and the
attributes and assignments recorded so far are those of the instructions decoded
so far.
-/

namespace BumpinHost.Shader

/-- An accepted fetch is recorded.  A full fetch names its own constant and sets the
stride; a mini-fetch inherits both. -/
theorem translateFetch_cases {st st' : TranslateState} {iw0 iw1 iw2 : Word}
    (translated : translateFetch st iw0 iw1 iw2 = .ok st') :
    let vf := decodeVertexFetchInstruction iw0 iw1 iw2
    ∃ format, iw0 &&& 0x1F = 0 ∧ translatedFormat vf.format = some format ∧
      (List.range 4).all (fetchSwizzleSupported format vf.destSwizzle) = true ∧
      (vf.isMiniFetch = true ∧ st.sawFullFetch = true ∧
          st' = { st with
            attributes := st.attributes ++
              [⟨st.lastFullFetchConstantIndex, vf.destReg, format, vf.offset * 4⟩] } ∨
        vf.isMiniFetch = false ∧
          st' = { st with
            sawFullFetch := true
            lastFullFetchConstantIndex := vf.fetchConstantIndex
            vertexStrideBytes := vf.stride * 4
            attributes := st.attributes ++
              [⟨vf.fetchConstantIndex, vf.destReg, format, vf.offset * 4⟩] }) := by
  unfold translateFetch at translated
  generalize decodeVertexFetchInstruction iw0 iw1 iw2 = vf at translated ⊢
  dsimp only at translated ⊢
  split at translated
  · cases translated
  rename_i vertexFetch
  split at translated
  · cases translated
  rename_i format formatted
  split at translated
  · cases translated
  rename_i swizzle
  refine ⟨format, not_not.mp vertexFetch, formatted, not_not.mp swizzle, ?_⟩
  split at translated
  · rename_i mini
    split at translated
    · cases translated
    · rename_i saw
      cases translated
      exact .inl ⟨mini, not_not.mp saw, rfl⟩
  · rename_i full
    cases translated
    exact .inr ⟨Bool.eq_false_of_not_eq_true full, rfl⟩

/-- An accepted ALU instruction is filler, or a self-move that is recorded as an
export. -/
theorem translateAlu_cases {shaderType : Int} {st st' : TranslateState}
    {iw0 iw1 iw2 : Word} (translated : translateAlu shaderType st iw0 iw1 iw2 = .ok st') :
    let alu := decodeAluInstruction iw0 iw1 iw2
    (alu.scalarWriteMask = 0 ∨ alu.scalarOpcode = 50) ∧
      (alu.vectorWriteMask = 0 ∧ st' = st ∨
        alu.vectorWriteMask ≠ 0 ∧
          (alu.isPredicated || alu.src1Negate || alu.src2Negate) = false ∧
          isSelfMov alu = true ∧ aluSwizzleIsIdentity alu = true ∧
          (shaderType = 0 → (alu.vectorDest = 0 ∨ alu.vectorDest = 62) ∧
            st.attributes.any (fun attr => attr.destReg == alu.src1Reg) = true) ∧
          (shaderType ≠ 0 → alu.vectorDest = 0) ∧
          st' = if shaderType = 1 then
              { st with pixelExports := st.pixelExports ++ [⟨alu.vectorDest, alu.src1Reg⟩] }
            else
              { st with
                vertexExports := st.vertexExports ++ [⟨alu.vectorDest, alu.src1Reg⟩] }) := by
  unfold translateAlu at translated
  generalize decodeAluInstruction iw0 iw1 iw2 = alu at translated ⊢
  dsimp only at translated ⊢
  split at translated
  · cases translated
  rename_i scalar
  refine ⟨by tauto, ?_⟩
  split at translated
  · rename_i filler
    cases translated
    exact .inl ⟨filler, rfl⟩
  rename_i masked
  split at translated
  · cases translated
  rename_i plain
  split at translated
  · cases translated
  rename_i selfMov
  split at translated
  · cases translated
  rename_i vertexRegister
  split at translated
  · cases translated
  rename_i fetched
  split at translated
  · cases translated
  rename_i pixelRegister
  split at translated
  · cases translated
  rename_i identity
  refine .inr ⟨masked, Bool.eq_false_of_not_eq_true plain, not_not.mp selfMov,
    not_not.mp identity, fun vertex => ⟨by tauto, ?_⟩, by tauto, ?_⟩
  · by_contra unfetched
    exact fetched ⟨vertex, unfetched⟩
  · split at translated <;> rename_i pixel <;> cases translated
    · rw [if_pos pixel]
    · rw [if_neg pixel]

/-- An accepted slot lies inside the microcode and holds an accepted instruction. -/
theorem translateSlot_cases {dwords : List Word} {dwordCount : Word} {shaderType : Int}
    {cf : ControlFlowInstruction} {st st' : TranslateState} {j : Nat}
    (translated : translateSlot dwords dwordCount shaderType cf st j = .ok st') :
    let slot := execSlot dwords cf j
    (cf.address + BitVec.ofNat 32 j) * 3 + 2 < dwordCount ∧
      (slot.isFetch = true ∧ translateFetch st slot.iw0 slot.iw1 slot.iw2 = .ok st' ∨
        slot.isFetch = false ∧
          translateAlu shaderType st slot.iw0 slot.iw1 slot.iw2 = .ok st') := by
  unfold translateSlot at translated
  dsimp only at translated
  split at translated
  · cases translated
  rename_i inside
  refine ⟨BitVec.not_le.mp inside, ?_⟩
  split at translated
  · rename_i fetch
    exact .inl ⟨fetch, translated⟩
  · rename_i alu
    exact .inr ⟨Bool.eq_false_of_not_eq_true alu, translated⟩

/-- The attribute a fetch becomes. -/
def VertexInstruction.attribute? : VertexInstruction → Option TranslatedAttribute
  | .fetch element destReg _ =>
      some ⟨element.fetchConstantIndex, destReg, element.format, element.byteOffset⟩
  | .move _ _ _ _ => none

/-- The assignment a move becomes, whatever its destination and mask. -/
def VertexInstruction.assignment? : VertexInstruction → Option TranslatedExport
  | .fetch _ _ _ => none
  | .move _ vectorDest _ source => some ⟨vectorDest, source⟩

def programAttributes (program : List VertexInstruction) : List TranslatedAttribute :=
  program.filterMap VertexInstruction.attribute?

def programAssignments (program : List VertexInstruction) : List TranslatedExport :=
  program.filterMap VertexInstruction.assignment?

/-- The translator's state agrees with the instructions decoded from the slots it
has visited. -/
structure Tracks (st : TranslateState) (decoded : DecodedProgram) : Prop where
  lastFullFetch : decoded.lastFullFetch =
    if st.sawFullFetch then some st.lastFullFetchConstantIndex else none
  attributes : st.attributes = programAttributes decoded.instructions
  vertexExports : st.vertexExports = programAssignments decoded.instructions
  recognized : ∀ e ∈ st.vertexExports, e.exportRegister ∈ [(0 : Word), 62] ∧
    ∃ attr ∈ st.attributes, attr.destReg = e.sourceRegister

theorem Tracks.initial : Tracks .initial .initial := by
  constructor
  · rfl
  · rfl
  · rfl
  · intro e listed
    cases listed

/-- Recording one more fetch. -/
theorem Tracks.fetch {st : TranslateState} {decoded : DecodedProgram}
    (tracks : Tracks st decoded) {fetchConstant destReg byteOffset destSwizzle : Word}
    {format : TranslatedVertexFormat} {st' : TranslateState}
    (last : st'.sawFullFetch = true ∧ st'.lastFullFetchConstantIndex = fetchConstant)
    (attributes : st'.attributes =
      st.attributes ++ [⟨fetchConstant, destReg, format, byteOffset⟩])
    (exports : st'.vertexExports = st.vertexExports) :
    Tracks st' ⟨some fetchConstant, decoded.instructions ++
      [.fetch ⟨fetchConstant, byteOffset, format⟩ destReg destSwizzle]⟩ := by
  constructor
  · simp [last.1, last.2]
  · rw [attributes, tracks.attributes]
    simp [programAttributes, VertexInstruction.attribute?]
  · rw [exports, tracks.vertexExports]
    simp [programAssignments, VertexInstruction.assignment?]
  · intro e listed
    rw [exports] at listed
    obtain ⟨register, attr, fetched, named⟩ := tracks.recognized e listed
    refine ⟨register, attr, ?_, named⟩
    rw [attributes]
    exact List.mem_append_left _ fetched

/-- An accepted fetch has a meaning, with the fetch constant that it names or
inherits, and that meaning is what the translator records. -/
theorem translateFetch_decodes {st st' : TranslateState} {decoded : DecodedProgram}
    {slot : ExecSlot}
    (last : decoded.lastFullFetch =
      if st.sawFullFetch then some st.lastFullFetchConstantIndex else none)
    (translated : translateFetch st slot.iw0 slot.iw1 slot.iw2 = .ok st') :
    let vf := decodeVertexFetchInstruction slot.iw0 slot.iw1 slot.iw2
    ∃ fetchConstant format,
      decodeFetchSlot decoded slot = some ⟨some fetchConstant, decoded.instructions ++
        [.fetch ⟨fetchConstant, vf.offset * 4, format⟩ vf.destReg vf.destSwizzle]⟩ ∧
      (List.range 4).all (fetchSwizzleSupported format vf.destSwizzle) = true ∧
      (st'.sawFullFetch = true ∧ st'.lastFullFetchConstantIndex = fetchConstant) ∧
      st'.attributes =
        st.attributes ++ [⟨fetchConstant, vf.destReg, format, vf.offset * 4⟩] ∧
      st'.vertexExports = st.vertexExports := by
  unfold decodeFetchSlot
  obtain ⟨format, vertexFetch, formatted, swizzle, ⟨mini, saw, rfl⟩ | ⟨full, rfl⟩⟩ :=
    translateFetch_cases translated
  all_goals dsimp only
  all_goals rw [if_neg (not_not.mpr vertexFetch), formatted]
  · have constant : effectiveFetchConstant decoded
        (decodeVertexFetchInstruction slot.iw0 slot.iw1 slot.iw2) =
          some st.lastFullFetchConstantIndex := by
      rw [effectiveFetchConstant, if_pos mini, last, if_pos saw]
    rw [constant]
    exact ⟨_, _, rfl, swizzle, ⟨saw, rfl⟩, rfl, rfl⟩
  · have constant : effectiveFetchConstant decoded
        (decodeVertexFetchInstruction slot.iw0 slot.iw1 slot.iw2) =
          some (decodeVertexFetchInstruction slot.iw0 slot.iw1 slot.iw2).fetchConstantIndex := by
      rw [effectiveFetchConstant, full]
      rfl
    rw [constant]
    exact ⟨_, _, rfl, swizzle, ⟨rfl, rfl⟩, rfl, rfl⟩

theorem translateFetch_tracks {st st' : TranslateState} {decoded : DecodedProgram}
    {slot : ExecSlot} (tracks : Tracks st decoded)
    (translated : translateFetch st slot.iw0 slot.iw1 slot.iw2 = .ok st') :
    ∃ decoded', decodeFetchSlot decoded slot = some decoded' ∧ Tracks st' decoded' := by
  obtain ⟨fetchConstant, format, decodes, -, last, attributes, exports⟩ :=
    translateFetch_decodes tracks.lastFullFetch translated
  exact ⟨_, decodes, tracks.fetch last attributes exports⟩

/-- An accepted ALU instruction is filler, or has the meaning of a move. -/
theorem translateAlu_decodes {shaderType : Int} {st st' : TranslateState}
    {slot : ExecSlot}
    (translated : translateAlu shaderType st slot.iw0 slot.iw1 slot.iw2 = .ok st')
    (decoded : DecodedProgram) :
    let alu := decodeAluInstruction slot.iw0 slot.iw1 slot.iw2
    decodeAluSlot decoded slot =
      if alu.vectorWriteMask = 0 then some decoded
      else some { decoded with
        instructions := decoded.instructions ++
          [.move (exportData slot.iw0) alu.vectorDest alu.vectorWriteMask alu.src1Reg] } := by
  unfold decodeAluSlot
  obtain ⟨scalar, ⟨filler, -⟩ | ⟨masked, plain, selfMov, identity, -⟩⟩ :=
    translateAlu_cases translated
  all_goals
    have noScalar := not_and_or.mpr (scalar.imp not_not.mpr not_not.mpr)
    dsimp only
    rw [if_neg noScalar]
  · rw [if_pos filler, if_pos filler]
  · have moves := Bool.and_eq_true_iff.mpr ⟨selfMov, identity⟩
    rw [if_neg masked, if_neg masked, if_neg (Bool.eq_false_iff.mp plain), if_pos moves]

theorem translateAlu_tracks {st st' : TranslateState} {decoded : DecodedProgram}
    {slot : ExecSlot} (tracks : Tracks st decoded)
    (translated : translateAlu 0 st slot.iw0 slot.iw1 slot.iw2 = .ok st') :
    ∃ decoded', decodeAluSlot decoded slot = some decoded' ∧ Tracks st' decoded' := by
  have decodes := translateAlu_decodes translated decoded
  dsimp only at decodes
  obtain ⟨-, ⟨filler, rfl⟩ | ⟨masked, -, -, -, vertex, -, recorded⟩⟩ :=
    translateAlu_cases translated
  · rw [if_pos filler] at decodes
    exact ⟨decoded, decodes, tracks⟩
  · rw [if_neg masked] at decodes
    obtain ⟨register, fetched⟩ := vertex rfl
    obtain rfl := recorded
    refine ⟨_, decodes, tracks.lastFullFetch, ?_, ?_, ?_⟩
    · rw [programAttributes, List.filterMap_append]
      exact tracks.attributes.trans (List.append_nil _).symm
    · simp [programAssignments, VertexInstruction.assignment?, tracks.vertexExports]
    · intro e listed
      rcases List.mem_append.mp listed with earlier | new
      · exact tracks.recognized e earlier
      · rw [List.mem_singleton] at new
        subst new
        exact ⟨by simpa using register, by simpa using fetched⟩

/-- An accepted slot has a meaning, and the translator records it. -/
theorem translateSlot_tracks (dwords : List Word) (dwordCount : Word)
    (cf : ControlFlowInstruction) :
    Simulates Tracks (translateSlot dwords dwordCount 0 cf)
      (fun decoded j => decodeSlot decoded (execSlot dwords cf j)) := by
  intro st decoded j st' tracks translated
  dsimp only
  rw [decodeSlot]
  obtain ⟨-, ⟨fetch, accepted⟩ | ⟨alu, accepted⟩⟩ := translateSlot_cases translated
  · rw [if_pos fetch]
    exact translateFetch_tracks tracks accepted
  · rw [if_neg (Bool.eq_false_iff.mp alu)]
    exact translateAlu_tracks tracks accepted

/-- An accepted control-flow instruction is skipped or runs its EXEC block. -/
theorem translateControlFlow_cases {dwords : List Word} {dwordCount : Word}
    {shaderType : Int} {cf : ControlFlowInstruction} {cfEndDword cfEndDword' : Word}
    {st st' : TranslateState}
    (translated : translateControlFlow dwords dwordCount shaderType cf cfEndDword st =
      .ok (cfEndDword', st')) :
    cfEndDword' = controlFlowEnd cf cfEndDword ∧
      ((cf.opcode = .kNop ∨ cf.opcode = .kAlloc) ∧ st' = st ∨
        (cf.opcode = .kExec ∨ cf.opcode = .kExecEnd) ∧
          (List.range cf.count.toNat).foldlM
            (translateSlot dwords dwordCount shaderType cf) st = .ok st') := by
  unfold translateControlFlow at translated
  dsimp only at translated
  unfold controlFlowEnd
  split at translated
  · cases translated
  rename_i unconditional
  split at translated
  · rename_i noBlock
    split at translated
    · cases translated
    rename_i skipped
    cases translated
    rw [if_neg (fun both => noBlock both.1)]
    refine ⟨rfl, .inl ⟨?_, rfl⟩⟩
    by_contra other
    exact skipped (not_or.mp other)
  · rename_i block
    have family : isExecFamily cf.opcode := not_not.mp block
    have exec : cf.opcode = .kExec ∨ cf.opcode = .kExecEnd := by
      by_contra other
      exact unconditional ⟨family, other⟩
    obtain ⟨final, folded, returned⟩ := Fallible.bind_eq_ok_iff.mp translated
    cases returned
    refine ⟨?_, .inr ⟨exec, folded⟩⟩
    by_cases lower : cf.address * 3 < cfEndDword
    · rw [if_pos lower, if_pos ⟨family, lower⟩]
    · rw [if_neg lower, if_neg (fun both => lower both.2)]

/-- One accepted round of the walk: both halves of the pair, and the rest. -/
theorem translateWalk_succ {dwords : List Word} {dwordCount : Word} {shaderType : Int}
    {rounds : Nat} {i cfEndDword : Word} {st st' : TranslateState}
    {a b : ControlFlowInstruction}
    (unpacked : unpackControlFlowPair (dwordAt dwords (i * 3)) (dwordAt dwords (i * 3 + 1))
      (dwordAt dwords (i * 3 + 2)) = (a, b)) (inside : i * 3 < cfEndDword)
    (translated : translateWalk dwords dwordCount shaderType (rounds + 1) i cfEndDword st =
      .ok st') :
    ∃ st1 st2,
      translateControlFlow dwords dwordCount shaderType a cfEndDword st =
        .ok (controlFlowEnd a cfEndDword, st1) ∧
      translateControlFlow dwords dwordCount shaderType b (controlFlowEnd a cfEndDword) st1 =
        .ok (controlFlowEnd b (controlFlowEnd a cfEndDword), st2) ∧
      translateWalk dwords dwordCount shaderType rounds (i + 1)
        (controlFlowEnd b (controlFlowEnd a cfEndDword)) st2 = .ok st' := by
  unfold translateWalk at translated
  rw [if_pos inside, unpacked] at translated
  dsimp only at translated
  obtain ⟨⟨end1, st1⟩, first, continued⟩ := Fallible.bind_eq_ok_iff.mp translated
  obtain ⟨⟨end2, st2⟩, second, rest⟩ := Fallible.bind_eq_ok_iff.mp continued
  obtain rfl := (translateControlFlow_cases first).1
  obtain rfl := (translateControlFlow_cases second).1
  exact ⟨st1, st2, first, second, rest⟩

section Walk

variable {Shadow : Type*} {related : TranslateState → Shadow → Prop}
  {shadow : Shadow → ExecSlot → Option Shadow} {dwords : List Word} {dwordCount : Word}
  {shaderType : Int}

/-- A fold over the slots that follows every accepted slot follows a control-flow
instruction. -/
theorem translateControlFlow_simulates
    (simulates : ∀ cf, Simulates related (translateSlot dwords dwordCount shaderType cf)
      fun mirror j => shadow mirror (execSlot dwords cf j))
    {cf : ControlFlowInstruction} {cfEndDword cfEndDword' : Word} {st st' : TranslateState}
    {mirror : Shadow} (start : related st mirror)
    (translated : translateControlFlow dwords dwordCount shaderType cf cfEndDword st =
      .ok (cfEndDword', st')) :
    ∃ slots mirror', controlFlowSlots dwords cf = some slots ∧
      slots.foldlM shadow mirror = some mirror' ∧ related st' mirror' := by
  unfold controlFlowSlots
  obtain ⟨skipped, rfl⟩ | ⟨exec, folded⟩ := (translateControlFlow_cases translated).2
  · refine ⟨[], mirror, ?_, rfl, start⟩
    rcases skipped with skipped | skipped <;> rw [skipped]
  · obtain ⟨mirror', shadowed, kept⟩ := (simulates cf).foldlM _ start folded
    refine ⟨(List.range cf.count.toNat).map (execSlot dwords cf), mirror', ?_, ?_, kept⟩
    · rcases exec with exec | exec <;> rw [exec]
    · rw [List.foldlM_map]
      exact shadowed

/-- It follows the whole walk.  The induction is on the rounds of the walk. -/
theorem translateWalk_simulates
    (simulates : ∀ cf, Simulates related (translateSlot dwords dwordCount shaderType cf)
      fun mirror j => shadow mirror (execSlot dwords cf j))
    (rounds : Nat) {i cfEndDword : Word} {st st' : TranslateState} {mirror : Shadow}
    (start : related st mirror)
    (translated : translateWalk dwords dwordCount shaderType rounds i cfEndDword st =
      .ok st') :
    ∃ slots mirror', programSlots dwords rounds i cfEndDword = some slots ∧
      slots.foldlM shadow mirror = some mirror' ∧ related st' mirror' := by
  induction rounds generalizing i cfEndDword st mirror with
  | zero =>
      cases translated
      exact ⟨[], mirror, rfl, rfl, start⟩
  | succ rounds ih =>
      unfold programSlots
      by_cases inside : i * 3 < cfEndDword
      · rw [if_pos inside]
        generalize pair : unpackControlFlowPair (dwordAt dwords (i * 3))
          (dwordAt dwords (i * 3 + 1)) (dwordAt dwords (i * 3 + 2)) = unpacked
        obtain ⟨a, b⟩ := unpacked
        obtain ⟨st1, st2, first, second, rest⟩ := translateWalk_succ pair inside translated
        obtain ⟨slots1, mirror1, listed1, folded1, related1⟩ :=
          translateControlFlow_simulates simulates start first
        obtain ⟨slots2, mirror2, listed2, folded2, related2⟩ :=
          translateControlFlow_simulates simulates related1 second
        obtain ⟨slots3, mirror3, listed3, folded3, related3⟩ := ih related2 rest
        refine ⟨slots1 ++ slots2 ++ slots3, mirror3, ?_, ?_, related3⟩
        · simp only [listed1, listed2, listed3, bind, Option.bind_some]
          rfl
        · simp [List.foldlM_append, folded1, folded2, folded3]
      · rw [if_neg inside]
        unfold translateWalk at translated
        rw [if_neg inside] at translated
        cases translated
        exact ⟨[], mirror, rfl, rfl, start⟩

end Walk

/-- The attributes, exports and stride of a translation. -/
structure TranslatedParts where
  attributes : List TranslatedAttribute
  vertexExports : List TranslatedExport
  pixelExports : List TranslatedExport
  vertexStrideBytes : Word
deriving DecidableEq, Repr

def TranslateState.parts (st : TranslateState) : TranslatedParts :=
  ⟨st.attributes, st.vertexExports, st.pixelExports, st.vertexStrideBytes⟩

def TranslationResult.parts (result : TranslationResult) : TranslatedParts :=
  ⟨result.attributes, result.vertexExports, result.pixelExports, result.vertexStrideBytes⟩

/-- A successful translation lists what its walk has accumulated, and a vertex
translation has fetched something. -/
theorem translateShader_walked {dwords : List Word} {dwordCount : Word} {shaderType : Int}
    (success : (translateShader dwords dwordCount shaderType).success = true) :
    ∃ st, translateWalk dwords dwordCount shaderType (dwordCount.toNat / 3) 0
        (dwordCount / 3 * 3) .initial = .ok st ∧
      (translateShader dwords dwordCount shaderType).parts = st.parts ∧
      (shaderType = 0 → st.attributes ≠ [] ∧
        (translateShader dwords dwordCount shaderType).vertexShaderSource =
          vertexShaderSource st.attributes st.vertexExports) := by
  unfold translateShader at success ⊢
  cases walked : translateWalk dwords dwordCount shaderType (dwordCount.toNat / 3) 0
      (dwordCount / 3 * 3) .initial with
  | error reason =>
      rw [walked] at success
      cases success
  | ok st =>
      rw [walked] at success
      refine ⟨st, rfl, ?_⟩
      dsimp only at success ⊢
      split at success
      · rename_i vertex
        rw [if_pos vertex]
        split at success
        · cases success
        · rename_i nonempty
          rw [if_neg nonempty]
          simp only [Bool.or_eq_true, List.isEmpty_iff, not_or] at nonempty
          exact ⟨rfl, fun _ => ⟨nonempty.1, rfl⟩⟩
      · rename_i pixel
        rw [if_neg pixel]
        split at success
        · cases success
        · split at success
          · cases success
          · rename_i source
            rw [if_neg source]
            exact ⟨rfl, fun vertex => absurd vertex pixel⟩

/-- The parts of a successful vertex translation, read off the instructions. -/
structure Recognized (result : TranslationResult) (program : List VertexInstruction) :
    Prop where
  attributes : result.attributes = programAttributes program
  vertexExports : result.vertexExports = programAssignments program
  source : result.vertexShaderSource =
    vertexShaderSource (programAttributes program) (programAssignments program)
  fetches : programAttributes program ≠ []
  exportRegister : ∀ e ∈ programAssignments program, e.exportRegister ∈ [(0 : Word), 62]
  sourceFetched : ∀ e ∈ programAssignments program,
    ∃ attr ∈ programAttributes program, attr.destReg = e.sourceRegister

theorem translateShader_recognized {dwords : List Word} {dwordCount : Word}
    (success : (translateShader dwords dwordCount 0).success = true) :
    ∃ program, vertexProgram dwords dwordCount = some program ∧
      Recognized (translateShader dwords dwordCount 0) program := by
  obtain ⟨st, walked, parts, vertex⟩ := translateShader_walked success
  obtain ⟨nonempty, source⟩ := vertex rfl
  obtain ⟨slots, decoded, listed, folded, tracks⟩ :=
    translateWalk_simulates (translateSlot_tracks dwords dwordCount) _ Tracks.initial walked
  have recognized := tracks.recognized
  rw [tracks.attributes, tracks.vertexExports] at recognized
  refine ⟨decoded.instructions, ?_, ?_⟩
  · simp only [vertexProgram, listed, folded, bind, Option.bind_some]
    rfl
  · constructor
    · exact (congrArg TranslatedParts.attributes parts).trans tracks.attributes
    · exact (congrArg TranslatedParts.vertexExports parts).trans tracks.vertexExports
    · rw [source, tracks.attributes, tracks.vertexExports]
    · rw [← tracks.attributes]
      exact nonempty
    · exact fun e listed => (recognized e listed).1
    · exact fun e listed => (recognized e listed).2

end BumpinHost.Shader
