import BumpinHost.Library.Fallible
import BumpinHost.Shader.Decode

/-!
# Translating shader microcode

The recogniser accepts vertex fetches in two formats and self-moves, and fails
closed on everything else.  A successful vertex translation lists the attributes
and assignments it found, and the text built from them.
-/

namespace BumpinHost.Shader

inductive TranslatedVertexFormat
  | float3
  | float4
deriving DecidableEq, Repr

structure TranslatedAttribute where
  fetchConstantIndex : Word
  destReg : Word
  format : TranslatedVertexFormat
  byteOffset : Word
deriving DecidableEq, Repr

structure TranslatedExport where
  exportRegister : Word
  sourceRegister : Word
deriving DecidableEq, Repr

structure TranslationResult where
  success : Bool
  failureReason : String
  vertexShaderSource : String
  fragmentShaderSource : String
  attributes : List TranslatedAttribute
  vertexExports : List TranslatedExport
  pixelExports : List TranslatedExport
  vertexStrideBytes : Word
deriving DecidableEq, Repr

/-- A default-constructed result: not a success, and otherwise empty. -/
def TranslationResult.initial : TranslationResult :=
  ⟨false, "", "", "", [], [], [], 0⟩

def failedTranslation (reason : String) : TranslationResult :=
  { TranslationResult.initial with failureReason := reason }

/-- What the walk has accumulated so far. -/
structure TranslateState where
  sawFullFetch : Bool
  lastFullFetchConstantIndex : Word
  attributes : List TranslatedAttribute
  vertexExports : List TranslatedExport
  pixelExports : List TranslatedExport
  vertexStrideBytes : Word
deriving DecidableEq, Repr

def TranslateState.initial : TranslateState :=
  ⟨false, 0, [], [], [], 0⟩

/-- Vertex formats the translator recognizes. -/
def translatedFormat (format : Word) : Option TranslatedVertexFormat :=
  if format = 57 then some .float3
  else if format = 38 then some .float4
  else none

/-- A literal identity component, or the constant fill of a Float3 fetch's
fourth component. -/
def fetchSwizzleSupported (format : TranslatedVertexFormat) (destSwizzle : Word)
    (comp : Nat) : Bool :=
  let swizzleComponent := getFetchSwizzleComponent destSwizzle comp
  let isRealFloat3ConstantFill := format == .float3 && comp == 3 &&
    (swizzleComponent == 4 || swizzleComponent == 5)
  swizzleComponent == BitVec.ofNat 32 comp || isRealFloat3ConstantFill

def translateFetch (st : TranslateState) (iw0 iw1 iw2 : Word) :
    Except String TranslateState :=
  if iw0 &&& 0x1F ≠ 0 then
    .error "a real texture fetch has no recognized translation"
  else
    let vf := decodeVertexFetchInstruction iw0 iw1 iw2
    match translatedFormat vf.format with
    | none => .error "unrecognized real vertex-fetch format"
    | some format =>
        if ¬ (List.range 4).all (fetchSwizzleSupported format vf.destSwizzle) then
          .error "non-identity fetch swizzle not supported"
        else if vf.isMiniFetch then
          if ¬ st.sawFullFetch then
            .error "mini-fetch with no preceding full fetch"
          else
            .ok { st with
              attributes := st.attributes ++
                [⟨st.lastFullFetchConstantIndex, vf.destReg, format, vf.offset * 4⟩] }
        else
          .ok { st with
            sawFullFetch := true
            lastFullFetchConstantIndex := vf.fetchConstantIndex
            vertexStrideBytes := vf.stride * 4
            attributes := st.attributes ++
              [⟨vf.fetchConstantIndex, vf.destReg, format, vf.offset * 4⟩] }

/-- Maximum of a TEMP register with itself. -/
def isSelfMov (alu : AluInstructionFields) : Bool :=
  alu.vectorOpcode == 2 && alu.src1Reg == alu.src2Reg && alu.src1Sel && alu.src2Sel

def aluSwizzleIsIdentity (alu : AluInstructionFields) : Bool :=
  (List.range 4).all fun comp =>
    resolveAluSwizzleComponent alu.src1Swizzle comp == BitVec.ofNat 32 comp &&
      resolveAluSwizzleComponent alu.src2Swizzle comp == BitVec.ofNat 32 comp

def translateAlu (shaderType : Int) (st : TranslateState) (iw0 iw1 iw2 : Word) :
    Except String TranslateState :=
  let alu := decodeAluInstruction iw0 iw1 iw2
  if alu.scalarWriteMask ≠ 0 ∧ alu.scalarOpcode ≠ 50 then
    .error "scalar ALU op not recognized"
  else if alu.vectorWriteMask = 0 then
    .ok st
  else if alu.isPredicated || alu.src1Negate || alu.src2Negate then
    .error "predicated or negated ALU instruction not supported"
  else if ¬ isSelfMov alu then
    .error "a real ALU instruction outside the recognized export-via-self-mov pattern"
  else if shaderType = 0 ∧ alu.vectorDest ≠ 0 ∧ alu.vectorDest ≠ 62 then
    .error "unrecognized vertex export register"
  else if shaderType = 0 ∧ ¬ st.attributes.any (fun attr => attr.destReg == alu.src1Reg) then
    .error "export source register was never fetched"
  else if shaderType ≠ 0 ∧ alu.vectorDest ≠ 0 then
    .error "unrecognized pixel export register"
  else if ¬ aluSwizzleIsIdentity alu then
    .error "non-identity ALU swizzle not supported"
  else
    let exp : TranslatedExport := ⟨alu.vectorDest, alu.src1Reg⟩
    if shaderType = 1 then
      .ok { st with pixelExports := st.pixelExports ++ [exp] }
    else
      .ok { st with vertexExports := st.vertexExports ++ [exp] }

/-- Instruction `j` of an EXEC block. -/
def translateSlot (dwords : List Word) (dwordCount : Word) (shaderType : Int)
    (cf : ControlFlowInstruction) (st : TranslateState) (j : Nat) :
    Except String TranslateState :=
  let slot := cf.address + BitVec.ofNat 32 j
  let slotDwordStart := slot * 3
  if dwordCount ≤ slotDwordStart + 2 then
    .error "control-flow address/count referenced a slot past the real microcode end"
  else
    let iw0 := dwordAt dwords slotDwordStart
    let iw1 := dwordAt dwords (slotDwordStart + 1)
    let iw2 := dwordAt dwords (slotDwordStart + 2)
    if isFetchSlot cf j then translateFetch st iw0 iw1 iw2
    else translateAlu shaderType st iw0 iw1 iw2

/-- One control-flow instruction, which may also lower the bound of the
control-flow program. -/
def translateControlFlow (dwords : List Word) (dwordCount : Word) (shaderType : Int)
    (cf : ControlFlowInstruction) (cfEndDword : Word) (st : TranslateState) :
    Except String (Word × TranslateState) :=
  let isUnconditionalExec := cf.opcode = .kExec ∨ cf.opcode = .kExecEnd
  if isExecFamily cf.opcode ∧ ¬ isUnconditionalExec then
    .error "conditional control flow not supported"
  else if ¬ isExecFamily cf.opcode then
    if cf.opcode ≠ .kNop ∧ cf.opcode ≠ .kAlloc then
      .error "unsupported control-flow opcode"
    else
      .ok (cfEndDword, st)
  else do
    let candidateEnd := cf.address * 3
    let cfEndDword := if candidateEnd < cfEndDword then candidateEnd else cfEndDword
    let st ← (List.range cf.count.toNat).foldlM
      (translateSlot dwords dwordCount shaderType cf) st
    return (cfEndDword, st)

/-- The control-flow walk.  Each round visits one pair; the number of pairs that
fit in the microcode bounds the rounds. -/
def translateWalk (dwords : List Word) (dwordCount : Word) (shaderType : Int) :
    Nat → Word → Word → TranslateState → Except String TranslateState
  | 0, _, _, st => .ok st
  | rounds + 1, i, cfEndDword, st =>
      if i * 3 < cfEndDword then do
        let (a, b) := unpackControlFlowPair (dwordAt dwords (i * 3))
          (dwordAt dwords (i * 3 + 1)) (dwordAt dwords (i * 3 + 2))
        let (cfEndDword, st) ← translateControlFlow dwords dwordCount shaderType a cfEndDword st
        let (cfEndDword, st) ← translateControlFlow dwords dwordCount shaderType b cfEndDword st
        translateWalk dwords dwordCount shaderType rounds (i + 1) cfEndDword st
      else
        .ok st

/-- Formatting into a buffer of `size` bytes keeps at most `size - 1` of them. -/
def snprintf (size : Nat) (text : String) : String :=
  String.ofList (text.toList.take (size - 1))

def fieldLine (index : Nat) (attr : TranslatedAttribute) : String :=
  let mslType := match attr.format with
    | .float3 => "float3"
    | .float4 => "float4"
  snprintf 128 s!"    {mslType} r{attr.destReg.toNat} [[attribute({index})]];\n"

def assignLine (e : TranslatedExport) : String :=
  if e.exportRegister = 62 then
    snprintf 128 <|
      s!"    out.position = float4(in.r{e.sourceRegister.toNat}.xyz, 1.0);\n" ++
      "    out.pointSize = 8.0;\n"
  else
    let interpolator := e.exportRegister.toNat
    let source := e.sourceRegister.toNat
    snprintf 128 s!"    out.interpolator{interpolator} = float4(in.r{source});\n"

/-- The whole text of a vertex shader, before it is formatted into the source
buffer. -/
def vertexShaderText (attributes : List TranslatedAttribute)
    (exports : List TranslatedExport) : String :=
  let attributeFields := String.join
    (attributes.zipIdx.map fun entry => fieldLine entry.2 entry.1)
  let assignments := String.join (exports.map assignLine)
  "struct VertexIn \x7b\n" ++ attributeFields ++ "\x7d;\n" ++
    "struct RasterizerData \x7b\n    float4 position [[position]];\n" ++
    "    float pointSize [[point_size]];\n    float4 interpolator0;\n\x7d;\n" ++
    "vertex RasterizerData vertex_main(VertexIn in [[stage_in]]) \x7b\n" ++
    "    RasterizerData out;\n" ++ assignments ++ "    return out;\n\x7d\n"

def vertexShaderSource (attributes : List TranslatedAttribute)
    (exports : List TranslatedExport) : String :=
  snprintf 2048 (vertexShaderText attributes exports)

def fragmentShaderSource : String :=
  "fragment float4 fragment_main(RasterizerData in [[stage_in]]) \x7b\n" ++
  "    return in.interpolator0;\n" ++
  "\x7d\n"

def translateShader (dwords : List Word) (dwordCount : Word) (shaderType : Int) :
    TranslationResult :=
  match translateWalk dwords dwordCount shaderType (dwordCount.toNat / 3) 0
      (dwordCount / 3 * 3) .initial with
  | .error reason => failedTranslation reason
  | .ok st =>
      let result : TranslationResult :=
        { success := true
          failureReason := ""
          vertexShaderSource := ""
          fragmentShaderSource := ""
          attributes := st.attributes
          vertexExports := st.vertexExports
          pixelExports := st.pixelExports
          vertexStrideBytes := st.vertexStrideBytes }
      if shaderType = 0 then
        if st.attributes.isEmpty || st.vertexExports.isEmpty then
          failedTranslation "no real attributes or exports recognized"
        else
          { result with
            vertexShaderSource := vertexShaderSource st.attributes st.vertexExports }
      else
        match st.pixelExports with
        | [] => failedTranslation "no real pixel exports recognized"
        | first :: _ =>
            if first.sourceRegister ≠ 0 then
              failedTranslation
                "pixel shader export source register other than 0 not supported"
            else
              { result with fragmentShaderSource := fragmentShaderSource }

/-- Every failure says why, so that no translation equals the default-constructed result. -/
theorem translateFetch_reason {st : TranslateState} {iw0 iw1 iw2 : Word} {reason : String}
    (failed : translateFetch st iw0 iw1 iw2 = .error reason) : reason ≠ "" := by
  unfold translateFetch at failed
  dsimp only at failed
  repeat' split at failed
  all_goals simp only [Except.error.injEq, reduceCtorEq] at failed
  all_goals subst failed; decide

theorem translateAlu_reason {shaderType : Int} {st : TranslateState} {iw0 iw1 iw2 : Word}
    {reason : String} (failed : translateAlu shaderType st iw0 iw1 iw2 = .error reason) :
    reason ≠ "" := by
  unfold translateAlu at failed
  dsimp only at failed
  repeat' split at failed
  all_goals simp only [Except.error.injEq, reduceCtorEq] at failed
  all_goals subst failed; decide

theorem translateSlot_reason {dwords : List Word} {dwordCount : Word} {shaderType : Int}
    {cf : ControlFlowInstruction} {st : TranslateState} {j : Nat} {reason : String}
    (failed : translateSlot dwords dwordCount shaderType cf st j = .error reason) :
    reason ≠ "" := by
  unfold translateSlot at failed
  dsimp only at failed
  split at failed
  · cases failed
    decide
  · split at failed
    · exact translateFetch_reason failed
    · exact translateAlu_reason failed

theorem translateSlots_reason {dwords : List Word} {dwordCount : Word} {shaderType : Int}
    {cf : ControlFlowInstruction} {slots : List Nat} {st : TranslateState} {reason : String}
    (failed : slots.foldlM (translateSlot dwords dwordCount shaderType cf) st =
      .error reason) : reason ≠ "" := by
  induction slots generalizing st with
  | nil => cases failed
  | cons slot slots ih =>
      rw [List.foldlM_cons] at failed
      obtain first | ⟨next, -, rest⟩ := Fallible.bind_eq_error_iff.mp failed
      · exact translateSlot_reason first
      · exact ih rest

theorem translateControlFlow_reason {dwords : List Word} {dwordCount : Word}
    {shaderType : Int} {cf : ControlFlowInstruction} {cfEndDword : Word}
    {st : TranslateState} {reason : String}
    (failed : translateControlFlow dwords dwordCount shaderType cf cfEndDword st =
      .error reason) : reason ≠ "" := by
  unfold translateControlFlow at failed
  dsimp only at failed
  split at failed
  · cases failed
    decide
  · split at failed
    · split at failed
      · cases failed
        decide
      · cases failed
    · obtain slots | ⟨next, -, returned⟩ := Fallible.bind_eq_error_iff.mp failed
      · exact translateSlots_reason slots
      · cases returned

theorem translateWalk_reason {dwords : List Word} {dwordCount : Word} {shaderType : Int}
    {rounds : Nat} {i cfEndDword : Word} {st : TranslateState} {reason : String}
    (failed : translateWalk dwords dwordCount shaderType rounds i cfEndDword st =
      .error reason) : reason ≠ "" := by
  induction rounds generalizing i cfEndDword st with
  | zero => cases failed
  | succ rounds ih =>
      unfold translateWalk at failed
      split at failed
      · dsimp only at failed
        obtain first | ⟨middle, -, continued⟩ := Fallible.bind_eq_error_iff.mp failed
        · exact translateControlFlow_reason first
        · obtain second | ⟨after, -, rest⟩ := Fallible.bind_eq_error_iff.mp continued
          · exact translateControlFlow_reason second
          · exact ih rest
      · cases failed

theorem failedTranslation_ne_initial {reason : String} (given : reason ≠ "") :
    failedTranslation reason ≠ .initial := by
  intro same
  exact given (congrArg TranslationResult.failureReason same)

/-- A translation is never the result of a cache that was not filled. -/
theorem translateShader_ne_initial (dwords : List Word) (dwordCount : Word)
    (shaderType : Int) : translateShader dwords dwordCount shaderType ≠ .initial := by
  have filled : ∀ result : TranslationResult, result.success = true → result ≠ .initial := by
    intro result succeeded same
    rw [same] at succeeded
    cases succeeded
  unfold translateShader
  split
  case h_1 reason failed => exact failedTranslation_ne_initial (translateWalk_reason failed)
  case h_2 st walked =>
      dsimp only
      split
      · split
        · exact failedTranslation_ne_initial (by decide)
        · exact filled _ rfl
      · split
        · exact failedTranslation_ne_initial (by decide)
        · split
          · exact failedTranslation_ne_initial (by decide)
          · exact filled _ rfl

/-- FNV-1a over bytes. -/
def fnv1aHash (data : List Byte) : Word :=
  data.foldl (fun hash byte => (hash ^^^ byte.setWidth 32) * 16777619) 2166136261

/-- The bytes of a word in the host's little-endian order. -/
def littleEndianBytes (word : Word) : List Byte :=
  [word.extractLsb' 0 8, word.extractLsb' 8 8, word.extractLsb' 16 8,
    word.extractLsb' 24 8]

structure ShaderTranslationCache where
  vertexHash : Word
  vertexResult : TranslationResult
  pixelHash : Word
  pixelResult : TranslationResult
deriving DecidableEq, Repr

namespace ShaderTranslationCache

def initial : ShaderTranslationCache :=
  ⟨0, .initial, 0, .initial⟩

def updateVertexShader (cache : ShaderTranslationCache) (hash : Word)
    (result : TranslationResult) : ShaderTranslationCache :=
  { cache with vertexHash := hash, vertexResult := result }

def updatePixelShader (cache : ShaderTranslationCache) (hash : Word)
    (result : TranslationResult) : ShaderTranslationCache :=
  { cache with pixelHash := hash, pixelResult := result }

end ShaderTranslationCache

end BumpinHost.Shader
