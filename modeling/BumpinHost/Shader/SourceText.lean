import BumpinHost.Shader.Preservation
import Mathlib.Algebra.BigOperators.Group.List.Basic
import Mathlib.Data.Nat.Log

/-!
# When the generated vertex source is complete and well formed

The intended source is a list of fields and a list of assignments, and its text is
what the lines would be without any buffer.  The generated text is cut off exactly
when the intended one does not fit the source buffer; no line is ever cut off by its
own buffer before that.
-/

namespace BumpinHost.Shader

/-- The number of decimal digits that are printed. -/
def decimalWidth (n : Nat) : Nat :=
  Nat.log 10 n + 1

theorem length_repr (n : Nat) : n.repr.length = decimalWidth n := by
  unfold decimalWidth
  apply Nat.le_antisymm
  · rw [Nat.length_repr_le_iff (Nat.succ_pos _)]
    exact Nat.lt_pow_succ_log_self (by decide) n
  · by_contra short
    have fits : n.repr.length ≤ Nat.log 10 n := by omega
    have positive := lt_of_lt_of_le Nat.length_repr_pos fits
    rw [Nat.length_repr_le_iff positive] at fits
    have nonzero : n ≠ 0 := by
      rintro rfl
      exact absurd positive (by decide)
    exact lt_irrefl _ ((Nat.log_lt_iff_lt_pow (by decide) nonzero).mpr fits)

theorem decimalWidth_le {n digits : Nat} (positive : 0 < digits) (small : n < 10 ^ digits) :
    decimalWidth n ≤ digits := by
  rw [← length_repr]
  exact (Nat.length_repr_le_iff positive).mpr small

/-- A 32-bit number has at most ten digits. -/
theorem decimalWidth_word (w : Word) : decimalWidth w.toNat ≤ 10 :=
  decimalWidth_le (by decide) (lt_trans w.isLt (by decide))

/-- The name of the field a register is read through. -/
def fieldName (register : Word) : String :=
  "r" ++ toString register.toNat

/-- A field of `VertexIn`. -/
structure VertexInField where
  format : TranslatedVertexFormat
  name : String
  attributeIndex : Nat
deriving DecidableEq, Repr

/-- An assignment of `vertex_main`, with the field that it reads. -/
inductive VertexAssignment
  | position (field : String)
  | interpolator (index : Nat) (field : String)
deriving DecidableEq, Repr

def VertexAssignment.field : VertexAssignment → String
  | .position field => field
  | .interpolator _ field => field

/-- The assignment converts the whole field with `float4(in.rK)`. -/
def VertexAssignment.Widens : VertexAssignment → Prop
  | .position _ => False
  | .interpolator _ _ => True

structure VertexSource where
  fields : List VertexInField
  assignments : List VertexAssignment
deriving DecidableEq, Repr

def VertexInField.text (field : VertexInField) : String :=
  let mslType := match field.format with
    | .float3 => "float3"
    | .float4 => "float4"
  "    " ++ mslType ++ " " ++ field.name ++ " [[attribute(" ++
    toString field.attributeIndex ++ ")]];\n"

def VertexAssignment.text : VertexAssignment → String
  | .position field =>
      "    out.position = float4(in." ++ field ++ ".xyz, 1.0);\n" ++
        "    out.pointSize = 8.0;\n"
  | .interpolator index field =>
      "    out.interpolator" ++ toString index ++ " = float4(in." ++ field ++ ");\n"

/-- The whole text, with no buffer anywhere. -/
def VertexSource.text (source : VertexSource) : String :=
  vertexShaderFrame (String.join (source.fields.map VertexInField.text))
    (String.join (source.assignments.map VertexAssignment.text))

def intendedField (entry : TranslatedAttribute × Nat) : VertexInField :=
  ⟨entry.1.format, fieldName entry.1.destReg, entry.2⟩

def intendedAssignment (e : TranslatedExport) : VertexAssignment :=
  if e.exportRegister = 62 then .position (fieldName e.sourceRegister)
  else .interpolator e.exportRegister.toNat (fieldName e.sourceRegister)

def intendedSource (attributes : List TranslatedAttribute)
    (exports : List TranslatedExport) : VertexSource :=
  ⟨attributes.zipIdx.map intendedField, exports.map intendedAssignment⟩

/-- Every field has its own name, every field that is read is declared, and only
`float4` fields are converted whole. -/
structure VertexSource.WellFormed (source : VertexSource) : Prop where
  namesDistinct : (source.fields.map VertexInField.name).Nodup
  declared : ∀ assignment ∈ source.assignments, ∃ field ∈ source.fields,
    field.name = assignment.field
  widensFloat4 : ∀ assignment ∈ source.assignments, assignment.Widens →
    ∀ field ∈ source.fields, field.name = assignment.field → field.format = .float4

/-- A successful translation's source is all of the intended text, and well formed. -/
def SourceIsWellFormed (dwords : List Word) (dwordCount : Word) : Prop :=
  let result := translateShader dwords dwordCount 0
  let intended := intendedSource result.attributes result.vertexExports
  result.vertexShaderSource = intended.text ∧ intended.WellFormed

def fieldWidth (entry : TranslatedAttribute × Nat) : Nat :=
  30 + decimalWidth entry.1.destReg.toNat + decimalWidth entry.2

def assignmentWidth (e : TranslatedExport) : Nat :=
  if e.exportRegister = 62 then 67 + decimalWidth e.sourceRegister.toNat
  else 37 + decimalWidth e.exportRegister.toNat + decimalWidth e.sourceRegister.toNat

/-- The length of the intended text. -/
def sourceWidth (attributes : List TranslatedAttribute)
    (exports : List TranslatedExport) : Nat :=
  (attributes.zipIdx.map fieldWidth).sum + (exports.map assignmentWidth).sum + 248

theorem length_fieldName (register : Word) :
    (fieldName register).length = 1 + decimalWidth register.toNat := by
  rw [fieldName, String.length_append, Nat.toString_eq_repr, length_repr]
  rfl

theorem length_fieldText (entry : TranslatedAttribute × Nat) :
    (intendedField entry).text.length = fieldWidth entry := by
  have indent : "    ".length = 4 := rfl
  have blank : " ".length = 1 := rfl
  have opening : " [[attribute(".length = 13 := rfl
  have closing : ")]];\n".length = 5 := rfl
  have mslType : (match entry.1.format with
      | .float3 => "float3"
      | .float4 => "float4").length = 6 := by
    cases entry.1.format <;> rfl
  unfold intendedField VertexInField.text fieldWidth
  simp only [String.length_append, length_fieldName, Nat.toString_eq_repr, length_repr]
  omega

theorem length_assignmentText (e : TranslatedExport) :
    (intendedAssignment e).text.length = assignmentWidth e := by
  unfold intendedAssignment assignmentWidth
  split
  · have opening : "    out.position = float4(in.".length = 29 := rfl
    have closing : ".xyz, 1.0);\n".length = 12 := rfl
    have pointSize : "    out.pointSize = 8.0;\n".length = 25 := rfl
    unfold VertexAssignment.text
    simp only [String.length_append, length_fieldName]
    omega
  · have opening : "    out.interpolator".length = 20 := rfl
    have middle : " = float4(in.".length = 13 := rfl
    have closing : ");\n".length = 3 := rfl
    unfold VertexAssignment.text
    simp only [String.length_append, length_fieldName, Nat.toString_eq_repr, length_repr]
    omega

theorem length_text (attributes : List TranslatedAttribute)
    (exports : List TranslatedExport) :
    (intendedSource attributes exports).text.length = sourceWidth attributes exports := by
  unfold VertexSource.text intendedSource sourceWidth
  rw [length_vertexShaderFrame, String.length_join, String.length_join]
  simp only [List.map_map, Function.comp_def, length_fieldText, length_assignmentText]

/-- Each field takes more than one byte. -/
theorem length_le_sourceWidth (attributes : List TranslatedAttribute)
    (exports : List TranslatedExport) :
    attributes.length ≤ sourceWidth attributes exports := by
  have wide : attributes.zipIdx.length ≤ (attributes.zipIdx.map fieldWidth).sum := by
    rw [← List.length_map fieldWidth]
    apply List.length_le_sum_of_one_le
    intro width listed
    obtain ⟨entry, -, rfl⟩ := List.mem_map.mp listed
    unfold fieldWidth
    omega
  rw [List.length_zipIdx] at wide
  unfold sourceWidth
  omega

theorem snprintf_of_fits {size : Nat} {text : String} (fits : text.length ≤ size - 1) :
    snprintf size text = text := by
  unfold snprintf
  rw [List.take_of_length_le (by rw [String.length_toList]; exact fits), String.ofList_toList]

theorem length_snprintf_le (size : Nat) (text : String) :
    (snprintf size text).length ≤ size - 1 := by
  unfold snprintf
  rw [String.length_ofList]
  exact List.length_take_le _ _

theorem fieldLine_eq {attr : TranslatedAttribute} {index : Nat} (small : index < 10 ^ 10) :
    fieldLine index attr = (intendedField (attr, index)).text := by
  have same : fieldLine index attr = snprintf 128 (intendedField (attr, index)).text := by
    have joined : " r" = " " ++ "r" := rfl
    unfold fieldLine intendedField VertexInField.text fieldName
    rw [joined]
    cases attr.format <;> simp only [toString, String.append_assoc]
  rw [same]
  apply snprintf_of_fits
  rw [length_fieldText]
  have register := decimalWidth_word attr.destReg
  have indexed := decimalWidth_le (by decide) small
  unfold fieldWidth
  dsimp only
  omega

theorem assignLine_eq (e : TranslatedExport) :
    assignLine e = (intendedAssignment e).text := by
  have same : assignLine e = snprintf 128 (intendedAssignment e).text := by
    have joined : " = float4(in.r" = " = float4(in." ++ "r" := rfl
    have positionJoined :
        "    out.position = float4(in.r" = "    out.position = float4(in." ++ "r" := rfl
    unfold assignLine intendedAssignment
    split
    · unfold VertexAssignment.text fieldName
      rw [positionJoined]
      simp only [toString, String.append_assoc]
    · unfold VertexAssignment.text fieldName
      dsimp only
      rw [joined]
      simp only [toString, String.append_assoc]
  rw [same]
  apply snprintf_of_fits
  rw [length_assignmentText]
  have export' := decimalWidth_word e.exportRegister
  have source := decimalWidth_word e.sourceRegister
  unfold assignmentWidth
  split <;> omega

theorem vertexShaderText_eq {attributes : List TranslatedAttribute}
    (exports : List TranslatedExport) (small : attributes.length ≤ 10 ^ 10) :
    vertexShaderText attributes exports = (intendedSource attributes exports).text := by
  have fields : (attributes.zipIdx.map fun entry => fieldLine entry.2 entry.1) =
      attributes.zipIdx.map (VertexInField.text ∘ intendedField) := by
    apply List.map_congr_left
    intro entry listed
    have index := List.snd_lt_of_mem_zipIdx listed
    exact fieldLine_eq (by omega)
  have assignments : exports.map assignLine =
      exports.map (VertexAssignment.text ∘ intendedAssignment) :=
    List.map_congr_left fun e _ => assignLine_eq e
  rw [vertexShaderText_frame, fields, assignments, VertexSource.text, intendedSource,
    List.map_map, List.map_map]

/-- The source is the intended text exactly when that fits the source buffer. -/
theorem vertexShaderSource_eq_text_iff (attributes : List TranslatedAttribute)
    (exports : List TranslatedExport) :
    vertexShaderSource attributes exports = (intendedSource attributes exports).text ↔
      sourceWidth attributes exports ≤ 2047 := by
  constructor
  · intro whole
    rw [← length_text, ← whole]
    exact length_snprintf_le 2048 _
  · intro fits
    have few := length_le_sourceWidth attributes exports
    have text := vertexShaderText_eq exports (show attributes.length ≤ 10 ^ 10 by omega)
    rw [vertexShaderSource, text]
    apply snprintf_of_fits
    rw [length_text]
    exact fits

theorem fieldName_injective : Function.Injective fieldName := by
  intro register register' same
  have digits := congrArg String.toList same
  simp only [fieldName, String.toList_append, Nat.toString_eq_repr, Nat.toList_repr] at digits
  have numbers := congrArg (fun chars => Nat.ofDigitChars 10 chars 0)
    (List.append_cancel_left digits)
  simp only [Nat.ofDigitChars_ten_toDigits] at numbers
  exact BitVec.eq_of_toNat_eq numbers

theorem fields_names (attributes : List TranslatedAttribute)
    (exports : List TranslatedExport) :
    (intendedSource attributes exports).fields.map VertexInField.name =
      (attributes.map TranslatedAttribute.destReg).map fieldName := by
  have indexed : attributes.zipIdx.map Prod.fst = attributes := List.zipIdx_map_fst 0 attributes
  calc (intendedSource attributes exports).fields.map VertexInField.name
      = (attributes.zipIdx.map Prod.fst).map fun attr => fieldName attr.destReg := by
        simp only [intendedSource, List.map_map]
        rfl
    _ = (attributes.map TranslatedAttribute.destReg).map fieldName := by
        rw [indexed, List.map_map]
        rfl

theorem mem_fields_iff {attributes : List TranslatedAttribute}
    (exports : List TranslatedExport) {format : TranslatedVertexFormat} {name : String} :
    (∃ field ∈ (intendedSource attributes exports).fields,
        field.format = format ∧ field.name = name) ↔
      ∃ attr ∈ attributes, attr.format = format ∧ fieldName attr.destReg = name := by
  constructor
  · rintro ⟨field, listed, rfl, rfl⟩
    obtain ⟨⟨attr, index⟩, entry, rfl⟩ := List.mem_map.mp listed
    exact ⟨attr, List.fst_mem_of_mem_zipIdx entry, rfl, rfl⟩
  · rintro ⟨attr, listed, rfl, rfl⟩
    obtain ⟨index, found⟩ := List.mem_iff_getElem?.mp listed
    refine ⟨intendedField (attr, index), ?_, rfl, rfl⟩
    exact List.mem_map_of_mem (List.mem_zipIdx_iff_getElem?.mpr found)

theorem intendedAssignment_field (e : TranslatedExport) :
    (intendedAssignment e).field = fieldName e.sourceRegister := by
  unfold intendedAssignment
  split <;> rfl

theorem intendedAssignment_widens (e : TranslatedExport) :
    (intendedAssignment e).Widens ↔ e.exportRegister ≠ 62 := by
  unfold intendedAssignment
  split
  · rename_i position
    exact iff_of_false id (not_not.mpr position)
  · rename_i interpolator
    exact iff_of_true trivial interpolator

/-- Every register is fetched once. -/
def FetchesDistinctly (program : List VertexInstruction) : Prop :=
  ((programAttributes program).map TranslatedAttribute.destReg).Nodup

/-- Only `float4` registers are moved to an interpolator. -/
def InterpolatesFloat4 (program : List VertexInstruction) : Prop :=
  ∀ e ∈ programAssignments program, e.exportRegister ≠ 62 →
    ∀ attr ∈ programAttributes program, attr.destReg = e.sourceRegister →
      attr.format = .float4

/-- The lines for the fetches and the moves fit the source buffer. -/
def SourceFits (program : List VertexInstruction) : Prop :=
  sourceWidth (programAttributes program) (programAssignments program) ≤ 2047

theorem intendedSource_wellFormed_iff {program : List VertexInstruction}
    (fetched : ∀ e ∈ programAssignments program,
      ∃ attr ∈ programAttributes program, attr.destReg = e.sourceRegister) :
    (intendedSource (programAttributes program) (programAssignments program)).WellFormed ↔
      FetchesDistinctly program ∧ InterpolatesFloat4 program := by
  have distinct : ((intendedSource (programAttributes program)
      (programAssignments program)).fields.map VertexInField.name).Nodup ↔
        FetchesDistinctly program := by
    rw [fields_names]
    exact List.nodup_map_iff fieldName_injective
  constructor
  · intro wellFormed
    refine ⟨distinct.mp wellFormed.namesDistinct, ?_⟩
    intro e listed interpolator attr recorded same
    obtain ⟨field, declared, format, name⟩ := (mem_fields_iff _).mpr
      ⟨attr, recorded, rfl, rfl⟩
    rw [← format]
    refine wellFormed.widensFloat4 _ (List.mem_map_of_mem listed)
      ((intendedAssignment_widens e).mpr interpolator) field declared ?_
    rw [name, same, intendedAssignment_field]
  · rintro ⟨distinctly, float4⟩
    constructor
    · exact distinct.mpr distinctly
    · intro assignment listed
      obtain ⟨e, move, rfl⟩ := List.mem_map.mp listed
      obtain ⟨attr, recorded, same⟩ := fetched e move
      obtain ⟨field, declared, -, name⟩ := (mem_fields_iff _).mpr
        ⟨attr, recorded, rfl, rfl⟩
      refine ⟨field, declared, ?_⟩
      rw [name, same, intendedAssignment_field]
    · intro assignment listed widens field declared name
      obtain ⟨e, move, rfl⟩ := List.mem_map.mp listed
      obtain ⟨attr, recorded, format, same⟩ := (mem_fields_iff _).mp
        ⟨field, declared, rfl, rfl⟩
      rw [← format]
      apply float4 e move ((intendedAssignment_widens e).mp widens) attr recorded
      apply fieldName_injective
      rw [same, name, intendedAssignment_field]

/-- A successful vertex translation has a complete and well-formed source exactly when
the lines fit, no register is fetched twice and only `float4` registers are moved to
an interpolator. -/
theorem translateShader_sourceIsWellFormed_iff (dwords : List Word) (dwordCount : Word)
    (success : (translateShader dwords dwordCount 0).success = true) :
    SourceIsWellFormed dwords dwordCount ↔
      ∃ program, vertexProgram dwords dwordCount = some program ∧ SourceFits program ∧
        FetchesDistinctly program ∧ InterpolatesFloat4 program := by
  obtain ⟨program, decodes, recognized⟩ := translateShader_recognized success
  unfold SourceIsWellFormed
  dsimp only
  rw [recognized.attributes, recognized.vertexExports, recognized.source,
    vertexShaderSource_eq_text_iff, intendedSource_wellFormed_iff recognized.sourceFetched,
    decodes]
  simp only [Option.some_inj, exists_eq_left']
  rfl

theorem translateShader_sourceIsWellFormed_iff_coloredVertex :
    (translateShader coloredVertexMicrocode 15 0).success = true ∧
      SourceIsWellFormed coloredVertexMicrocode 15 := by
  have success : (translateShader coloredVertexMicrocode 15 0).success = true := by
    decide +kernel
  refine ⟨success, ?_⟩
  apply (translateShader_sourceIsWellFormed_iff coloredVertexMicrocode 15 success).mpr
  refine ⟨coloredVertexProgram, by decide +kernel, ?_, ?_, ?_⟩
  · unfold SourceFits
    decide +kernel
  · unfold FetchesDistinctly
    decide +kernel
  · unfold InterpolatesFloat4
    decide +kernel

/-- Register 1 is fetched twice before it is exported as the position. -/
def refetchedMicrocode : List Word :=
  [0x00053001, 0x2000, 0, 0x1000, 0x260688, 4, 0x1000, 0x260688, 0x404,
    0xF803E, 0, 0xC2010100]

/-- The source declares the field of register 1 twice. -/
theorem refetched_repeatsField :
    (translateShader refetchedMicrocode 12 0).success = true ∧
      ¬ SourceIsWellFormed refetchedMicrocode 12 := by
  constructor
  · decide +kernel
  · rintro ⟨-, wellFormed⟩
    have names := wellFormed.namesDistinct
    rw [fields_names] at names
    have registers := names.of_map _
    revert registers
    decide +kernel

end BumpinHost.Shader
