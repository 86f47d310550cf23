import BumpinHost.Shader.Recognition

/-!
# When a translated vertex shader computes what its microcode computes

Running the microcode on origins instead of values tells where every exported
component comes from.  A generated assignment computes the same value on every
input exactly when it names that origin.
-/

namespace BumpinHost.Shader

section Values

variable {Value Value' : Type*}

def VertexInputs.map (f : Value → Value') (inputs : VertexInputs Value) :
    VertexInputs Value' where
  element := fun element component => f (inputs.element element component)
  zero := f inputs.zero
  one := f inputs.one

def MicroState.map (f : Value → Value') (state : MicroState Value) :
    MicroState Value' where
  temps := fun register component => f (state.temps register component)
  exports := fun register component => (state.exports register component).map f

theorem fetchedComponent_map (f : Value → Value') (inputs : VertexInputs Value)
    (element : VertexElement) (destSwizzle : Word) (current : Fin 4 → Value)
    (component : Fin 4) :
    fetchedComponent (inputs.map f) element destSwizzle (fun c => f (current c)) component =
      f (fetchedComponent inputs element destSwizzle current component) := by
  unfold fetchedComponent
  split <;> rfl

/-- No instruction looks at a value, so a change of values goes through each. -/
theorem executeInstruction_map (f : Value → Value') (inputs : VertexInputs Value)
    (state : MicroState Value) (instruction : VertexInstruction) :
    executeInstruction (inputs.map f) (state.map f) instruction =
      (executeInstruction inputs state instruction).map f := by
  cases instruction with
  | fetch element destReg destSwizzle =>
      simp only [executeInstruction, MicroState.map, MicroState.mk.injEq, and_true]
      ext register component
      by_cases here : register = destReg
      · subst here
        simp only [Function.update_self]
        exact fetchedComponent_map f inputs element destSwizzle _ component
      · simp only [Function.update_of_ne here]
  | move toExport vectorDest vectorWriteMask source =>
      cases toExport with
      | true =>
          simp only [executeInstruction, MicroState.map, MicroState.mk.injEq, true_and]
          funext register component
          by_cases here : register = vectorDest
          · subst here
            simp only [Function.update_self]
            split <;> rfl
          · simp only [Function.update_of_ne here]
      | false =>
          simp only [executeInstruction, MicroState.map, MicroState.mk.injEq, and_true]
          funext register component
          by_cases here : register = vectorDest
          · subst here
            simp only [Function.update_self]
            split <;> rfl
          · simp only [Function.update_of_ne here]

theorem foldl_executeInstruction_map (f : Value → Value') (inputs : VertexInputs Value)
    (program : List VertexInstruction) (state : MicroState Value) :
    program.foldl (executeInstruction (inputs.map f)) (state.map f) =
      (program.foldl (executeInstruction inputs) state).map f := by
  induction program generalizing state with
  | nil => rfl
  | cons instruction program ih =>
      rw [List.foldl_cons, List.foldl_cons, executeInstruction_map, ih]

end Values

/-- Where a component's value comes from. -/
inductive Origin
  | element (element : VertexElement) (component : Fin 4)
  | zero
  | one
  | initial (register : Word) (component : Fin 4)
deriving DecidableEq, Repr

def originInputs : VertexInputs Origin :=
  ⟨.element, .zero, .one⟩

/-- The registers at the end of a program, as origins. -/
def origins (program : List VertexInstruction) : MicroState Origin :=
  runProgram originInputs .initial program

/-- The value an origin stands for. -/
def Origin.value (element : VertexElement → Fin 4 → Word) (temps : Word → Fin 4 → Word) :
    Origin → Word
  | .element source component => element source component
  | .zero => 0
  | .one => 0x3F800000
  | .initial register component => temps register component

/-- The values a program computes are those of its origins. -/
theorem runProgram_exports (element : VertexElement → Fin 4 → Word)
    (temps : Word → Fin 4 → Word) (program : List VertexInstruction)
    (exportRegister : Word) (component : Fin 4) :
    (runProgram (shaderInputs element) temps program).exports exportRegister component =
      ((origins program).exports exportRegister component).map
        (Origin.value element temps) := by
  have mapped := foldl_executeInstruction_map (Origin.value element temps) originInputs
    program (.initial .initial)
  exact congrArg (fun state => state.exports exportRegister component) mapped

/-- Two origins that have one value on all inputs are one origin. -/
theorem Origin.eq_of_value_eq {target origin : Origin}
    (agree : ∀ element temps, target.value element temps = origin.value element temps) :
    target = origin := by
  have indicated := agree
    (fun source component => if target = .element source component then 2 else 0)
    (fun register component => if target = .initial register component then 2 else 0)
  have shifted := agree (fun _ _ => 1) (fun _ _ => 1)
  cases target <;> cases origin <;> simp_all [Origin.value]

/-- The assignment that decides an output: the last one that names it. -/
def lastAssignment (exports : List TranslatedExport) (exportRegister : Word) :
    Option TranslatedExport :=
  (exports.filter fun e => e.exportRegister == exportRegister).getLast?

/-- Where an assignment from an attribute takes a component from.  The fourth
component of a widened `float3` comes from nowhere. -/
def assignedOrigin (exportRegister : Word) (component : Fin 4)
    (attr : TranslatedAttribute) : Option Origin :=
  if exportRegister = 62 ∧ component = 3 then some .one
  else if attr.format = .float3 ∧ component = 3 then none
  else some (.element attr.element component)

/-- What an assignment from an attribute leaves in a component of its output. -/
def assignedComponent (element : VertexElement → Fin 4 → Word) (fill : Word)
    (exportRegister : Word) (component : Fin 4) (attr : TranslatedAttribute) : Word :=
  match assignedOrigin exportRegister component attr with
  | some origin => origin.value element (fun _ _ => fill)
  | none => fill

theorem lastAssignment_concat (exports : List TranslatedExport) (e : TranslatedExport)
    (exportRegister : Word) :
    lastAssignment (exports ++ [e]) exportRegister =
      if e.exportRegister = exportRegister then some e
      else lastAssignment exports exportRegister := by
  unfold lastAssignment
  by_cases same : e.exportRegister = exportRegister
  · simp [List.filter_append, same]
  · simp [List.filter_append, same]

theorem mem_of_lastAssignment {exports : List TranslatedExport} {exportRegister : Word}
    {last : TranslatedExport} (found : lastAssignment exports exportRegister = some last) :
    last ∈ exports ∧ last.exportRegister = exportRegister := by
  have listed := List.mem_of_getLast? found
  simpa using listed

/-- One assignment leaves its components in the output it names, and the other output
as it was. -/
theorem executeAssignment_output {attributes : List TranslatedAttribute}
    (element : VertexElement → Fin 4 → Word) (fill : Word) (stageIn : StageIn attributes)
    (out : RasterizerData Word) {e : TranslatedExport} {exportRegister : Word}
    (output : exportRegister ∈ [(0 : Word), 62])
    (register : e.exportRegister ∈ [(0 : Word), 62]) (component : Fin 4) :
    (executeAssignment (shaderInputs element) fill stageIn out e).output exportRegister
        component =
      if e.exportRegister = exportRegister then
        some (assignedComponent element fill exportRegister component
          (stageIn.named e.sourceRegister))
      else out.output exportRegister component := by
  simp only [List.mem_cons, List.not_mem_nil, or_false] at output register
  unfold executeAssignment RasterizerData.output assignedComponent assignedOrigin
  rcases output with rfl | rfl <;> rcases register with named | named <;>
    simp only [named, BitVec.reduceEq, if_true, if_false, true_and, false_and, widened]
  · split <;> rfl
  · by_cases w : component = 3
    · rw [if_pos w, if_pos w]
      rfl
    · rw [if_neg w, if_neg w, if_neg (fun both => w both.2)]
      rfl

/-- The last assignment to an output decides it.  The induction adds assignments at
the end. -/
theorem runVertexMain_output {attributes : List TranslatedAttribute}
    (element : VertexElement → Fin 4 → Word) (fill : Word) (stageIn : StageIn attributes)
    {exportRegister : Word} (output : exportRegister ∈ [(0 : Word), 62])
    (component : Fin 4) (assignments : List TranslatedExport)
    (registers : ∀ e ∈ assignments, e.exportRegister ∈ [(0 : Word), 62]) :
    (runVertexMain (shaderInputs element) fill stageIn assignments).output exportRegister
        component =
      (lastAssignment assignments exportRegister).map fun last =>
        assignedComponent element fill exportRegister component
          (stageIn.named last.sourceRegister) := by
  induction assignments using List.reverseRecOn with
  | nil =>
      unfold RasterizerData.output
      split <;> rfl
  | append_singleton earlier e ih =>
      have before := ih fun e' listed => registers e' (List.mem_append_left _ listed)
      have register := registers e (List.mem_append_right _ (List.mem_singleton_self e))
      unfold runVertexMain at before ⊢
      rw [List.foldl_concat, executeAssignment_output element fill stageIn _ output register,
        lastAssignment_concat]
      by_cases same : e.exportRegister = exportRegister
      · rw [if_pos same, if_pos same]
        rfl
      · rw [if_neg same, if_neg same, before]

/-- Reading `in.rK` as a given attribute whose register is `K`. -/
def StageIn.preferring {attributes : List TranslatedAttribute}
    (attr : TranslatedAttribute) (fetched : attr ∈ attributes) : StageIn attributes where
  named register :=
    if register = attr.destReg then attr
    else (attributes.find? fun other => other.destReg == register).getD attr
  resolves := by
    intro other listed
    by_cases same : other.destReg = attr.destReg
    · rw [if_pos same]
      exact ⟨fetched, same.symm⟩
    · rw [if_neg same]
      cases found : attributes.find? fun candidate => candidate.destReg == other.destReg with
      | none =>
          have missing := List.find?_eq_none.mp found other listed
          simp at missing
      | some candidate =>
          refine ⟨List.mem_of_find?_eq_some found, ?_⟩
          simpa using List.find?_some found

theorem StageIn.preferring_named {attributes : List TranslatedAttribute}
    {attr : TranslatedAttribute} (fetched : attr ∈ attributes) :
    (StageIn.preferring attr fetched).named attr.destReg = attr :=
  if_pos rfl

/-- The data flow under which one exported component is right: the text fits its
buffer, and whatever attribute is named by the source register of the last instruction
that names the export register, its assignment takes the component from where the
microcode takes it. -/
def OriginAgrees (program : List VertexInstruction) (exportRegister : Word)
    (component : Fin 4) : Prop :=
  ∀ origin ∈ (origins program).exports exportRegister component,
    textComplete (programAttributes program) (programAssignments program) ∧
    ∃ last ∈ lastAssignment (programAssignments program) exportRegister,
      ∀ attr ∈ programAttributes program, attr.destReg = last.sourceRegister →
        assignedOrigin exportRegister component attr = some origin

instance (program : List VertexInstruction) (exportRegister : Word) (component : Fin 4) :
    Decidable (OriginAgrees program exportRegister component) :=
  inferInstanceAs (Decidable (∀ origin ∈ (origins program).exports exportRegister component,
    textComplete (programAttributes program) (programAssignments program) ∧
    ∃ last ∈ lastAssignment (programAssignments program) exportRegister,
      ∀ attr ∈ programAttributes program, attr.destReg = last.sourceRegister →
        assignedOrigin exportRegister component attr = some origin))

/-- Position and interpolator 0 are right in every component. -/
def OriginsAgree (program : List VertexInstruction) : Prop :=
  ∀ exportRegister ∈ [(0 : Word), 62], ∀ component,
    OriginAgrees program exportRegister component

instance (program : List VertexInstruction) : Decidable (OriginsAgree program) :=
  List.decidableBAll (fun exportRegister => ∀ component,
    OriginAgrees program exportRegister component) _

/-- The fixed text around the fields and the assignments. -/
def vertexShaderFrame (attributeFields assignments : String) : String :=
  "struct VertexIn \x7b\n" ++ attributeFields ++ "\x7d;\n" ++
    "struct RasterizerData \x7b\n    float4 position [[position]];\n" ++
    "    float pointSize [[point_size]];\n    float4 interpolator0;\n\x7d;\n" ++
    "vertex RasterizerData vertex_main(VertexIn in [[stage_in]]) \x7b\n" ++
    "    RasterizerData out;\n" ++ assignments ++ "    return out;\n\x7d\n"

theorem vertexShaderText_frame (attributes : List TranslatedAttribute)
    (exports : List TranslatedExport) :
    vertexShaderText attributes exports =
      vertexShaderFrame
        (String.join (attributes.zipIdx.map fun entry => fieldLine entry.2 entry.1))
        (String.join (exports.map assignLine)) :=
  rfl

theorem length_vertexShaderFrame (attributeFields assignments : String) :
    (vertexShaderFrame attributeFields assignments).length =
      attributeFields.length + assignments.length + 248 := by
  have opening : "struct VertexIn \x7b\n".length = 18 := rfl
  have closing : "\x7d;\n".length = 3 := rfl
  have position :
      "struct RasterizerData \x7b\n    float4 position [[position]];\n".length = 58 := rfl
  have outputs :
      "    float pointSize [[point_size]];\n    float4 interpolator0;\n\x7d;\n".length = 65 :=
    rfl
  have entry :
      "vertex RasterizerData vertex_main(VertexIn in [[stage_in]]) \x7b\n".length = 62 := rfl
  have start : "    RasterizerData out;\n".length = 24 := rfl
  have finish : "    return out;\n\x7d\n".length = 18 := rfl
  unfold vertexShaderFrame
  simp only [String.length_append]
  omega

/-- The text around the fields and the assignments has a fixed length. -/
theorem vertexShaderText_length (attributes : List TranslatedAttribute)
    (exports : List TranslatedExport) :
    (vertexShaderText attributes exports).length =
      (String.join (attributes.zipIdx.map fun entry => fieldLine entry.2 entry.1)).length +
        (String.join (exports.map assignLine)).length + 248 := by
  rw [vertexShaderText_frame, length_vertexShaderFrame]

theorem vertexShaderSource_complete (attributes : List TranslatedAttribute)
    (exports : List TranslatedExport) :
    vertexShaderSource attributes exports = vertexShaderText attributes exports ↔
      textComplete attributes exports := by
  unfold vertexShaderSource snprintf textComplete
  generalize vertexShaderText attributes exports = text
  rw [← String.length_toList]
  constructor
  · intro whole
    have lengths := congrArg (fun shown => shown.toList.length) whole
    simp only [String.toList_ofList, List.length_take] at lengths
    omega
  · intro fits
    rw [List.take_of_length_le (by omega), String.ofList_toList]

/-- What an assignment reads does not depend on the registers at the start. -/
theorem assignedOrigin_value {exportRegister : Word} {component : Fin 4}
    {attr : TranslatedAttribute} {target : Origin}
    (assigned : assignedOrigin exportRegister component attr = some target)
    (element : VertexElement → Fin 4 → Word) (temps temps' : Word → Fin 4 → Word) :
    target.value element temps = target.value element temps' := by
  unfold assignedOrigin at assigned
  split at assigned
  · cases assigned
    rfl
  split at assigned
  · cases assigned
  · cases assigned
    rfl

/-- An assignment computes an origin's value on every input exactly when it takes the
component from that origin. -/
theorem assignedOrigin_eq_some_iff {exportRegister : Word} {component : Fin 4}
    {attr : TranslatedAttribute} {origin : Origin} :
    assignedOrigin exportRegister component attr = some origin ↔
      ∀ (element : VertexElement → Fin 4 → Word) (temps : Word → Fin 4 → Word) (fill : Word),
        assignedComponent element fill exportRegister component attr =
          origin.value element temps := by
  unfold assignedComponent
  cases assigned : assignedOrigin exportRegister component attr with
  | none =>
      constructor
      · intro named
        cases named
      · intro agree
        have low := agree (fun _ _ => 0) (fun _ _ => 0) 0
        have high := agree (fun _ _ => 0) (fun _ _ => 0) 1
        have same : (0 : Word) = 1 := low.trans high.symm
        cases same
  | some target =>
      rw [Option.some_inj]
      constructor
      · rintro rfl element temps fill
        exact assignedOrigin_value assigned element _ temps
      · intro agree
        apply Origin.eq_of_value_eq
        intro element temps
        exact (assignedOrigin_value assigned element temps _).trans (agree element temps 0)

/-- A `float3` position and a `float4` colour of one vertex, exported whole. -/
def coloredVertexMicrocode : List Word :=
  [0x00054001, 0x2000, 0, 0x1000, 0x390A88, 7, 0x2000, 0x40260688, 0x300,
    0xF803E, 0, 0xC2010100, 0xF8000, 0, 0xC2020200]

def coloredVertexProgram : List VertexInstruction :=
  [.fetch ⟨0, 0, .float3⟩ 1 0xA88, .fetch ⟨0, 12, .float4⟩ 2 0x688,
    .move true 62 0xF 1, .move true 0 0xF 2]

theorem coloredVertexProgram_originsAgree : OriginsAgree coloredVertexProgram := by
  have complete : textComplete (programAttributes coloredVertexProgram)
      (programAssignments coloredVertexProgram) := by
    unfold textComplete
    rw [vertexShaderText_length]
    decide +kernel
  intro exportRegister output component origin exported
  refine ⟨complete, ?_⟩
  revert component origin
  simp only [List.mem_cons, List.not_mem_nil, or_false] at output
  rcases output with rfl | rfl <;> decide +kernel

/-- Two elements, the second of which replaces one component of interpolator 0. -/
def maskedExportMicrocode : List Word :=
  [0x00054001, 0x2000, 0, 0x1000, 0x260688, 4, 0x102000, 0x260688, 4,
    0xF8000, 0, 0xC2010100, 0x18000, 0, 0xC2020200]

def maskedExportProgram : List VertexInstruction :=
  [.fetch ⟨0, 0, .float4⟩ 1 0x688, .fetch ⟨3, 0, .float4⟩ 2 0x688,
    .move true 0 0xF 1, .move true 0 0x1 2]

end BumpinHost.Shader
