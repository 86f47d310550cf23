import BumpinHost.Shader.Translate

/-!
# What vertex microcode and its translation compute

The microcode side decodes the slots of the EXEC blocks into fetches and moves
and runs them in order on TEMP and export registers.  The Metal side runs the
emitted assignments in order.  Both are stated for an arbitrary type of component
values; the shader's own values are 32-bit patterns.
-/

namespace BumpinHost.Shader

/-- A vertex element, as a fetch names it. -/
structure VertexElement where
  fetchConstantIndex : Word
  byteOffset : Word
  format : TranslatedVertexFormat
deriving DecidableEq, Repr

/-- The instruction forms that have a meaning here. -/
inductive VertexInstruction
  | fetch (element : VertexElement) (destReg destSwizzle : Word)
  | move (exportData : Bool) (vectorDest vectorWriteMask source : Word)
deriving DecidableEq, Repr

structure ExecSlot where
  isFetch : Bool
  iw0 : Word
  iw1 : Word
  iw2 : Word
deriving DecidableEq, Repr

/-- Slot `j` of an EXEC block. -/
def execSlot (dwords : List Word) (cf : ControlFlowInstruction) (j : Nat) : ExecSlot :=
  let slotDwordStart := (cf.address + BitVec.ofNat 32 j) * 3
  { isFetch := isFetchSlot cf j
    iw0 := dwordAt dwords slotDwordStart
    iw1 := dwordAt dwords (slotDwordStart + 1)
    iw2 := dwordAt dwords (slotDwordStart + 2) }

/-- The slots one control-flow instruction runs.  Conditional blocks, loops, calls
and jumps have no meaning here. -/
def controlFlowSlots (dwords : List Word) (cf : ControlFlowInstruction) :
    Option (List ExecSlot) :=
  match cf.opcode with
  | .kExec | .kExecEnd => some ((List.range cf.count.toNat).map (execSlot dwords cf))
  | .kNop | .kAlloc => some []
  | _ => none

/-- The control-flow program ends where the first instruction slot begins. -/
def controlFlowEnd (cf : ControlFlowInstruction) (cfEndDword : Word) : Word :=
  if isExecFamily cf.opcode ∧ cf.address * 3 < cfEndDword then cf.address * 3
  else cfEndDword

/-- The slots of all EXEC blocks, in the order in which they run. -/
def programSlots (dwords : List Word) : Nat → Word → Word → Option (List ExecSlot)
  | 0, _, _ => some []
  | rounds + 1, i, cfEndDword =>
      if i * 3 < cfEndDword then do
        let (a, b) := unpackControlFlowPair (dwordAt dwords (i * 3))
          (dwordAt dwords (i * 3 + 1)) (dwordAt dwords (i * 3 + 2))
        let first ← controlFlowSlots dwords a
        let second ← controlFlowSlots dwords b
        let rest ← programSlots dwords rounds (i + 1)
          (controlFlowEnd b (controlFlowEnd a cfEndDword))
        return first ++ second ++ rest
      else
        some []

/-- The instructions decoded so far, and the fetch constant that a mini-fetch
inherits. -/
structure DecodedProgram where
  lastFullFetch : Option Word
  instructions : List VertexInstruction
deriving DecidableEq, Repr

def DecodedProgram.initial : DecodedProgram :=
  ⟨none, []⟩

/-- The fetch constant a vertex fetch uses: a mini-fetch inherits it. -/
def effectiveFetchConstant (decoded : DecodedProgram)
    (vf : VertexFetchInstructionFields) : Option Word :=
  if vf.isMiniFetch then decoded.lastFullFetch else some vf.fetchConstantIndex

def decodeFetchSlot (decoded : DecodedProgram) (slot : ExecSlot) :
    Option DecodedProgram :=
  let vf := decodeVertexFetchInstruction slot.iw0 slot.iw1 slot.iw2
  if slot.iw0 &&& 0x1F ≠ 0 then none
  else
    match translatedFormat vf.format, effectiveFetchConstant decoded vf with
    | some format, some fetchConstant =>
        let element : VertexElement := ⟨fetchConstant, vf.offset * 4, format⟩
        some ⟨some fetchConstant,
          decoded.instructions ++ [.fetch element vf.destReg vf.destSwizzle]⟩
    | _, _ => none

/-- Bit 15 of an ALU instruction: the destination is an export register. -/
def exportData (iw0 : Word) : Bool :=
  (iw0 >>> 15) &&& 0x1 != 0

def decodeAluSlot (decoded : DecodedProgram) (slot : ExecSlot) :
    Option DecodedProgram :=
  let alu := decodeAluInstruction slot.iw0 slot.iw1 slot.iw2
  if alu.scalarWriteMask ≠ 0 ∧ alu.scalarOpcode ≠ 50 then none
  else if alu.vectorWriteMask = 0 then some decoded
  else if alu.isPredicated || alu.src1Negate || alu.src2Negate then none
  else if isSelfMov alu && aluSwizzleIsIdentity alu then
    some { decoded with
      instructions := decoded.instructions ++
        [.move (exportData slot.iw0) alu.vectorDest alu.vectorWriteMask alu.src1Reg] }
  else none

def decodeSlot (decoded : DecodedProgram) (slot : ExecSlot) : Option DecodedProgram :=
  if slot.isFetch then decodeFetchSlot decoded slot else decodeAluSlot decoded slot

/-- The instructions a microcode array stands for. -/
def vertexProgram (dwords : List Word) (dwordCount : Word) :
    Option (List VertexInstruction) := do
  let slots ← programSlots dwords (dwordCount.toNat / 3) 0 (dwordCount / 3 * 3)
  let decoded ← slots.foldlM decodeSlot .initial
  return decoded.instructions

section Values

variable {Value Value' : Type*}

/-- The values of the inputs: the elements of the current vertex and the two
constants. -/
structure VertexInputs (Value : Type*) where
  element : VertexElement → Fin 4 → Value
  zero : Value
  one : Value

structure MicroState (Value : Type*) where
  temps : Word → Fin 4 → Value
  /-- No value until the component is written. -/
  exports : Word → Fin 4 → Option Value

def MicroState.initial (temps : Word → Fin 4 → Value) : MicroState Value :=
  ⟨temps, fun _ _ => none⟩

/-- There are four components. -/
instance fourComponents : NeZero 4 := ⟨by decide⟩

/-- What a fetch leaves in one component of its destination. -/
def fetchedComponent (inputs : VertexInputs Value) (element : VertexElement)
    (destSwizzle : Word) (current : Fin 4 → Value) (component : Fin 4) : Value :=
  match (getFetchSwizzleComponent destSwizzle component).toNat with
  | 0 => inputs.element element 0
  | 1 => inputs.element element 1
  | 2 => inputs.element element 2
  | 3 => inputs.element element 3
  | 4 => inputs.zero
  | 5 => inputs.one
  | _ => current component

def writesComponent (vectorWriteMask : Word) (component : Fin 4) : Bool :=
  vectorWriteMask.toNat.testBit component

def executeInstruction (inputs : VertexInputs Value) (state : MicroState Value) :
    VertexInstruction → MicroState Value
  | .fetch element destReg destSwizzle =>
      { state with
        temps := Function.update state.temps destReg
          (fetchedComponent inputs element destSwizzle (state.temps destReg)) }
  | .move true vectorDest vectorWriteMask source =>
      { state with
        exports := Function.update state.exports vectorDest fun component =>
          if writesComponent vectorWriteMask component then
            some (state.temps source component)
          else state.exports vectorDest component }
  | .move false vectorDest vectorWriteMask source =>
      { state with
        temps := Function.update state.temps vectorDest fun component =>
          if writesComponent vectorWriteMask component then state.temps source component
          else state.temps vectorDest component }

def runProgram (inputs : VertexInputs Value) (temps : Word → Fin 4 → Value)
    (program : List VertexInstruction) : MicroState Value :=
  program.foldl (executeInstruction inputs) (.initial temps)

def TranslatedAttribute.element (attr : TranslatedAttribute) : VertexElement :=
  ⟨attr.fetchConstantIndex, attr.byteOffset, attr.format⟩

/-- Which attribute `in.rK` is: one whose destination register is `K`.  A register
that several fetches fill names any of their attributes. -/
structure StageIn (attributes : List TranslatedAttribute) where
  named : Word → TranslatedAttribute
  resolves : ∀ attr ∈ attributes, named attr.destReg ∈ attributes ∧
    (named attr.destReg).destReg = attr.destReg

/-- A component of `float4(in.rK)`.  A `float3` has no fourth component, so `fill`
stands for whatever the conversion leaves there. -/
def widened (inputs : VertexInputs Value) (fill : Value) (attr : TranslatedAttribute)
    (component : Fin 4) : Value :=
  if attr.format = .float3 ∧ component = 3 then fill
  else inputs.element attr.element component

/-- The outputs of `vertex_main` that come from the microcode. -/
structure RasterizerData (Value : Type*) where
  position : Fin 4 → Option Value
  interpolator0 : Fin 4 → Option Value

def RasterizerData.unwritten : RasterizerData Value :=
  ⟨fun _ => none, fun _ => none⟩

/-- The output that an export register stands for. -/
def RasterizerData.output (out : RasterizerData Value) (exportRegister : Word) :
    Fin 4 → Option Value :=
  if exportRegister = 62 then out.position else out.interpolator0

/-- One assignment of the generated text. -/
def executeAssignment {attributes : List TranslatedAttribute}
    (inputs : VertexInputs Value) (fill : Value) (stageIn : StageIn attributes)
    (out : RasterizerData Value) (e : TranslatedExport) : RasterizerData Value :=
  let attr := stageIn.named e.sourceRegister
  if e.exportRegister = 62 then
    { out with
      position := fun component =>
        if component = 3 then some inputs.one
        else some (inputs.element attr.element component) }
  else
    { out with
      interpolator0 := fun component => some (widened inputs fill attr component) }

def runVertexMain {attributes : List TranslatedAttribute} (inputs : VertexInputs Value)
    (fill : Value) (stageIn : StageIn attributes) (assignments : List TranslatedExport) :
    RasterizerData Value :=
  assignments.foldl (executeAssignment inputs fill stageIn) .unwritten

end Values

/-- The text fits the source buffer, so the generated source is all of it. -/
def textComplete (attributes : List TranslatedAttribute)
    (exports : List TranslatedExport) : Prop :=
  (vertexShaderText attributes exports).length ≤ 2047

instance (attributes : List TranslatedAttribute) (exports : List TranslatedExport) :
    Decidable (textComplete attributes exports) :=
  inferInstanceAs (Decidable (_ ≤ _))

/-- Inputs of a shader: 32-bit patterns, with the constants as floats. -/
def shaderInputs (element : VertexElement → Fin 4 → Word) : VertexInputs Word where
  element := element
  zero := 0
  one := 0x3F800000

/-- Every component the microcode writes to position or interpolator 0 has the value
that the generated text computes there.  A text cut off by its buffer computes
nothing. -/
def PreservesMeaning (dwords : List Word) (dwordCount : Word) : Prop :=
  let result := translateShader dwords dwordCount 0
  ∃ program, vertexProgram dwords dwordCount = some program ∧
    ∀ (element : VertexElement → Fin 4 → Word) (temps : Word → Fin 4 → Word)
      (fill : Word) (stageIn : StageIn result.attributes),
    ∀ exportRegister ∈ [(0 : Word), 62], ∀ component value,
      (runProgram (shaderInputs element) temps program).exports exportRegister component =
        some value →
      result.vertexShaderSource = vertexShaderText result.attributes result.vertexExports ∧
      ((runVertexMain (shaderInputs element) fill stageIn result.vertexExports).output
        exportRegister) component = some value

end BumpinHost.Shader
