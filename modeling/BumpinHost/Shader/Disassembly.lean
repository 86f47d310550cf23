import BumpinHost.Shader.Semantics

/-!
# Disassembling shader microcode

The disassembler walks the control-flow program as the translator does, and lists
every control-flow instruction and every slot of its block, whatever they hold.
-/

namespace BumpinHost.Shader

/-- What one line of a disassembly prints. -/
inductive DisassemblyLine
  | controlFlow (pair : Word) (which : Nat) (cf : ControlFlowInstruction)
  | outOfRange (j : Nat) (slot dwordCount : Word)
  | textureFetch (j : Nat) (fetchOpcode : Word)
  | vertexFetch (j : Nat) (vf : VertexFetchInstructionFields)
  | alu (j : Nat) (fields : AluInstructionFields)
deriving DecidableEq, Repr

def ControlFlowOpcode.name : ControlFlowOpcode → String
  | .kNop => "kNop"
  | .kExec => "kExec"
  | .kExecEnd => "kExecEnd"
  | .kCondExec => "kCondExec"
  | .kCondExecEnd => "kCondExecEnd"
  | .kCondExecPred => "kCondExecPred"
  | .kCondExecPredEnd => "kCondExecPredEnd"
  | .kLoopStart => "kLoopStart"
  | .kLoopEnd => "kLoopEnd"
  | .kCondCall => "kCondCall"
  | .kReturn => "kReturn"
  | .kCondJmp => "kCondJmp"
  | .kAlloc => "kAlloc"
  | .kCondExecPredClean => "kCondExecPredClean"
  | .kCondExecPredCleanEnd => "kCondExecPredCleanEnd"
  | .kMarkVsFetchDone => "kMarkVsFetchDone"

/-- A number in upper-case hexadecimal, with at least three digits. -/
def threeHexDigits (n : Nat) : String :=
  let digits := (Nat.toDigits 16 n).map Char.toUpper
  String.ofList (List.replicate (3 - digits.length) '0' ++ digits)

def DisassemblyLine.text (shaderTag : String) : DisassemblyLine → String
  | .controlFlow pair which cf =>
      s!"[{shaderTag}] CF pair={pair.toNat}.{which} {cf.opcode.name} " ++
        s!"address={cf.address.toNat} count={cf.count.toNat} sequence=0x" ++
        threeHexDigits cf.sequence.toNat
  | .outOfRange j slot dwordCount =>
      s!"[{shaderTag}]   instr {j}: slot {slot.toNat} out of range " ++
        s!"(dwordCount={dwordCount.toNat}), skipped"
  | .textureFetch j fetchOpcode =>
      s!"[{shaderTag}]   instr {j}: TFETCH opcode={fetchOpcode.toNat} " ++
        "(not decoded -- texture sampling out of scope)"
  | .vertexFetch j vf =>
      s!"[{shaderTag}]   instr {j}: FETCH fetchConstantIndex={vf.fetchConstantIndex.toNat} " ++
        s!"destReg={vf.destReg.toNat} srcReg={vf.srcReg.toNat} format={vf.format.toNat} " ++
        s!"stride={vf.stride.toNat} offset={vf.offset.toInt} " ++
        s!"isMiniFetch={vf.isMiniFetch.toNat}"
  | .alu j fields =>
      s!"[{shaderTag}]   instr {j}: ALU vector_opc={fields.vectorOpcode.toNat} " ++
        s!"scalar_opc={fields.scalarOpcode.toNat} vectorDest={fields.vectorDest.toNat} " ++
        s!"scalarDest={fields.scalarDest.toNat} src1={fields.src1Reg.toNat} " ++
        s!"src2={fields.src2Reg.toNat} src3={fields.src3Reg.toNat}"

/-- The line of instruction `j` of a block. -/
def slotLine (dwords : List Word) (dwordCount : Word) (cf : ControlFlowInstruction)
    (j : Nat) : DisassemblyLine :=
  let slot := cf.address + BitVec.ofNat 32 j
  let slotDwordStart := slot * 3
  if dwordCount ≤ slotDwordStart + 2 then .outOfRange j slot dwordCount
  else
    let iw0 := dwordAt dwords slotDwordStart
    let iw1 := dwordAt dwords (slotDwordStart + 1)
    let iw2 := dwordAt dwords (slotDwordStart + 2)
    if isFetchSlot cf j then
      let fetchOpcode := iw0 &&& 0x1F
      if fetchOpcode ≠ 0 then .textureFetch j fetchOpcode
      else .vertexFetch j (decodeVertexFetchInstruction iw0 iw1 iw2)
    else .alu j (decodeAluInstruction iw0 iw1 iw2)

/-- The line of a control-flow instruction, and those of its block. -/
def controlFlowLines (dwords : List Word) (dwordCount pair : Word) (which : Nat)
    (cf : ControlFlowInstruction) : List DisassemblyLine :=
  .controlFlow pair which cf ::
    if ¬ isExecFamily cf.opcode then []
    else (List.range cf.count.toNat).map (slotLine dwords dwordCount cf)

/-- The lines from pair `i` on.  The number of pairs that fit in the microcode bounds
the rounds. -/
def linesFrom (dwords : List Word) (dwordCount : Word) :
    Nat → Word → Word → List DisassemblyLine
  | 0, _, _ => []
  | rounds + 1, i, cfEndDword =>
      if i * 3 < cfEndDword then
        let (a, b) := unpackControlFlowPair (dwordAt dwords (i * 3))
          (dwordAt dwords (i * 3 + 1)) (dwordAt dwords (i * 3 + 2))
        controlFlowLines dwords dwordCount i 0 a ++ controlFlowLines dwords dwordCount i 1 b ++
          linesFrom dwords dwordCount rounds (i + 1)
            (controlFlowEnd b (controlFlowEnd a cfEndDword))
      else
        []

/-- Every line of a disassembly. -/
def disassembly (dwords : List Word) (dwordCount : Word) : List DisassemblyLine :=
  linesFrom dwords dwordCount (dwordCount.toNat / 3) 0 (dwordCount / 3 * 3)

structure DecodedShaderProgram where
  disassemblyLines : List String
deriving DecidableEq, Repr

def decodeShaderMicrocode (dwords : List Word) (dwordCount : Word) (shaderType : Int) :
    DecodedShaderProgram :=
  let shaderTag := if shaderType = 1 then "PS" else "VS"
  ⟨(disassembly dwords dwordCount).map fun line => snprintf 256 (line.text shaderTag)⟩

/-- A slot, and whether it holds a fetch. -/
abbrev ListedInstruction := Word × Bool

/-- The instructions of a listing.  An instruction is listed by its position in the
block of the control-flow instruction above it. -/
def listedFrom : Word → List DisassemblyLine → List ListedInstruction
  | _, [] => []
  | _, .controlFlow _ _ cf :: rest => listedFrom cf.address rest
  | address, .outOfRange _ _ _ :: rest => listedFrom address rest
  | address, .textureFetch j _ :: rest =>
      (address + BitVec.ofNat 32 j, true) :: listedFrom address rest
  | address, .vertexFetch j _ :: rest =>
      (address + BitVec.ofNat 32 j, true) :: listedFrom address rest
  | address, .alu j _ :: rest =>
      (address + BitVec.ofNat 32 j, false) :: listedFrom address rest

def listedInstructions (lines : List DisassemblyLine) : List ListedInstruction :=
  listedFrom 0 lines

/-- The pairs that a listing shows as control flow. -/
def listedPairs (lines : List DisassemblyLine) : List Word :=
  lines.filterMap fun line =>
    match line with
    | .controlFlow pair 0 _ => some pair
    | _ => none

/-- Control flow that is more than a sequence of blocks. -/
def ControlFlowOpcode.Branches : ControlFlowOpcode → Prop
  | .kCondExec | .kCondExecEnd | .kCondExecPred | .kCondExecPredEnd | .kCondExecPredClean
  | .kCondExecPredCleanEnd | .kLoopStart | .kLoopEnd | .kCondCall | .kReturn
  | .kCondJmp => True
  | _ => False

/-- A slot outside the microcode, a texture fetch, a conditional block, or a loop, call,
return or jump. -/
def DisassemblyLine.Unsupported : DisassemblyLine → Prop
  | .controlFlow _ _ cf => cf.opcode.Branches
  | .outOfRange _ _ _ => True
  | .textureFetch _ _ => True
  | .vertexFetch _ _ => False
  | .alu _ _ => False

end BumpinHost.Shader
