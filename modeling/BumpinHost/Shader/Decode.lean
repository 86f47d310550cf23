import BumpinHost.Library.BitFields

/-!
# Decoding shader microcode

Bit layouts of the two instruction forms and of the packed control-flow pairs.
Every function reads fixed fields of its words; none of them can fail.
-/

namespace BumpinHost.Shader

structure AluInstructionFields where
  vectorOpcode : Word
  scalarOpcode : Word
  vectorDest : Word
  scalarDest : Word
  vectorWriteMask : Word
  scalarWriteMask : Word
  src1Reg : Word
  src2Reg : Word
  src3Reg : Word
  src1Sel : Bool
  src2Sel : Bool
  src3Sel : Bool
  src1Swizzle : Word
  src2Swizzle : Word
  src3Swizzle : Word
  src1Negate : Bool
  src2Negate : Bool
  src3Negate : Bool
  isPredicated : Bool
deriving DecidableEq, Repr

def decodeAluInstruction (word0 word1 word2 : Word) : AluInstructionFields where
  vectorDest := word0 &&& 0x3F
  scalarDest := (word0 >>> 8) &&& 0x3F
  vectorWriteMask := (word0 >>> 16) &&& 0xF
  scalarWriteMask := (word0 >>> 20) &&& 0xF
  scalarOpcode := (word0 >>> 26) &&& 0x3F
  src1Reg := (word2 >>> 16) &&& 0xFF
  src2Reg := (word2 >>> 8) &&& 0xFF
  src3Reg := word2 &&& 0xFF
  vectorOpcode := (word2 >>> 24) &&& 0x1F
  src1Sel := (word2 >>> 31) &&& 0x1 != 0
  src2Sel := (word2 >>> 30) &&& 0x1 != 0
  src3Sel := (word2 >>> 29) &&& 0x1 != 0
  src1Swizzle := (word1 >>> 16) &&& 0xFF
  src2Swizzle := (word1 >>> 8) &&& 0xFF
  src3Swizzle := word1 &&& 0xFF
  src3Negate := (word1 >>> 24) &&& 0x1 != 0
  src2Negate := (word1 >>> 25) &&& 0x1 != 0
  src1Negate := (word1 >>> 26) &&& 0x1 != 0
  isPredicated := (word1 >>> 28) &&& 0x1 != 0

structure VertexFetchInstructionFields where
  fetchConstantIndex : Word
  destReg : Word
  srcReg : Word
  format : Word
  stride : Word
  /-- Sign-extended, in two's complement. -/
  offset : Word
  isMiniFetch : Bool
  destSwizzle : Word
deriving DecidableEq, Repr

def decodeVertexFetchInstruction (word0 word1 word2 : Word) :
    VertexFetchInstructionFields :=
  let constIndex := (word0 >>> 20) &&& 0x1F
  let constIndexSel := (word0 >>> 25) &&& 0x3
  let rawOffset := (word2 >>> 8) &&& 0x7FFFFF
  { fetchConstantIndex := constIndex * 3 + constIndexSel
    srcReg := (word0 >>> 5) &&& 0x3F
    destReg := (word0 >>> 12) &&& 0x3F
    format := (word1 >>> 16) &&& 0x3F
    stride := word2 &&& 0xFF
    offset := if rawOffset &&& 0x400000 != 0 then rawOffset ||| 0xFF800000 else rawOffset
    isMiniFetch := (word1 >>> 30) &&& 0x1 != 0
    destSwizzle := word1 &&& 0xFFF }

/-- Which source component feeds a destination component: relative encoding. -/
def resolveAluSwizzleComponent (rawSwizzle : Word) (destComponent : Nat) : Word :=
  ((rawSwizzle >>> (2 * destComponent)) + BitVec.ofNat 32 destComponent) &&& 0x3

/-- Fetch destination swizzle: 0 to 3 select a source component, 4 is constant
zero, 5 is constant one, 7 keeps the current value. -/
def getFetchSwizzleComponent (rawSwizzle : Word) (component : Nat) : Word :=
  (rawSwizzle >>> (3 * component)) &&& 0x7

inductive ControlFlowOpcode
  | kNop
  | kExec
  | kExecEnd
  | kCondExec
  | kCondExecEnd
  | kCondExecPred
  | kCondExecPredEnd
  | kLoopStart
  | kLoopEnd
  | kCondCall
  | kReturn
  | kCondJmp
  | kAlloc
  | kCondExecPredClean
  | kCondExecPredCleanEnd
  | kMarkVsFetchDone
deriving DecidableEq, Repr

/-- The enumeration value of a four-bit opcode field. -/
def ControlFlowOpcode.ofField (field : Word) : ControlFlowOpcode :=
  match field.toNat with
  | 0 => .kNop
  | 1 => .kExec
  | 2 => .kExecEnd
  | 3 => .kCondExec
  | 4 => .kCondExecEnd
  | 5 => .kCondExecPred
  | 6 => .kCondExecPredEnd
  | 7 => .kLoopStart
  | 8 => .kLoopEnd
  | 9 => .kCondCall
  | 10 => .kReturn
  | 11 => .kCondJmp
  | 12 => .kAlloc
  | 13 => .kCondExecPredClean
  | 14 => .kCondExecPredCleanEnd
  | _ => .kMarkVsFetchDone

/-- Opcodes whose address and count name a block of instruction slots. -/
def isExecFamily : ControlFlowOpcode → Bool
  | .kExec | .kExecEnd | .kCondExec | .kCondExecEnd | .kCondExecPred
  | .kCondExecPredEnd | .kCondExecPredClean | .kCondExecPredCleanEnd => true
  | _ => false

structure ControlFlowInstruction where
  opcode : ControlFlowOpcode
  address : Word
  count : Word
  sequence : Word
deriving DecidableEq, Repr

def decodeOneControlFlowInstruction (word0 word1_16bit : Word) :
    ControlFlowInstruction where
  address := word0 &&& 0xFFF
  count := (word0 >>> 12) &&& 0x7
  sequence := (word0 >>> 16) &&& 0xFFF
  opcode := .ofField ((word1_16bit >>> 12) &&& 0xF)

/-- Two 48-bit control-flow instructions from three dwords. -/
def unpackControlFlowPair (d0 d1 d2 : Word) :
    ControlFlowInstruction × ControlFlowInstruction :=
  let aWord0 := d0
  let aWord1 := d1 &&& 0xFFFF
  let bWord0 := (d1 >>> 16) ||| (d2 <<< 16)
  let bWord1 := d2 >>> 16
  (decodeOneControlFlowInstruction aWord0 aWord1,
    decodeOneControlFlowInstruction bWord0 bWord1)

/-- Bit `2 * j` of the sequence field tells a fetch from an ALU instruction. -/
def isFetchSlot (cf : ControlFlowInstruction) (j : Nat) : Bool :=
  (cf.sequence >>> (2 * j)) &&& 0x1 != 0

/-- The dword a microcode pointer reads at an index. -/
def dwordAt (dwords : List Word) (index : Word) : Word :=
  dwords.getD index.toNat 0

end BumpinHost.Shader
