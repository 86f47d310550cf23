import BumpinHost.Library.PackedFields
import BumpinHost.Shader.Disassembly

/-!
# Encoding shader microcode

An assembler's view of the bit layouts that the decoder reads: each instruction form as a
record of fields of their widths, with the bits that no field reads, and the words that hold
them.  Decoding the words gives the record back.
-/

namespace BumpinHost.Shader

open PackedFields

structure AluCode where
  vectorOpcode : BitVec 5
  scalarOpcode : BitVec 6
  vectorDest : BitVec 6
  scalarDest : BitVec 6
  vectorWriteMask : BitVec 4
  scalarWriteMask : BitVec 4
  src1Reg : BitVec 8
  src2Reg : BitVec 8
  src3Reg : BitVec 8
  src1Sel : Bool
  src2Sel : Bool
  src3Sel : Bool
  src1Swizzle : BitVec 8
  src2Swizzle : BitVec 8
  src3Swizzle : BitVec 8
  src1Negate : Bool
  src2Negate : Bool
  src3Negate : Bool
  isPredicated : Bool
  /-- The bits that no field reads, from the lowest. -/
  unread : BitVec 2 × BitVec 2 × BitVec 2 × BitVec 1 × BitVec 3
deriving DecidableEq, Repr

namespace AluCode

def fields (code : AluCode) : AluInstructionFields where
  vectorOpcode := code.vectorOpcode.setWidth 32
  scalarOpcode := code.scalarOpcode.setWidth 32
  vectorDest := code.vectorDest.setWidth 32
  scalarDest := code.scalarDest.setWidth 32
  vectorWriteMask := code.vectorWriteMask.setWidth 32
  scalarWriteMask := code.scalarWriteMask.setWidth 32
  src1Reg := code.src1Reg.setWidth 32
  src2Reg := code.src2Reg.setWidth 32
  src3Reg := code.src3Reg.setWidth 32
  src1Sel := code.src1Sel
  src2Sel := code.src2Sel
  src3Sel := code.src3Sel
  src1Swizzle := code.src1Swizzle.setWidth 32
  src2Swizzle := code.src2Swizzle.setWidth 32
  src3Swizzle := code.src3Swizzle.setWidth 32
  src1Negate := code.src1Negate
  src2Negate := code.src2Negate
  src3Negate := code.src3Negate
  isPredicated := code.isPredicated

def bits0 (code : AluCode) : List Field :=
  [⟨6, code.vectorDest⟩, ⟨2, code.unread.1⟩, ⟨6, code.scalarDest⟩, ⟨2, code.unread.2.1⟩,
    ⟨4, code.vectorWriteMask⟩, ⟨4, code.scalarWriteMask⟩, ⟨2, code.unread.2.2.1⟩,
    ⟨6, code.scalarOpcode⟩]

def bits1 (code : AluCode) : List Field :=
  [⟨8, code.src3Swizzle⟩, ⟨8, code.src2Swizzle⟩, ⟨8, code.src1Swizzle⟩,
    ⟨1, .ofBool code.src3Negate⟩, ⟨1, .ofBool code.src2Negate⟩, ⟨1, .ofBool code.src1Negate⟩,
    ⟨1, code.unread.2.2.2.1⟩, ⟨1, .ofBool code.isPredicated⟩, ⟨3, code.unread.2.2.2.2⟩]

def bits2 (code : AluCode) : List Field :=
  [⟨8, code.src3Reg⟩, ⟨8, code.src2Reg⟩, ⟨8, code.src1Reg⟩, ⟨5, code.vectorOpcode⟩,
    ⟨1, .ofBool code.src3Sel⟩, ⟨1, .ofBool code.src2Sel⟩, ⟨1, .ofBool code.src1Sel⟩]

theorem decode (code : AluCode) :
    decodeAluInstruction (.ofNat 32 (pack code.bits0)) (.ofNat 32 (pack code.bits1))
      (.ofNat 32 (pack code.bits2)) = code.fields := by
  unfold decodeAluInstruction fields
  rw [AluInstructionFields.mk.injEq]
  refine ⟨?_, ?_, ?_, ?_, ?_, ?_, ?_, ?_, ?_, ?_, ?_, ?_, ?_, ?_, ?_, ?_, ?_, ?_, ?_⟩
  · exact @field_of_pack code.bits2 (code.bits2.take 3) (code.bits2.drop 4) _ _ _ code.vectorOpcode
      rfl rfl rfl rfl
  · exact @field_of_pack code.bits0 (code.bits0.take 7) (code.bits0.drop 8) _ _ _ code.scalarOpcode
      rfl rfl rfl rfl
  · exact @lowField_of_pack code.bits0 (code.bits0.drop 1) _ _ code.vectorDest rfl rfl rfl
  · exact @field_of_pack code.bits0 (code.bits0.take 2) (code.bits0.drop 3) _ _ _ code.scalarDest
      rfl rfl rfl rfl
  · exact @field_of_pack code.bits0 (code.bits0.take 4) (code.bits0.drop 5) _ _ _ code.vectorWriteMask
      rfl rfl rfl rfl
  · exact @field_of_pack code.bits0 (code.bits0.take 5) (code.bits0.drop 6) _ _ _ code.scalarWriteMask
      rfl rfl rfl rfl
  · exact @field_of_pack code.bits2 (code.bits2.take 2) (code.bits2.drop 3) _ _ _ code.src1Reg
      rfl rfl rfl rfl
  · exact @field_of_pack code.bits2 (code.bits2.take 1) (code.bits2.drop 2) _ _ _ code.src2Reg
      rfl rfl rfl rfl
  · exact @lowField_of_pack code.bits2 (code.bits2.drop 1) _ _ code.src3Reg rfl rfl rfl
  · exact @flag_of_pack code.bits2 (code.bits2.take 6) (code.bits2.drop 7) _ code.src1Sel rfl rfl rfl
  · exact @flag_of_pack code.bits2 (code.bits2.take 5) (code.bits2.drop 6) _ code.src2Sel rfl rfl rfl
  · exact @flag_of_pack code.bits2 (code.bits2.take 4) (code.bits2.drop 5) _ code.src3Sel rfl rfl rfl
  · exact @field_of_pack code.bits1 (code.bits1.take 2) (code.bits1.drop 3) _ _ _ code.src1Swizzle
      rfl rfl rfl rfl
  · exact @field_of_pack code.bits1 (code.bits1.take 1) (code.bits1.drop 2) _ _ _ code.src2Swizzle
      rfl rfl rfl rfl
  · exact @lowField_of_pack code.bits1 (code.bits1.drop 1) _ _ code.src3Swizzle rfl rfl rfl
  · exact @flag_of_pack code.bits1 (code.bits1.take 5) (code.bits1.drop 6) _ code.src1Negate rfl rfl rfl
  · exact @flag_of_pack code.bits1 (code.bits1.take 4) (code.bits1.drop 5) _ code.src2Negate rfl rfl rfl
  · exact @flag_of_pack code.bits1 (code.bits1.take 3) (code.bits1.drop 4) _ code.src3Negate rfl rfl rfl
  · exact @flag_of_pack code.bits1 (code.bits1.take 7) (code.bits1.drop 8) _ code.isPredicated rfl rfl rfl

end AluCode

structure VertexFetchCode where
  constIndex : BitVec 5
  constIndexSel : BitVec 2
  destReg : BitVec 6
  srcReg : BitVec 6
  format : BitVec 6
  stride : BitVec 8
  /-- In two's complement. -/
  offset : BitVec 23
  isMiniFetch : Bool
  destSwizzle : BitVec 12
  /-- The bits that no field reads, from the lowest. -/
  unread : BitVec 1 × BitVec 2 × BitVec 5 × BitVec 4 × BitVec 8 × BitVec 1 × BitVec 1
deriving DecidableEq, Repr

namespace VertexFetchCode

def fields (code : VertexFetchCode) : VertexFetchInstructionFields where
  fetchConstantIndex := BitVec.ofNat 32 (3 * code.constIndex.toNat + code.constIndexSel.toNat)
  destReg := code.destReg.setWidth 32
  srcReg := code.srcReg.setWidth 32
  format := code.format.setWidth 32
  stride := code.stride.setWidth 32
  offset := code.offset.signExtend 32
  isMiniFetch := code.isMiniFetch
  destSwizzle := code.destSwizzle.setWidth 32

/-- Opcode 0 is the vertex fetch. -/
def bits0 (code : VertexFetchCode) : List Field :=
  [⟨5, 0⟩, ⟨6, code.srcReg⟩, ⟨1, code.unread.1⟩, ⟨6, code.destReg⟩, ⟨2, code.unread.2.1⟩,
    ⟨5, code.constIndex⟩, ⟨2, code.constIndexSel⟩, ⟨5, code.unread.2.2.1⟩]

def bits1 (code : VertexFetchCode) : List Field :=
  [⟨12, code.destSwizzle⟩, ⟨4, code.unread.2.2.2.1⟩, ⟨6, code.format⟩,
    ⟨8, code.unread.2.2.2.2.1⟩, ⟨1, .ofBool code.isMiniFetch⟩, ⟨1, code.unread.2.2.2.2.2.1⟩]

def bits2 (code : VertexFetchCode) : List Field :=
  [⟨8, code.stride⟩, ⟨23, code.offset⟩, ⟨1, code.unread.2.2.2.2.2.2⟩]

end VertexFetchCode

/-- The extension of the offset field keeps its value. -/
theorem extendedOffset (raw : BitVec 23) :
    (if (raw.setWidth 32 &&& 0x400000) != (0 : Word) then raw.setWidth 32 ||| 0xFF800000
      else raw.setWidth 32) = raw.signExtend 32 := by
  have sign : ((raw.setWidth 32 &&& 0x400000) != (0 : Word)) = raw.msb := by
    have bit := BitFields.mask_bit_ne_zero (raw.setWidth 32) 22 (by decide)
    have bound := raw.isLt
    rw [BitVec.toNat_setWidth] at bit
    refine bit.trans ?_
    rw [BitVec.msb_eq_decide, Bool.eq_iff_iff, beq_iff_eq, decide_eq_true_iff]
    change raw.toNat % 2 ^ 32 / 2 ^ 22 % 2 = 1 ↔ 2 ^ 22 ≤ raw.toNat
    omega
  have ones : (0xFF800000 : Word) = BitVec.allOnes 32 <<< 23 := by decide
  rw [sign, ones]
  apply BitVec.eq_of_getLsbD_eq
  intro bit inside
  rw [BitVec.getLsbD_signExtend]
  cases negative : raw.msb with
  | false =>
      rw [if_neg (by decide), BitVec.getLsbD_setWidth]
      split
      case isTrue => rfl
      case isFalse above => rw [BitVec.getLsbD_of_ge raw bit (by omega)]
  | true =>
      rw [if_pos rfl, BitVec.getLsbD_or, BitVec.getLsbD_setWidth, BitVec.getLsbD_shiftLeft,
        BitVec.getLsbD_allOnes]
      split
      case isTrue low => simp [low]
      case isFalse above =>
          have shifted : bit - 23 < 32 := by omega
          simp [above, inside, shifted]

namespace VertexFetchCode

theorem constantIndex (high : BitVec 5) (low : BitVec 2) :
    high.setWidth 32 * 3 + low.setWidth 32 =
      BitVec.ofNat 32 (3 * high.toNat + low.toNat) := by
  have first := high.isLt
  have second := low.isLt
  apply BitVec.eq_of_toNat_eq
  rw [BitVec.toNat_add, BitVec.toNat_mul, BitVec.toNat_setWidth, BitVec.toNat_setWidth,
    BitVec.toNat_ofNat, show (3 : Word).toNat = 3 from rfl]
  omega

theorem decode (code : VertexFetchCode) :
    decodeVertexFetchInstruction (.ofNat 32 (pack code.bits0)) (.ofNat 32 (pack code.bits1))
      (.ofNat 32 (pack code.bits2)) = code.fields := by
  have high : (BitVec.ofNat 32 (pack code.bits0) >>> 20) &&& 0x1F = code.constIndex.setWidth 32 :=
    @field_of_pack code.bits0 (code.bits0.take 5) (code.bits0.drop 6) _ _ _ code.constIndex
      rfl rfl rfl rfl
  have low : (BitVec.ofNat 32 (pack code.bits0) >>> 25) &&& 0x3 =
      code.constIndexSel.setWidth 32 :=
    @field_of_pack code.bits0 (code.bits0.take 6) (code.bits0.drop 7) _ _ _ code.constIndexSel
      rfl rfl rfl rfl
  have offset : (BitVec.ofNat 32 (pack code.bits2) >>> 8) &&& 0x7FFFFF = code.offset.setWidth 32 :=
    @field_of_pack code.bits2 (code.bits2.take 1) (code.bits2.drop 2) _ _ _ code.offset
      rfl rfl rfl rfl
  unfold decodeVertexFetchInstruction fields
  dsimp only
  rw [high, low, offset, extendedOffset, constantIndex, VertexFetchInstructionFields.mk.injEq]
  refine ⟨rfl, ?_, ?_, ?_, ?_, rfl, ?_, ?_⟩
  · exact @field_of_pack code.bits0 (code.bits0.take 3) (code.bits0.drop 4) _ _ _ code.destReg
      rfl rfl rfl rfl
  · exact @field_of_pack code.bits0 (code.bits0.take 1) (code.bits0.drop 2) _ _ _ code.srcReg
      rfl rfl rfl rfl
  · exact @field_of_pack code.bits1 (code.bits1.take 2) (code.bits1.drop 3) _ _ _ code.format
      rfl rfl rfl rfl
  · exact @lowField_of_pack code.bits2 (code.bits2.drop 1) _ _ code.stride rfl rfl rfl
  · exact @flag_of_pack code.bits1 (code.bits1.take 4) (code.bits1.drop 5) _ code.isMiniFetch
      rfl rfl rfl
  · exact @lowField_of_pack code.bits1 (code.bits1.drop 1) _ _ code.destSwizzle rfl rfl rfl

/-- Its opcode field tells it from a texture fetch. -/
theorem opcode (code : VertexFetchCode) : BitVec.ofNat 32 (pack code.bits0) &&& 0x1F = 0 :=
  @lowField_of_pack code.bits0 (code.bits0.drop 1) 5 _ 0 rfl rfl rfl

end VertexFetchCode

/-- A texture fetch, of which only the opcode is decoded. -/
structure TextureFetchCode where
  opcode : BitVec 5
  isTexture : opcode ≠ 0
  rest : BitVec 27 × Word × Word
deriving DecidableEq, Repr

inductive SlotCode
  | alu (code : AluCode)
  | vertexFetch (code : VertexFetchCode)
  | textureFetch (code : TextureFetchCode)
deriving DecidableEq, Repr

namespace SlotCode

def isFetch : SlotCode → Bool
  | .alu _ => false
  | .vertexFetch _ | .textureFetch _ => true

def words : SlotCode → Word × Word × Word
  | .alu code => (.ofNat 32 (pack code.bits0), .ofNat 32 (pack code.bits1),
      .ofNat 32 (pack code.bits2))
  | .vertexFetch code => (.ofNat 32 (pack code.bits0), .ofNat 32 (pack code.bits1),
      .ofNat 32 (pack code.bits2))
  | .textureFetch code => (.ofNat 32 (pack [⟨5, code.opcode⟩, ⟨27, code.rest.1⟩]), code.rest.2)

/-- The line that lists the slot as instruction `j` of a block. -/
def line (j : Nat) : SlotCode → DisassemblyLine
  | .alu code => .alu j code.fields
  | .vertexFetch code => .vertexFetch j code.fields
  | .textureFetch code => .textureFetch j (code.opcode.setWidth 32)

end SlotCode

/-- A slot inside the microcode that holds what the block says is listed as itself. -/
theorem slotLine_words {dwords : List Word} {dwordCount : Word} {cf : ControlFlowInstruction}
    {j : Nat} {slot : SlotCode}
    (inside : ¬dwordCount ≤ (cf.address + BitVec.ofNat 32 j) * 3 + 2)
    (first : dwordAt dwords ((cf.address + BitVec.ofNat 32 j) * 3) = slot.words.1)
    (second : dwordAt dwords ((cf.address + BitVec.ofNat 32 j) * 3 + 1) = slot.words.2.1)
    (third : dwordAt dwords ((cf.address + BitVec.ofNat 32 j) * 3 + 2) = slot.words.2.2)
    (kind : isFetchSlot cf j = slot.isFetch) :
    slotLine dwords dwordCount cf j = slot.line j := by
  unfold slotLine
  dsimp only
  rw [if_neg inside, first, second, third, kind]
  cases slot with
  | alu code =>
      rw [if_neg (by rw [SlotCode.isFetch]; decide)]
      exact congrArg _ code.decode
  | vertexFetch code =>
      have fetch : (SlotCode.vertexFetch code).isFetch = true := rfl
      have vertex : (SlotCode.vertexFetch code).words.1 &&& 0x1F = 0 := code.opcode
      rw [if_pos fetch, if_neg (not_not.2 vertex)]
      exact congrArg _ code.decode
  | textureFetch code =>
      have opcode : BitVec.ofNat 32 (pack [⟨5, code.opcode⟩, ⟨27, code.rest.1⟩]) &&& 0x1F =
          code.opcode.setWidth 32 := lowField_of_pack rfl rfl rfl
      have nonzero : code.opcode.setWidth 32 ≠ (0 : Word) := by
        intro zero
        have value := congrArg BitVec.toNat zero
        rw [BitVec.toNat_setWidth, Nat.mod_eq_of_lt (code.opcode.isLt.trans (by decide))] at value
        exact code.isTexture (BitVec.eq_of_toNat_eq value)
      have fetch : (SlotCode.textureFetch code).isFetch = true := rfl
      have read : (SlotCode.textureFetch code).words.1 &&& 0x1F = code.opcode.setWidth 32 := opcode
      rw [if_pos fetch, read, if_pos nonzero]
      rfl

/-- The four-bit value of an opcode. -/
def ControlFlowOpcode.field : ControlFlowOpcode → BitVec 4
  | .kNop => 0
  | .kExec => 1
  | .kExecEnd => 2
  | .kCondExec => 3
  | .kCondExecEnd => 4
  | .kCondExecPred => 5
  | .kCondExecPredEnd => 6
  | .kLoopStart => 7
  | .kLoopEnd => 8
  | .kCondCall => 9
  | .kReturn => 10
  | .kCondJmp => 11
  | .kAlloc => 12
  | .kCondExecPredClean => 13
  | .kCondExecPredCleanEnd => 14
  | .kMarkVsFetchDone => 15

theorem ControlFlowOpcode.ofField_field (opcode : ControlFlowOpcode) :
    ofField (opcode.field.setWidth 32) = opcode := by
  cases opcode <;> rfl

/-- A control-flow instruction of 48 bits. -/
structure ControlFlowCode where
  opcode : ControlFlowOpcode
  address : BitVec 12
  count : BitVec 3
  sequence : BitVec 12
  /-- The bits that no field reads, from the lowest. -/
  unread : BitVec 1 × BitVec 16
deriving DecidableEq, Repr

namespace ControlFlowCode

def instruction (code : ControlFlowCode) : ControlFlowInstruction where
  opcode := code.opcode
  address := code.address.setWidth 32
  count := code.count.setWidth 32
  sequence := code.sequence.setWidth 32

def bits (code : ControlFlowCode) : List Field :=
  [⟨12, code.address⟩, ⟨3, code.count⟩, ⟨1, code.unread.1⟩, ⟨12, code.sequence⟩,
    ⟨16, code.unread.2⟩, ⟨4, code.opcode.field⟩]

theorem pack_bits_lt (code : ControlFlowCode) : pack code.bits < 2 ^ 48 :=
  pack_lt code.bits

/-- Decoding needs the lower 32 bits and the four highest. -/
theorem decode {code : ControlFlowCode} {word0 word1 : Word}
    (low : word0.toNat = pack code.bits % 2 ^ 32)
    (high : word1.toNat / 2 ^ 12 % 2 ^ 4 = pack code.bits / 2 ^ 44) :
    decodeOneControlFlowInstruction word0 word1 = code.instruction := by
  have bound := code.pack_bits_lt
  have address : pack code.bits / 2 ^ 0 % 2 ^ 12 = code.address.toNat :=
    pack_field (code.bits.take 0) ⟨12, code.address⟩ (code.bits.drop 1)
  have count : pack code.bits / 2 ^ 12 % 2 ^ 3 = code.count.toNat :=
    pack_field (code.bits.take 1) ⟨3, code.count⟩ (code.bits.drop 2)
  have sequence : pack code.bits / 2 ^ 16 % 2 ^ 12 = code.sequence.toNat :=
    pack_field (code.bits.take 3) ⟨12, code.sequence⟩ (code.bits.drop 4)
  have opcode : pack code.bits / 2 ^ 44 % 2 ^ 4 = code.opcode.field.toNat :=
    pack_field (code.bits.take 5) ⟨4, code.opcode.field⟩ (code.bits.drop 6)
  generalize pack code.bits = packed at *
  have addressField := BitFields.toNat_lowField word0 12 (by decide)
  have countField := BitFields.toNat_field word0 12 3 (by decide)
  have sequenceField := BitFields.toNat_field word0 16 12 (by decide)
  have opcodeField := BitFields.toNat_field word1 12 4 (by decide)
  have ofOpcode := code.opcode.ofField_field
  unfold decodeOneControlFlowInstruction instruction
  rw [ControlFlowInstruction.mk.injEq]
  refine ⟨?_, ?_, ?_, ?_⟩
  · refine Eq.trans (congrArg _ (BitVec.eq_of_toNat_eq ?_)) ofOpcode
    rw [BitVec.toNat_setWidth, Nat.mod_eq_of_lt (code.opcode.field.isLt.trans (by decide))]
    refine opcodeField.trans ?_
    omega
  · apply BitVec.eq_of_toNat_eq
    rw [BitVec.toNat_setWidth, Nat.mod_eq_of_lt (code.address.isLt.trans (by decide))]
    refine addressField.trans ?_
    omega
  · apply BitVec.eq_of_toNat_eq
    rw [BitVec.toNat_setWidth, Nat.mod_eq_of_lt (code.count.isLt.trans (by decide))]
    refine countField.trans ?_
    omega
  · apply BitVec.eq_of_toNat_eq
    rw [BitVec.toNat_setWidth, Nat.mod_eq_of_lt (code.sequence.isLt.trans (by decide))]
    refine sequenceField.trans ?_
    omega

/-- Two instructions in three words. -/
def pairWords (a b : ControlFlowCode) : Word × Word × Word :=
  (wordOf (pack (a.bits ++ b.bits)) 0, wordOf (pack (a.bits ++ b.bits)) 1,
    wordOf (pack (a.bits ++ b.bits)) 2)

theorem unpack_pairWords (a b : ControlFlowCode) :
    unpackControlFlowPair (pairWords a b).1 (pairWords a b).2.1 (pairWords a b).2.2 =
      (a.instruction, b.instruction) := by
  have first := a.pack_bits_lt
  have second := b.pack_bits_lt
  have both : pack (a.bits ++ b.bits) = pack a.bits + 2 ^ 48 * pack b.bits :=
    pack_append a.bits b.bits
  have half := BitFields.toNat_lowField (wordOf (pack (a.bits ++ b.bits)) 1) 16 (by decide)
  unfold unpackControlFlowPair pairWords
  dsimp only
  rw [straddle]
  refine Prod.ext (decode ?_ ?_) (decode ?_ ?_)
  · rw [toNat_wordOf, both]
    omega
  · rw [show (0xFFFF : Word) = BitVec.ofNat 32 (2 ^ 16 - 1) from rfl, half, toNat_wordOf, both]
    omega
  · rw [BitVec.toNat_ofNat, both]
    omega
  · rw [BitVec.toNat_ushiftRight, Nat.shiftRight_eq_div_pow, toNat_wordOf, both]
    omega

end ControlFlowCode

end BumpinHost.Shader
