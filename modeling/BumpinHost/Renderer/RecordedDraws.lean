import BumpinHost.Renderer.VertexMemory

/-!
# What a draw packet records

A `DRAW_INDX_2` packet is recorded when its primitive type is mapped, its source of
indices is known and its buffers have sane sizes.  The recorded command is one of
three: an expanded rectangle list, an indexed draw or a draw of vertices in order.
Sizes and counts are clamped to the copied buffers; the index values of an indexed
draw are copied as the guest wrote them.
-/

namespace BumpinHost.Renderer

open BumpinHost.Gpu BumpinHost.Shader Memory

section Packet

variable {Guest : Type} (m : Machine Guest) (bufferAddr offsetBytes count : Word)

/-- The register bank with the packet's draw initiator in it. -/
def drawState : GpuRegisterState :=
  m.gpuState.writeRegister kDrawInitiatorRegister
    (loadU32 m.mem (bufferAddr + offsetBytes + 4))

def drawInitiator : DrawInitiator := (drawState m bufferAddr offsetBytes).getDrawInitiator

/-- The stride the draw is recorded with. -/
def drawStride : Word := recordStride m.shaderTranslationCache.vertexResult

/-- Whole vertex records in the copied buffer. -/
def vertexCapacity : Word := vertexByteSize m.gpuState / drawStride m

def indexIs32Bit : Bool := (drawInitiator m bufferAddr offsetBytes).indexSize == 1

/-- Bytes of one index. -/
def indexWidth : Nat := (indexWidthBytes (indexIs32Bit m bufferAddr offsetBytes)).toNat

def numWords : Word := loadU32 m.mem (bufferAddr + offsetBytes + 12) &&& 0xFFFFFF

def indexByteAddr : Word := loadU32 m.mem (bufferAddr + offsetBytes + 8) ||| 0xA0000000

/-- The index that guest memory holds at a position of the index buffer. -/
def guestIndex (k : Nat) : Word :=
  if indexIs32Bit m bufferAddr offsetBytes then
    loadU32 m.mem (indexByteAddr m bufferAddr offsetBytes + BitVec.ofNat 32 (4 * k))
  else
    (loadU16 m.mem ((indexByteAddr m bufferAddr offsetBytes).toNat + 2 * k)).setWidth 32

/-- The index buffer of the draw, if it is a kDMA draw that resolves one. -/
def drawIndexBuffer : Option (List Byte × Word) :=
  if (drawInitiator m bufferAddr offsetBytes).sourceSelect == 0 then
    resolveIndexBuffer m.mem bufferAddr offsetBytes count
      (drawInitiator m bufferAddr offsetBytes)
  else
    none

/-- The viewport scale and offset are all disabled. -/
def viewportOff : Bool := m.gpuState.readRegister 0x2206 &&& 0x3F == 0

/-- The indices of a rectangle list. -/
def rectangleIndices : List Word :=
  rectListIndices (drawIndexBuffer m bufferAddr offsetBytes count)
    (indexIs32Bit m bufferAddr offsetBytes) (vertexCapacity m)
    (drawInitiator m bufferAddr offsetBytes).numIndices

/-- The packet passes every check of the draw path. -/
structure DrawAccepted (primType : DrawPrimitiveType) (isRectList : Bool) : Prop where
  primitive : mapPrimitiveType (drawInitiator m bufferAddr offsetBytes).primType =
    some (primType, isRectList)
  source : (drawInitiator m bufferAddr offsetBytes).sourceSelect = 0 ∨
    (drawInitiator m bufferAddr offsetBytes).sourceSelect = 2
  drawn : VertexBufferDrawn m.gpuState
  resolved : (drawInitiator m bufferAddr offsetBytes).sourceSelect = 0 →
    (drawIndexBuffer m bufferAddr offsetBytes count).isSome

/-- The command of a rectangle list with these indices. -/
def rectangleCommand (env : Env Guest) (primType : DrawPrimitiveType) (indices : List Word) :
    DrawCommand :=
  let expanded := expandRectList env (viewportOff m) (vertexBufferCopy m.mem m.gpuState)
    (vertexCapacity m) (drawStride m) indices
  { primitiveType := primType
    vertexData := expanded
    vertexCount := BitVec.ofNat 32 (expanded.length / (drawStride m).toNat)
    indexData := []
    indexCount := 0
    indexIs32Bit := false }

/-- The command of any other draw. -/
def plainCommand (primType : DrawPrimitiveType) : DrawCommand :=
  match drawIndexBuffer m bufferAddr offsetBytes count with
  | some (indexData, indexCount) =>
      { primitiveType := primType
        vertexData := vertexBufferCopy m.mem m.gpuState
        vertexCount := vertexCapacity m
        indexData := indexData
        indexCount := indexCount
        indexIs32Bit := indexIs32Bit m bufferAddr offsetBytes }
  | none =>
      { primitiveType := primType
        vertexData := vertexBufferCopy m.mem m.gpuState
        vertexCount :=
          if vertexCapacity m < (drawInitiator m bufferAddr offsetBytes).numIndices then
            vertexCapacity m
          else (drawInitiator m bufferAddr offsetBytes).numIndices
        indexData := []
        indexCount := 0
        indexIs32Bit := false }

def drawCommand (env : Env Guest) (primType : DrawPrimitiveType) (isRectList : Bool) :
    DrawCommand :=
  if isRectList then
    rectangleCommand m env primType (rectangleIndices m bufferAddr offsetBytes count)
  else
    plainCommand m bufferAddr offsetBytes count primType

end Packet

section Recorded

variable {Guest : Type} {env : Env Guest} {m : Machine Guest}
  {bufferAddr offsetBytes count : Word}

/-- The draw initiator is no fetch constant. -/
theorem drawState_getVertexFetchConstant (slot : Word) :
    (drawState m bufferAddr offsetBytes).getVertexFetchConstant slot =
      m.gpuState.getVertexFetchConstant slot := by
  unfold GpuRegisterState.getVertexFetchConstant drawState
  split
  · rfl
  · rename_i inRange
    have low : kVertexFetchConstantBase + slot * 2 ≠ kDrawInitiatorRegister := by
      simp only [kVertexFetchConstantBase, kVertexFetchConstantSlotCount,
        kDrawInitiatorRegister] at *
      bv_omega
    have high : kVertexFetchConstantBase + slot * 2 + 1 ≠ kDrawInitiatorRegister := by
      simp only [kVertexFetchConstantBase, kVertexFetchConstantSlotCount,
        kDrawInitiatorRegister] at *
      bv_omega
    simp only [GpuRegisterState.readRegister_writeRegister_of_ne _ _ low,
      GpuRegisterState.readRegister_writeRegister_of_ne _ _ high]

theorem drawState_viewportOff :
    ((drawState m bufferAddr offsetBytes).readRegister 0x2206 &&& 0x3F == 0) =
      viewportOff m := by
  rw [drawState, GpuRegisterState.readRegister_writeRegister_of_ne _ _ (by decide)]
  rfl

/-- What a packet records, if it records a draw. -/
theorem recordedDraw_eq_some_iff {cmd : DrawCommand} :
    recordedDraw env m bufferAddr offsetBytes count = some cmd ↔
      ∃ primType isRectList, DrawAccepted m bufferAddr offsetBytes count primType isRectList ∧
        cmd = drawCommand m bufferAddr offsetBytes count env primType isRectList := by
  have fetch : (drawState m bufferAddr offsetBytes).getVertexFetchConstant 0 = _ :=
    drawState_getVertexFetchConstant 0
  have viewport : ((drawState m bufferAddr offsetBytes).readRegister 0x2206 &&& 0x3F == 0) =
      viewportOff m := drawState_viewportOff
  have state : m.gpuState.writeRegister kDrawInitiatorRegister
      (loadU32 m.mem (bufferAddr + offsetBytes + 4)) = drawState m bufferAddr offsetBytes := rfl
  have initiator : (drawState m bufferAddr offsetBytes).getDrawInitiator =
      drawInitiator m bufferAddr offsetBytes := rfl
  have buffer : (if (drawInitiator m bufferAddr offsetBytes).sourceSelect == 0 then
      resolveIndexBuffer m.mem bufferAddr offsetBytes count
        (drawInitiator m bufferAddr offsetBytes)
      else none) = drawIndexBuffer m bufferAddr offsetBytes count := rfl
  simp only [recordedDraw, buildDrawCommand, state, fetch, viewport, initiator, buffer]
  cases primitive : mapPrimitiveType (drawInitiator m bufferAddr offsetBytes).primType with
  | none =>
      constructor
      · intro built
        cases built
      · rintro ⟨primType, isRectList, accepted, -⟩
        cases primitive.symm.trans accepted.primitive
  | some pair =>
      obtain ⟨primType, isRectList⟩ := pair
      simp only [Option.ite_none_left_eq_some]
      constructor
      · rintro ⟨-, defined, drawn, resolved, built⟩
        refine ⟨primType, isRectList, ⟨primitive, by tauto, drawn, ?_⟩, ?_⟩
        · intro isDma
          rw [isDma] at resolved
          simpa [Option.isSome_iff_ne_none] using resolved
        · cases isRectList with
          | true => exact (Option.some.inj built).symm
          | false =>
              rw [if_neg Bool.false_ne_true] at built
              rw [drawCommand, if_neg Bool.false_ne_true, plainCommand]
              cases indices : drawIndexBuffer m bufferAddr offsetBytes count with
              | none =>
                  rw [indices] at built
                  exact (Option.some.inj built).symm
              | some resolved =>
                  rw [indices] at built
                  exact (Option.some.inj built).symm
      · rintro ⟨mapped, rectangles, accepted, rfl⟩
        cases primitive.symm.trans accepted.primitive
        refine ⟨?_, ?_, accepted.drawn, ?_, ?_⟩
        · rcases accepted.source with isDma | isAuto
          · rw [isDma]
            decide
          · rw [isAuto]
            decide
        · have source := accepted.source
          tauto
        · intro unresolved
          simp only [Bool.and_eq_true, beq_iff_eq] at unresolved
          have isSome := accepted.resolved unresolved.1
          rw [Option.isNone_iff_eq_none.mp unresolved.2] at isSome
          cases isSome
        · cases isRectList with
          | true => rfl
          | false =>
              rw [if_neg Bool.false_ne_true, drawCommand, if_neg Bool.false_ne_true,
                plainCommand]
              cases drawIndexBuffer m bufferAddr offsetBytes count with
              | none => rfl
              | some resolved => rfl

/-- Pieces of one size are found again at their multiples. -/
theorem take_drop_flatMap {f : Nat → List Byte} {width : Nat}
    (each : ∀ k, (f k).length = width) {k count : Nat} (inside : k < count) :
    (((List.range count).flatMap f).drop (k * width)).take width = f k := by
  obtain ⟨rest, rfl⟩ := Nat.exists_eq_add_of_lt inside
  have before : ((List.range k).flatMap f).length = k * width := by
    simp [List.length_flatMap, each]
  have piece : ((List.range 1).map (k + ·)).flatMap f = f k := by simp [List.range_one]
  rw [Nat.add_assoc, List.range_add, List.flatMap_append, List.drop_left' before,
    Nat.add_comm rest 1, List.range_add, List.map_append, List.flatMap_append, piece]
  exact List.take_left' (each k)

theorem littleEndianValue_littleEndianBytes (value : Word) :
    littleEndianValue (littleEndianBytes value) = value := by
  simp only [littleEndianValue, littleEndianBytes, List.foldr]
  ext i inWord
  simp only [BitVec.getElem_or, BitVec.getElem_shiftLeft, BitVec.getElem_setWidth,
    BitVec.getLsbD_extractLsb']
  grind

theorem littleEndianValue_halfword (value : BitVec 16) :
    littleEndianValue [value.extractLsb' 0 8, value.extractLsb' 8 8] = value.setWidth 32 := by
  simp only [littleEndianValue, List.foldr]
  ext i inWord
  simp only [BitVec.getElem_or, BitVec.getElem_shiftLeft, BitVec.getElem_setWidth,
    BitVec.getLsbD_extractLsb']
  grind

/-- The bytes of one copied index. -/
def indexBytes (m : Machine Guest) (bufferAddr offsetBytes : Word) (k : Nat) : List Byte :=
  if indexIs32Bit m bufferAddr offsetBytes then
    littleEndianBytes (guestIndex m bufferAddr offsetBytes k)
  else
    let value := loadU16 m.mem ((indexByteAddr m bufferAddr offsetBytes).toNat + 2 * k)
    [value.extractLsb' 0 8, value.extractLsb' 8 8]

theorem indexBytes_length (k : Nat) :
    (indexBytes m bufferAddr offsetBytes k).length = indexWidth m bufferAddr offsetBytes := by
  unfold indexBytes indexWidth indexWidthBytes
  split_ifs
  · rfl
  · rfl

theorem littleEndianValue_indexBytes (k : Nat) :
    littleEndianValue (indexBytes m bufferAddr offsetBytes k) =
      guestIndex m bufferAddr offsetBytes k := by
  unfold indexBytes
  split_ifs with wide
  · exact littleEndianValue_littleEndianBytes _
  · rw [littleEndianValue_halfword, guestIndex, if_neg wide]

theorem numWords_lt : (numWords m bufferAddr offsetBytes).toNat < 2 ^ 24 := by
  have mask : (0xFFFFFF : Word).toNat = 2 ^ 24 - 1 := rfl
  rw [numWords, BitVec.toNat_and, mask, Nat.and_two_pow_sub_one_eq_mod]
  exact Nat.mod_lt _ (by decide)

/-- The index buffer of a kDMA draw, as far as the packet says. -/
structure IndexBufferAccepted (m : Machine Guest) (bufferAddr offsetBytes count : Word) :
    Prop where
  hasDmaDwords : 3 ≤ count
  nonempty : numWords m bufferAddr offsetBytes ≠ 0
  small : (numWords m bufferAddr offsetBytes).toNat * indexWidth m bufferAddr offsetBytes ≤
    kMaxVertexBufferBytes.toNat

/-- What an accepted index buffer is copied to. -/
def copiedIndices (m : Machine Guest) (bufferAddr offsetBytes : Word) : List Byte :=
  (List.range (numWords m bufferAddr offsetBytes).toNat).flatMap
    (indexBytes m bufferAddr offsetBytes)

def copiedIndexCount (m : Machine Guest) (bufferAddr offsetBytes : Word) : Word :=
  if numWords m bufferAddr offsetBytes < (drawInitiator m bufferAddr offsetBytes).numIndices
  then numWords m bufferAddr offsetBytes
  else (drawInitiator m bufferAddr offsetBytes).numIndices

theorem indexWidth_eq : indexWidth m bufferAddr offsetBytes =
    if indexIs32Bit m bufferAddr offsetBytes then 4 else 2 := by
  unfold indexWidth indexWidthBytes
  split_ifs
  · rfl
  · rfl

theorem indexWidth_pos : 0 < indexWidth m bufferAddr offsetBytes := by
  rw [indexWidth_eq]
  split_ifs <;> decide

theorem toNat_indexByteSize :
    (numWords m bufferAddr offsetBytes *
        indexWidthBytes (indexIs32Bit m bufferAddr offsetBytes)).toNat =
      (numWords m bufferAddr offsetBytes).toNat * indexWidth m bufferAddr offsetBytes := by
  have words : (numWords m bufferAddr offsetBytes).toNat < 2 ^ 24 := numWords_lt
  have width : indexWidth m bufferAddr offsetBytes ≤ 4 := by
    rw [indexWidth_eq]
    split_ifs
    · exact le_refl 4
    · decide
  rw [BitVec.toNat_mul, ← indexWidth]
  refine Nat.mod_eq_of_lt ?_
  calc (numWords m bufferAddr offsetBytes).toNat * indexWidth m bufferAddr offsetBytes
      ≤ (numWords m bufferAddr offsetBytes).toNat * 4 := Nat.mul_le_mul_left _ width
    _ < 2 ^ 32 := by omega

/-- The indices that fit in the copied bytes are the packet's `NUM_WORDS`. -/
theorem indexByteSize_div :
    numWords m bufferAddr offsetBytes *
        indexWidthBytes (indexIs32Bit m bufferAddr offsetBytes) /
        indexWidthBytes (indexIs32Bit m bufferAddr offsetBytes) =
      numWords m bufferAddr offsetBytes := by
  apply BitVec.eq_of_toNat_eq
  rw [BitVec.toNat_udiv, toNat_indexByteSize, ← indexWidth]
  exact Nat.mul_div_cancel _ indexWidth_pos

theorem copyIndices_eq :
    (if indexIs32Bit m bufferAddr offsetBytes then
        copyDwords m.mem (indexByteAddr m bufferAddr offsetBytes)
          ((numWords m bufferAddr offsetBytes *
            indexWidthBytes (indexIs32Bit m bufferAddr offsetBytes)).toNat / 4)
      else
        copyHalfwords m.mem (indexByteAddr m bufferAddr offsetBytes)
          ((numWords m bufferAddr offsetBytes *
            indexWidthBytes (indexIs32Bit m bufferAddr offsetBytes)).toNat / 2)) =
      copiedIndices m bufferAddr offsetBytes := by
  rw [toNat_indexByteSize, indexWidth_eq, copiedIndices]
  by_cases wide : indexIs32Bit m bufferAddr offsetBytes = true
  · have each : indexBytes m bufferAddr offsetBytes = fun k => littleEndianBytes
        (loadU32 m.mem (indexByteAddr m bufferAddr offsetBytes + BitVec.ofNat 32 (4 * k))) := by
      ext1 k
      rw [indexBytes, if_pos wide, guestIndex, if_pos wide]
    rw [if_pos wide, if_pos wide, Nat.mul_div_cancel _ (by decide), each]
    rfl
  · have each : indexBytes m bufferAddr offsetBytes = fun k =>
        let v := loadU16 m.mem ((indexByteAddr m bufferAddr offsetBytes).toNat + 2 * k)
        [v.extractLsb' 0 8, v.extractLsb' 8 8] := by
      ext1 k
      rw [indexBytes, if_neg wide]
    rw [if_neg wide, if_neg wide, Nat.mul_div_cancel _ (by decide), each]
    rfl

/-- The size check of the source, in naturals. -/
theorem indexByteSize_sane_iff :
    ¬ (numWords m bufferAddr offsetBytes *
          indexWidthBytes (indexIs32Bit m bufferAddr offsetBytes) = 0 ∨
        kMaxVertexBufferBytes < numWords m bufferAddr offsetBytes *
          indexWidthBytes (indexIs32Bit m bufferAddr offsetBytes)) ↔
      numWords m bufferAddr offsetBytes ≠ 0 ∧
        (numWords m bufferAddr offsetBytes).toNat * indexWidth m bufferAddr offsetBytes ≤
          kMaxVertexBufferBytes.toNat := by
  have size : (numWords m bufferAddr offsetBytes *
        indexWidthBytes (indexIs32Bit m bufferAddr offsetBytes)).toNat =
      (numWords m bufferAddr offsetBytes).toNat * indexWidth m bufferAddr offsetBytes :=
    toNat_indexByteSize
  have empty : numWords m bufferAddr offsetBytes *
        indexWidthBytes (indexIs32Bit m bufferAddr offsetBytes) = 0 ↔
      numWords m bufferAddr offsetBytes = 0 := by
    rw [← BitVec.toNat_inj, ← BitVec.toNat_inj, size]
    exact mul_eq_zero_iff_right indexWidth_pos.ne'
  rw [not_or, BitVec.not_lt, BitVec.le_def, size, empty]

theorem resolveIndexBuffer_eq_some_iff {indexBuffer : List Byte × Word} :
    resolveIndexBuffer m.mem bufferAddr offsetBytes count
        (drawInitiator m bufferAddr offsetBytes) = some indexBuffer ↔
      IndexBufferAccepted m bufferAddr offsetBytes count ∧
        indexBuffer = (copiedIndices m bufferAddr offsetBytes,
          copiedIndexCount m bufferAddr offsetBytes) := by
  have wide : ((drawInitiator m bufferAddr offsetBytes).indexSize == 1) =
      indexIs32Bit m bufferAddr offsetBytes := rfl
  have words : loadU32 m.mem (bufferAddr + offsetBytes + 12) &&& 0xFFFFFF =
      numWords m bufferAddr offsetBytes := rfl
  have address : loadU32 m.mem (bufferAddr + offsetBytes + 8) ||| 0xA0000000 =
      indexByteAddr m bufferAddr offsetBytes := rfl
  simp only [resolveIndexBuffer, wide, words, address, indexByteSize_div, copyIndices_eq,
    Option.ite_none_left_eq_some, Option.some.injEq]
  constructor
  · rintro ⟨hasDmaDwords, sane, rfl⟩
    obtain ⟨nonempty, small⟩ := indexByteSize_sane_iff.mp sane
    exact ⟨⟨BitVec.not_lt.mp hasDmaDwords, nonempty, small⟩, rfl⟩
  · rintro ⟨accepted, rfl⟩
    exact ⟨BitVec.not_lt.mpr accepted.hasDmaDwords,
      indexByteSize_sane_iff.mpr ⟨accepted.nonempty, accepted.small⟩, rfl⟩

/-- The index a renderer reads at a position of the command's index buffer. -/
def indexAt (cmd : DrawCommand) (k : Nat) : Word :=
  let width := (indexWidthBytes cmd.indexIs32Bit).toNat
  littleEndianValue ((cmd.indexData.drop (k * width)).take width)

/-- A draw without indices draws vertices of its vertex data; a draw with indices reads
inside its index data, and only indices of whole vertices. -/
structure InsideOwnBuffers (stride : Word) (cmd : DrawCommand) : Prop where
  vertices : FitsLayout stride cmd
  indices : cmd.indexData ≠ [] →
    cmd.indexCount.toNat * (indexWidthBytes cmd.indexIs32Bit).toNat ≤ cmd.indexData.length
  values : cmd.indexData ≠ [] → ∀ k < cmd.indexCount.toNat,
    (indexAt cmd k).toNat < cmd.vertexData.length / stride.toNat

theorem copiedIndices_length : (copiedIndices m bufferAddr offsetBytes).length =
    (numWords m bufferAddr offsetBytes).toNat * indexWidth m bufferAddr offsetBytes := by
  simp [copiedIndices, List.length_flatMap, indexBytes_length]

theorem toNat_copiedIndexCount : (copiedIndexCount m bufferAddr offsetBytes).toNat =
    min (numWords m bufferAddr offsetBytes).toNat
      (drawInitiator m bufferAddr offsetBytes).numIndices.toNat := by
  unfold copiedIndexCount
  split_ifs with fewer
  · exact (min_eq_left (BitVec.lt_def.mp fewer).le).symm
  · exact (min_eq_right (BitVec.not_lt.mp fewer)).symm

/-- A copied index reads back as the guest's. -/
theorem littleEndianValue_copiedIndices {k : Nat}
    (inside : k < (numWords m bufferAddr offsetBytes).toNat) :
    littleEndianValue (((copiedIndices m bufferAddr offsetBytes).drop
        (k * indexWidth m bufferAddr offsetBytes)).take (indexWidth m bufferAddr offsetBytes)) =
      guestIndex m bufferAddr offsetBytes k := by
  rw [copiedIndices, take_drop_flatMap indexBytes_length inside, littleEndianValue_indexBytes]

theorem vertexBufferCopy_length (mem : Memory) (gpuState : GpuRegisterState) :
    (vertexBufferCopy mem gpuState).length = (vertexByteSize gpuState).toNat := by
  rw [vertexBufferCopy, copyDwords_length, vertexByteSize, vertexByteSize_eq]

theorem vertexCapacity_toNat : (vertexCapacity m).toNat =
    (vertexBufferCopy m.mem m.gpuState).length / (drawStride m).toNat := by
  rw [vertexCapacity, BitVec.toNat_udiv, vertexBufferCopy_length]

/-- The indices that an indexed draw uses all name whole vertices of the buffer. -/
def GuestIndicesInside (m : Machine Guest) (bufferAddr offsetBytes : Word) : Prop :=
  ∀ k, k < (numWords m bufferAddr offsetBytes).toNat →
    k < (drawInitiator m bufferAddr offsetBytes).numIndices.toNat →
      guestIndex m bufferAddr offsetBytes k < vertexCapacity m

/-- The command of an indexed draw. -/
def indexedCommand (m : Machine Guest) (bufferAddr offsetBytes : Word)
    (primType : DrawPrimitiveType) : DrawCommand where
  primitiveType := primType
  vertexData := vertexBufferCopy m.mem m.gpuState
  vertexCount := vertexCapacity m
  indexData := copiedIndices m bufferAddr offsetBytes
  indexCount := copiedIndexCount m bufferAddr offsetBytes
  indexIs32Bit := indexIs32Bit m bufferAddr offsetBytes

theorem drawIndexBuffer_of_dma
    (isDma : (drawInitiator m bufferAddr offsetBytes).sourceSelect = 0) :
    drawIndexBuffer m bufferAddr offsetBytes count =
      resolveIndexBuffer m.mem bufferAddr offsetBytes count
        (drawInitiator m bufferAddr offsetBytes) := by
  rw [drawIndexBuffer, isDma]
  rfl

theorem drawIndexBuffer_of_auto
    (isAuto : (drawInitiator m bufferAddr offsetBytes).sourceSelect = 2) :
    drawIndexBuffer m bufferAddr offsetBytes count = none := by
  rw [drawIndexBuffer, isAuto]
  rfl

/-- A kDMA draw that passes the checks has an index buffer that does. -/
theorem DrawAccepted.indexBuffer {primType : DrawPrimitiveType} {isRectList : Bool}
    (accepted : DrawAccepted m bufferAddr offsetBytes count primType isRectList)
    (isDma : (drawInitiator m bufferAddr offsetBytes).sourceSelect = 0) :
    IndexBufferAccepted m bufferAddr offsetBytes count ∧
      drawIndexBuffer m bufferAddr offsetBytes count =
        some (copiedIndices m bufferAddr offsetBytes,
          copiedIndexCount m bufferAddr offsetBytes) := by
  obtain ⟨resolved, isResolved⟩ := Option.isSome_iff_exists.mp (accepted.resolved isDma)
  have resolves := isResolved
  rw [drawIndexBuffer_of_dma isDma] at resolves
  obtain ⟨sane, rfl⟩ := resolveIndexBuffer_eq_some_iff.mp resolves
  exact ⟨sane, isResolved⟩

theorem InsideOwnBuffers.of_noIndices {stride : Word} {cmd : DrawCommand}
    (vertices : FitsLayout stride cmd) (noIndices : cmd.indexData = []) :
    InsideOwnBuffers stride cmd :=
  ⟨vertices, fun indices => absurd noIndices indices, fun indices => absurd noIndices indices⟩

theorem indexedCommand_inside_iff (primType : DrawPrimitiveType)
    (accepted : IndexBufferAccepted m bufferAddr offsetBytes count) :
    InsideOwnBuffers (drawStride m) (indexedCommand m bufferAddr offsetBytes primType) ↔
      GuestIndicesInside m bufferAddr offsetBytes := by
  have words : 0 < (numWords m bufferAddr offsetBytes).toNat := by
    have nonempty := accepted.nonempty
    bv_omega
  have indices : copiedIndices m bufferAddr offsetBytes ≠ [] := by
    rw [← List.length_pos_iff, copiedIndices_length]
    exact Nat.mul_pos words indexWidth_pos
  have reads (k : Nat) (inside : k < (numWords m bufferAddr offsetBytes).toNat) :
      indexAt (indexedCommand m bufferAddr offsetBytes primType) k =
        guestIndex m bufferAddr offsetBytes k :=
    littleEndianValue_copiedIndices inside
  have count : (indexedCommand m bufferAddr offsetBytes primType).indexCount.toNat = _ :=
    toNat_copiedIndexCount
  have capacity := vertexCapacity_toNat (m := m)
  constructor
  · intro inside k inWords inDraw
    have below := inside.values indices k (by rw [count]; exact lt_min inWords inDraw)
    rw [reads k inWords] at below
    rw [BitVec.lt_def, capacity]
    exact below
  · intro inside
    refine ⟨fun none => absurd none indices, fun _ => ?_, fun _ k small => ?_⟩
    · rw [count]
      refine (Nat.mul_le_mul_right _ (min_le_left _ _)).trans (le_of_eq ?_)
      exact copiedIndices_length.symm
    · rw [count, lt_min_iff] at small
      have below := inside k small.1 small.2
      rw [BitVec.lt_def, capacity] at below
      rw [reads k small.1]
      exact below

/-- Rectangle lists are the one primitive type that is expanded. -/
theorem mapPrimitiveType_isRectList {primType : Word} {mapped : DrawPrimitiveType}
    {isRectList : Bool} (primitive : mapPrimitiveType primType = some (mapped, isRectList)) :
    isRectList = true ↔ primType = 8 := by
  rw [← BitVec.toNat_inj]
  unfold mapPrimitiveType at primitive
  split at primitive <;> simp_all

/-- A recorded draw stays inside its own buffers exactly when it is a rectangle list or
not indexed, or every guest index it uses is below the vertex capacity. -/
theorem recordedDraw_insideOwnBuffers_iff {cmd : DrawCommand}
    (recorded : recordedDraw env m bufferAddr offsetBytes count = some cmd) :
    InsideOwnBuffers (drawStride m) cmd ↔
      (drawInitiator m bufferAddr offsetBytes).primType = 8 ∨
        (drawInitiator m bufferAddr offsetBytes).sourceSelect ≠ 0 ∨
          GuestIndicesInside m bufferAddr offsetBytes := by
  have vertices : FitsLayout (drawStride m) cmd := fun _ => buildDrawCommand_sized recorded
  obtain ⟨primType, isRectList, accepted, rfl⟩ := recordedDraw_eq_some_iff.mp recorded
  have rectangles := mapPrimitiveType_isRectList accepted.primitive
  cases isRectList with
  | true =>
      have inside := InsideOwnBuffers.of_noIndices vertices rfl
      exact iff_of_true inside (.inl (rectangles.mp rfl))
  | false =>
      have other : (drawInitiator m bufferAddr offsetBytes).primType ≠ 8 := fun isRectangle =>
        Bool.false_ne_true (rectangles.mpr isRectangle)
      rw [drawCommand, if_neg Bool.false_ne_true] at vertices ⊢
      rcases accepted.source with isDma | isAuto
      · obtain ⟨sane, indices⟩ := accepted.indexBuffer isDma
        have command : plainCommand m bufferAddr offsetBytes count primType =
            indexedCommand m bufferAddr offsetBytes primType := by
          rw [plainCommand, indices]
          rfl
        rw [command, indexedCommand_inside_iff primType sane, isDma]
        simp only [other, ne_eq, not_true_eq_false, false_or]
      · have noIndices : (plainCommand m bufferAddr offsetBytes count primType).indexData =
            [] := by
          rw [plainCommand, drawIndexBuffer_of_auto isAuto]
        have inside := InsideOwnBuffers.of_noIndices vertices noIndices
        refine iff_of_true inside (.inr (.inl ?_))
        rw [isAuto]
        decide

end Recorded

/-- A vertex buffer of three records, and an indexed triangle whose first index is
`0xFFFF`. -/
def strayIndexMachine : Machine Unit :=
  { Machine.initial
      (storeU32 (storeU32 (storeU32 (storeU32 (fun _ => 0) 4 0x00030004) 8 0x100) 12 3)
        0xA0000100 0xFFFF0001) () with
    gpuState := GpuRegisterState.initial.writeRegister 0x4801 0x24 }

theorem strayIndexMachine_accepted :
    DrawAccepted strayIndexMachine 0 0 3 .triangle false := by
  refine ⟨by decide +kernel, .inl (by decide +kernel), ?_, fun _ => by decide +kernel⟩
  unfold VertexBufferDrawn
  decide +kernel

theorem strayIndexMachine_recorded : recordedDraw .idle strayIndexMachine 0 0 3 =
    some (drawCommand strayIndexMachine 0 0 3 .idle .triangle false) :=
  recordedDraw_eq_some_iff.mpr ⟨.triangle, false, strayIndexMachine_accepted, rfl⟩

/-- The copied index names vertex 65535 of a buffer of three. -/
theorem strayIndex_leavesBuffers :
    ∃ cmd, recordedDraw .idle strayIndexMachine 0 0 3 = some cmd ∧
      ¬ InsideOwnBuffers (drawStride strayIndexMachine) cmd := by
  refine ⟨_, strayIndexMachine_recorded, fun inside => ?_⟩
  have outside : ¬ (indexAt (drawCommand strayIndexMachine 0 0 3 .idle .triangle false) 0).toNat <
      (drawCommand strayIndexMachine 0 0 3 .idle .triangle false).vertexData.length /
        (drawStride strayIndexMachine).toNat := by
    decide +kernel
  exact outside (inside.values (by decide +kernel) 0 (by decide +kernel))

theorem recordedDraw_insideOwnBuffers_stray :
    InsideOwnBuffers (drawStride strayIndexMachine)
        (drawCommand strayIndexMachine 0 0 3 .idle .triangle false) ↔
      (drawInitiator strayIndexMachine 0 0).primType = 8 ∨
        (drawInitiator strayIndexMachine 0 0).sourceSelect ≠ 0 ∨
          GuestIndicesInside strayIndexMachine 0 0 :=
  recordedDraw_insideOwnBuffers_iff strayIndexMachine_recorded

end BumpinHost.Renderer
