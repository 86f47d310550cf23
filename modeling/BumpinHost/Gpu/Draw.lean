import BumpinHost.Gpu.Machine

/-!
# Recording a draw

The handler of `DRAW_INDX_2`: it mirrors the draw initiator into the register
bank, resolves the vertex buffer and, for an indexed draw, the index buffer, and
records a draw command.  Rectangle lists are expanded to triangles here.
-/

namespace BumpinHost.Gpu

open BumpinHost.Shader Memory

def kMaxVertexBufferBytes : Word := 16 * 1024 * 1024

/-- The mapped primitive type, and whether it is a rectangle list. -/
def mapPrimitiveType (primType : Word) : Option (DrawPrimitiveType × Bool) :=
  match primType.toNat with
  | 1 => some (.point, false)
  | 2 => some (.line, false)
  | 3 => some (.lineStrip, false)
  | 4 => some (.triangle, false)
  | 6 => some (.triangleStrip, false)
  | 8 => some (.triangle, true)
  | _ => none

/-- Guest dwords copied out in the host's byte order. -/
def copyDwords (mem : Memory) (addr : Word) (dwordCount : Nat) : List Byte :=
  (List.range dwordCount).flatMap fun k =>
    littleEndianBytes (loadU32 mem (addr + BitVec.ofNat 32 (4 * k)))

/-- Guest 16-bit values copied out in the host's byte order. -/
def copyHalfwords (mem : Memory) (addr : Word) (count : Nat) : List Byte :=
  (List.range count).flatMap fun k =>
    let v := loadU16 mem (addr.toNat + 2 * k)
    [v.extractLsb' 0 8, v.extractLsb' 8 8]

def indexWidthBytes (indexIs32Bit : Bool) : Word :=
  if indexIs32Bit then 4 else 2

/-- The index buffer of a kDMA draw: its bytes and the clamped index count. -/
def resolveIndexBuffer (mem : Memory) (bufferAddr offsetBytes count : Word)
    (di : DrawInitiator) : Option (List Byte × Word) :=
  if count < 3 then
    none
  else
    let dmaBase := loadU32 mem (bufferAddr + offsetBytes + 8)
    let dmaSizeValue := loadU32 mem (bufferAddr + offsetBytes + 12)
    let numWords := dmaSizeValue &&& 0xFFFFFF
    let indexIs32Bit := di.indexSize == 1
    let width := indexWidthBytes indexIs32Bit
    let indexByteAddr := dmaBase ||| 0xA0000000
    let indexByteSize := numWords * width
    if indexByteSize = 0 ∨ kMaxVertexBufferBytes < indexByteSize then
      none
    else
      let resolvedIndexData :=
        if indexIs32Bit then copyDwords mem indexByteAddr (indexByteSize.toNat / 4)
        else copyHalfwords mem indexByteAddr (indexByteSize.toNat / 2)
      let resolvedIndexCount :=
        if indexByteSize / width < di.numIndices then indexByteSize / width
        else di.numIndices
      some (resolvedIndexData, resolvedIndexCount)

/-- A little-endian value read back from copied bytes. -/
def littleEndianValue (bytes : List Byte) : Word :=
  bytes.foldr (fun byte rest => (rest <<< 8) ||| byte.setWidth 32) 0

/-- The stride draws are recorded with. -/
def recordStride (currentVs : TranslationResult) : Word :=
  if currentVs.success ∧ currentVs.vertexStrideBytes ≠ 0 then
    currentVs.vertexStrideBytes
  else
    12

/-- Source indices of a rectangle list, before truncation to whole triples. -/
def rectListIndices (indexBuffer : Option (List Byte × Word)) (indexIs32Bit : Bool)
    (bufferVertexCapacity numIndices : Word) : List Word :=
  match indexBuffer with
  | some (resolvedIndexData, resolvedIndexCount) =>
      let width := (indexWidthBytes indexIs32Bit).toNat
      let n := min (resolvedIndexData.length / width) resolvedIndexCount.toNat
      (List.range n).map fun k =>
        littleEndianValue ((resolvedIndexData.drop (k * width)).take width)
  | none =>
      let n := if bufferVertexCapacity < numIndices then bufferVertexCapacity else numIndices
      (List.range n.toNat).map (BitVec.ofNat 32)

/-- One vertex record, when the index is below the capacity. -/
def gatherRecord (vertexData : List Byte) (bufferVertexCapacity realStride idx : Word) :
    Option (List Byte) :=
  if bufferVertexCapacity ≤ idx then
    none
  else
    some ((vertexData.drop (idx.toNat * realStride.toNat)).take realStride.toNat)

section RectangleLists

variable {Guest : Type} (env : Env Guest)

/-- The three position words at the front of a record. -/
def readPos (rec : List Byte) : List Word :=
  let bytes := if 12 ≤ rec.length then rec.take 12 else env.overrunRead rec
  [littleEndianValue (bytes.take 4), littleEndianValue ((bytes.drop 4).take 4),
    littleEndianValue ((bytes.drop 8).take 4)]

def writePos (rec : List Byte) (pos : List Word) : List Byte :=
  let bytes := pos.flatMap littleEndianBytes
  if 12 ≤ rec.length then bytes ++ rec.drop 12 else env.overrunWrite rec bytes

/-- Window pixel coordinates mapped to normalized device coordinates. -/
def toNdc (v : List Word) : List Word :=
  let f := env.float
  match v with
  | [x, y, z] =>
      [f.sub (f.div (f.mul (f.add x f.half) (f.ofNat 2)) (f.ofNat 1280)) (f.ofNat 1),
        f.sub (f.ofNat 1) (f.div (f.mul (f.add y f.half) (f.ofNat 2)) (f.ofNat 720)), z]
  | other => other

/-- The two triangles of one rectangle, as six records. -/
def expandRectangle (viewportOff : Bool) (aRec bRec cRec : List Byte) : List Byte :=
  let f := env.float
  let pa := readPos env aRec
  let pb := readPos env bRec
  let pc := readPos env cRec
  let pd := (pa.zip (pb.zip pc)).map fun p => f.sub (f.add p.1 p.2.2) p.2.1
  let place := fun pos => if viewportOff then toNdc env pos else pos
  let aRec := writePos env aRec (place pa)
  let bRec := writePos env bRec (place pb)
  let cRec := writePos env cRec (place pc)
  let dRec := writePos env bRec (place pd)
  aRec ++ bRec ++ cRec ++ aRec ++ cRec ++ dRec

/-- Expansion of the whole triples of an index list.  A triple with an index
beyond the buffer is skipped, and a trailing incomplete triple is dropped. -/
def expandRectList (viewportOff : Bool) (vertexData : List Byte)
    (bufferVertexCapacity realStride : Word) : List Word → List Byte
  | a :: b :: c :: rest =>
      let gather := gatherRecord vertexData bufferVertexCapacity realStride
      let expanded := match gather a, gather b, gather c with
        | some aRec, some bRec, some cRec => expandRectangle env viewportOff aRec bRec cRec
        | _, _, _ => []
      expanded ++ expandRectList viewportOff vertexData bufferVertexCapacity realStride rest
  | _ => []

/-- The draw command a `DRAW_INDX_2` packet records, if it records one.  The
register bank already holds the packet's draw initiator. -/
def buildDrawCommand (mem : Memory) (gpuState : GpuRegisterState)
    (currentVs : TranslationResult) (bufferAddr offsetBytes count : Word) :
    Option DrawCommand :=
  let di := gpuState.getDrawInitiator
  match mapPrimitiveType di.primType with
  | none => none
  | some (mappedPrimType, isRectList) =>
      if di.sourceSelect = 1 then
        none
      else if di.sourceSelect ≠ 0 ∧ di.sourceSelect ≠ 2 then
        none
      else
        let vfc := gpuState.getVertexFetchConstant 0
        let vertexByteAddr := (vfc.address <<< 2) ||| 0xA0000000
        let vertexByteSize := vfc.size * 4
        let isIndexed := di.sourceSelect == 0
        let indexIs32Bit := di.indexSize == 1
        let indexBuffer :=
          if isIndexed then resolveIndexBuffer mem bufferAddr offsetBytes count di else none
        if vertexByteSize = 0 ∨ kMaxVertexBufferBytes < vertexByteSize then
          none
        else if isIndexed && indexBuffer.isNone then
          none
        else
          let vertexData := copyDwords mem vertexByteAddr (vertexByteSize.toNat / 4)
          let realStride := recordStride currentVs
          let bufferVertexCapacity := vertexByteSize / realStride
          if isRectList then
            let srcIdx := rectListIndices indexBuffer indexIs32Bit
              bufferVertexCapacity di.numIndices
            let viewportOff := gpuState.readRegister 0x2206 &&& 0x3F == 0
            let expanded := expandRectList env viewportOff vertexData
              bufferVertexCapacity realStride srcIdx
            some
              { primitiveType := mappedPrimType
                vertexData := expanded
                vertexCount := BitVec.ofNat 32 (expanded.length / realStride.toNat)
                indexData := []
                indexCount := 0
                indexIs32Bit := false }
          else
            match indexBuffer with
            | some (resolvedIndexData, resolvedIndexCount) =>
                some
                  { primitiveType := mappedPrimType
                    vertexData := vertexData
                    vertexCount := bufferVertexCapacity
                    indexData := resolvedIndexData
                    indexCount := resolvedIndexCount
                    indexIs32Bit := indexIs32Bit }
            | none =>
                some
                  { primitiveType := mappedPrimType
                    vertexData := vertexData
                    vertexCount :=
                      if bufferVertexCapacity < di.numIndices then bufferVertexCapacity
                      else di.numIndices
                    indexData := []
                    indexCount := 0
                    indexIs32Bit := false }

/-- The `DRAW_INDX_2` case of the scanner. -/
def drawIndx2 (m : Machine Guest) (bufferAddr offsetBytes count : Word) : Machine Guest :=
  let drawInitiatorValue := loadU32 m.mem (bufferAddr + offsetBytes + 4)
  let gpuState := m.gpuState.writeRegister kDrawInitiatorRegister drawInitiatorValue
  let m := { m with gpuState := gpuState }
  match buildDrawCommand env m.mem gpuState m.shaderTranslationCache.vertexResult
      bufferAddr offsetBytes count with
  | none => m
  | some cmd => { m with frameDrawList := m.frameDrawList.addDrawCommand cmd }

end RectangleLists

end BumpinHost.Gpu
