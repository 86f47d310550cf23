import BumpinHost.Gpu.Draw

/-!
# Scanning a command buffer

`packetAt` decides whether the loop acts on the packet at an offset or stops
there; `executePacket` is the loop body; `scanBuffer` is the loop.  Nested
buffers are scanned by the same function one level deeper.  The source loop has
no bound on its rounds, so the scan takes fuel and returns nothing when it runs
out; a scan that returns is independent of the fuel that was left.
-/

namespace BumpinHost.Gpu

open BumpinHost.Shader Memory

def kOpcodeIndirectBuffer : Word := 0x3F
def kMaxIndirectDepth : Int := 3
def kOpcodeInterrupt : Word := 0x54
def kOpcodeEventWriteShd : Word := 0x58
def kOpcodeSetConstant : Word := 0x2D
def kOpcodeDrawIndx : Word := 0x22
def kOpcodeDrawIndx2 : Word := 0x36
def kOpcodeImLoadImmediate : Word := 0x2B

def packetType (header : Word) : Word := (header >>> 30) &&& 0x3

/-- Payload dwords of a TYPE0 or TYPE3 packet. -/
def packetCount (header : Word) : Word := ((header >>> 16) &&& 0x3FFF) + 1

def packetOpcode (header : Word) : Word := (header >>> 8) &&& 0x7F

/-- Bytes the offset advances over a packet. -/
def packetBytes (header : Word) : Word :=
  if packetType header = 0x2 then 4 else 4 + packetCount header * 4

/-- The header of the packet the loop acts on at an offset, if it does not stop
there: fewer than four bytes left, a zero header, a packet running past the end
of the buffer and a TYPE1 header all end the scan. -/
def packetAt (mem : Memory) (bufferAddr offsetBytes sizeBytes : Word) : Option Word :=
  if offsetBytes + 4 ≤ sizeBytes then
    let header := loadU32 mem (bufferAddr + offsetBytes)
    if header = 0 then
      none
    else if packetType header = 0x2 then
      some header
    else if packetType header = 0x0 ∨ packetType header = 0x3 then
      if sizeBytes < offsetBytes + 4 + packetCount header * 4 then none
      else some header
    else
      none
  else
    none

structure ScanOutcome (Guest : Type) where
  machine : Machine Guest
  offset : Word
  trace : ScanTrace

/-- The TYPE0 case: consecutive registers, or one register for all dwords. -/
def executeType0 (mem : Memory) (gpuState : GpuRegisterState)
    (bufferAddr offsetBytes header : Word) : GpuRegisterState :=
  let baseIndex := header &&& 0x7FFF
  let writeOneReg := header &&& 0x8000 != 0
  (List.range (packetCount header).toNat).foldl (fun state k =>
    let i := BitVec.ofNat 32 k
    let value := loadU32 mem (bufferAddr + offsetBytes + 4 + i * 4)
    let targetIndex := if writeOneReg then baseIndex else baseIndex + i
    state.writeRegister targetIndex value) gpuState

/-- The register a `SET_CONSTANT` packet starts at, for the five bank types. -/
def setConstantBase (offsetType : Word) : Option Word :=
  let subIndex := offsetType &&& 0x7FF
  let subType := (offsetType >>> 16) &&& 0xFF
  match subType.toNat with
  | 0 => some (subIndex + 0x4000)
  | 1 => some (subIndex + 0x4800)
  | 2 => some (subIndex + 0x4900)
  | 3 => some (subIndex + 0x4908)
  | 4 => some (subIndex + 0x2000)
  | _ => none

def executeSetConstant (mem : Memory) (gpuState : GpuRegisterState)
    (bufferAddr offsetBytes count : Word) : GpuRegisterState :=
  match setConstantBase (loadU32 mem (bufferAddr + offsetBytes + 4)) with
  | none => gpuState
  | some baseRegister =>
      (List.range (count - 1).toNat).foldl (fun state k =>
        let i := BitVec.ofNat 32 k
        let value := loadU32 mem (bufferAddr + offsetBytes + 8 + i * 4)
        state.writeRegister (baseRegister + i) value) gpuState

/-- The cache after a microcode blob has been loaded: it is translated only when
its hash differs from the cached one. -/
def loadImmediate (cache : ShaderTranslationCache) (shaderTypeValue : Word)
    (microcodeDwords : List Word) : ShaderTranslationCache :=
  let sizeDwords := BitVec.ofNat 32 microcodeDwords.length
  let microcodeHash := fnv1aHash (microcodeDwords.flatMap littleEndianBytes)
  let cachedHash := if shaderTypeValue = 0 then cache.vertexHash else cache.pixelHash
  if microcodeHash ≠ cachedHash then
    let translation := translateShader microcodeDwords sizeDwords shaderTypeValue.toNat
    if shaderTypeValue = 0 then cache.updateVertexShader microcodeHash translation
    else cache.updatePixelShader microcodeHash translation
  else
    cache

/-- The `IM_LOAD_IMMEDIATE` case, which skips packets it does not recognize. -/
def executeImLoadImmediate (mem : Memory) (cache : ShaderTranslationCache)
    (bufferAddr offsetBytes count : Word) : ShaderTranslationCache :=
  let shaderTypeValue := loadU32 mem (bufferAddr + offsetBytes + 4)
  let startSizeValue := loadU32 mem (bufferAddr + offsetBytes + 8)
  let start := startSizeValue >>> 16
  let sizeDwords := startSizeValue &&& 0xFFFF
  if start ≠ 0 then
    cache
  else if count - 2 < sizeDwords then
    cache
  else if shaderTypeValue ≠ 0 ∧ shaderTypeValue ≠ 1 then
    cache
  else
    let microcodeDwords := (List.range sizeDwords.toNat).map fun k =>
      loadU32 mem (bufferAddr + offsetBytes + 12 + BitVec.ofNat 32 k * 4)
    loadImmediate cache shaderTypeValue microcodeDwords

section Scan

variable {Guest : Type} (env : Env Guest)

/-- The `EVENT_WRITE_SHD` case. -/
def executeEventWriteShd (m : Machine Guest) (bufferAddr offsetBytes : Word) :
    Machine Guest :=
  let initiator := loadU32 m.mem (bufferAddr + offsetBytes + 4)
  let address := (loadU32 m.mem (bufferAddr + offsetBytes + 8) &&& ~~~0x3) ||| 0xA0000000
  let value := loadU32 m.mem (bufferAddr + offsetBytes + 12)
  let dataValue := if initiator &&& 0x80000000 ≠ 0 then m.vblankCounter else value
  { m with mem := storeU32 m.mem address dataValue }

/-- The `INTERRUPT` case: the registered callback runs on the scanning thread. -/
def executeInterrupt (m : Machine Guest) (bufferAddr offsetBytes : Word) :
    Machine Guest × ScanTrace :=
  let cpuMask := loadU32 m.mem (bufferAddr + offsetBytes + 4)
  if cpuMask ≠ 0 ∧ m.graphicsInterruptCallback ≠ 0 then
    let ctx : PPCContext := ⟨1, m.graphicsInterruptContext.setWidth 64⟩
    (env.callIndirect m.graphicsInterruptCallback { m with ctx := ctx },
      [.interrupt m.graphicsInterruptCallback ctx.r3 ctx.r4])
  else
    (m, [])

/-- The TYPE3 case.  `nested` scans an indirect buffer from its start. -/
def executeType3
    (nested : Machine Guest → Word → Word → Int → Option (ScanOutcome Guest))
    (m : Machine Guest) (bufferAddr offsetBytes header : Word) (depth : Int) :
    Option (Machine Guest × ScanTrace) :=
  let count := packetCount header
  let opcode := packetOpcode header
  if opcode = kOpcodeIndirectBuffer then
    if count = 2 ∧ depth < kMaxIndirectDepth then
      let targetAddr := loadU32 m.mem (bufferAddr + offsetBytes + 4) ||| 0xA0000000
      let targetDwordCount := loadU32 m.mem (bufferAddr + offsetBytes + 8)
      (nested m targetAddr (targetDwordCount * 4) (depth + 1)).map fun inner =>
        (inner.machine, .indirect targetAddr targetDwordCount :: inner.trace)
    else
      some (m, [])
  else if opcode = kOpcodeEventWriteShd then
    some (if count = 3 then executeEventWriteShd m bufferAddr offsetBytes else m, [])
  else if opcode = kOpcodeInterrupt then
    some (if count = 1 then executeInterrupt env m bufferAddr offsetBytes else (m, []))
  else if opcode = kOpcodeSetConstant then
    some ({ m with
      gpuState := executeSetConstant m.mem m.gpuState bufferAddr offsetBytes count }, [])
  else if opcode = kOpcodeDrawIndx2 then
    some (drawIndx2 env m bufferAddr offsetBytes count, [])
  else if opcode = kOpcodeDrawIndx then
    some (if 2 ≤ count then
      { m with
        gpuState := m.gpuState.writeRegister kDrawInitiatorRegister
          (loadU32 m.mem (bufferAddr + offsetBytes + 8)) } else m, [])
  else if opcode = kOpcodeImLoadImmediate then
    some (if 2 ≤ count then
      { m with
        shaderTranslationCache := executeImLoadImmediate m.mem m.shaderTranslationCache
          bufferAddr offsetBytes count } else m, [])
  else
    some (m, [])

/-- The loop body for a packet that is acted on. -/
def executePacket
    (nested : Machine Guest → Word → Word → Int → Option (ScanOutcome Guest))
    (m : Machine Guest) (bufferAddr offsetBytes header : Word) (depth : Int) :
    Option (Machine Guest × ScanTrace) :=
  if packetType header = 0x2 then
    some (m, [])
  else if packetType header = 0x0 then
    some ({ m with
      gpuState := executeType0 m.mem m.gpuState bufferAddr offsetBytes header }, [])
  else
    executeType3 env nested m bufferAddr offsetBytes header depth

def scanBuffer : Nat → Machine Guest → Word → Word → Word → Int →
    Option (ScanOutcome Guest)
  | 0, _, _, _, _, _ => none
  | fuel + 1, m, bufferAddr, offsetBytes, sizeBytes, depth =>
      match packetAt m.mem bufferAddr offsetBytes sizeBytes with
      | none => some ⟨m, offsetBytes, []⟩
      | some header =>
          (executePacket env
            (fun inner targetAddr targetSize => scanBuffer fuel inner targetAddr 0 targetSize)
            m bufferAddr offsetBytes header depth).bind fun body =>
          (scanBuffer fuel body.1 bufferAddr (offsetBytes + packetBytes header)
            sizeBytes depth).map fun rest =>
          ⟨rest.machine, rest.offset,
            .packet depth bufferAddr offsetBytes header :: (body.2 ++ rest.trace)⟩

end Scan

end BumpinHost.Gpu
