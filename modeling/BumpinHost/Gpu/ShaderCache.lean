import BumpinHost.Gpu.ScanBuffer
import BumpinHost.Library.DigestCache

/-!
# The shader cache over a sequence of loads

Each `IM_LOAD_IMMEDIATE` packet that the scan recognizes loads one shader.  The
cache keeps one entry for each shader type and skips the translation of a
microcode whose hash is the stored one; a cache that was never filled stores
hash zero.
-/

namespace BumpinHost.Gpu

open BumpinHost.Shader BumpinHost.DigestCache Memory

inductive ShaderType
  | vertex
  | pixel
deriving DecidableEq, Repr

/-- A load packet where the scan finds it. -/
structure ImLoadPacket where
  mem : Memory
  bufferAddr : Word
  offsetBytes : Word
  /-- Payload dwords. -/
  count : Word

namespace ImLoadPacket

variable (packet : ImLoadPacket)

def shaderTypeValue : Word :=
  loadU32 packet.mem (packet.bufferAddr + packet.offsetBytes + 4)

def startSizeValue : Word :=
  loadU32 packet.mem (packet.bufferAddr + packet.offsetBytes + 8)

def sizeDwords : Word := packet.startSizeValue &&& 0xFFFF

/-- The dwords that the packet carries, byte-swapped from the big-endian buffer. -/
def microcode : List Word :=
  (List.range packet.sizeDwords.toNat).map fun k =>
    loadU32 packet.mem (packet.bufferAddr + packet.offsetBytes + 12 + BitVec.ofNat 32 k * 4)

/-- Start zero, a known shader type, and a payload that holds all the microcode. -/
def Recognized : Prop :=
  2 ≤ packet.count ∧ packet.startSizeValue >>> 16 = 0 ∧
    packet.sizeDwords ≤ packet.count - 2 ∧
    (packet.shaderTypeValue = 0 ∨ packet.shaderTypeValue = 1)

instance : Decidable packet.Recognized :=
  inferInstanceAs (Decidable (_ ∧ _ ∧ _ ∧ _))

def shaderType : ShaderType :=
  if packet.shaderTypeValue = 0 then .vertex else .pixel

def hash : Word :=
  fnv1aHash (packet.microcode.flatMap littleEndianBytes)

/-- What the translator makes of the packet's microcode. -/
def translation : TranslationResult :=
  translateShader packet.microcode packet.sizeDwords packet.shaderTypeValue.toNat

/-- The scan's case for a load packet. -/
def execute (cache : ShaderTranslationCache) : ShaderTranslationCache :=
  if 2 ≤ packet.count then
    executeImLoadImmediate packet.mem cache packet.bufferAddr packet.offsetBytes packet.count
  else cache

end ImLoadPacket

/-- The hash and the result that the cache keeps for a shader type. -/
def cacheEntry (cache : ShaderTranslationCache) : ShaderType → Slot Word TranslationResult
  | .vertex => ⟨cache.vertexHash, cache.vertexResult⟩
  | .pixel => ⟨cache.pixelHash, cache.pixelResult⟩

/-- The cache after a sequence of packets. -/
def afterPackets (cache : ShaderTranslationCache) (packets : List ImLoadPacket) :
    ShaderTranslationCache :=
  packets.foldl (fun cache packet => packet.execute cache) cache

/-- After each packet the entry of its type holds its own translation, and the entry
of the other type is as it was. -/
def ReflectsLoads (packets : List ImLoadPacket) : Prop :=
  ∀ past packet, past ++ [packet] <+: packets →
    (cacheEntry (afterPackets .initial (past ++ [packet])) packet.shaderType).result =
        packet.translation ∧
      ∀ other, other ≠ packet.shaderType →
        cacheEntry (afterPackets .initial (past ++ [packet])) other =
          cacheEntry (afterPackets .initial past) other

/-- The last shader of a type among some packets. -/
def lastOfType (packets : List ImLoadPacket) (shaderType : ShaderType) :
    Option ImLoadPacket :=
  (packets.filter fun packet => packet.shaderType = shaderType).getLast?

/-- The packet's hash tells it from the shader of its type loaded before it, or from
a cache that was never filled. -/
def HashDistinguishes (past : List ImLoadPacket) (packet : ImLoadPacket) : Prop :=
  match lastOfType past packet.shaderType with
  | some last => packet.hash = last.hash → packet.translation = last.translation
  | none => packet.hash ≠ 0

def shaderScheme : Scheme ShaderType ImLoadPacket Word TranslationResult where
  key := ImLoadPacket.shaderType
  digest := ImLoadPacket.hash
  compute := ImLoadPacket.translation

theorem ImLoadPacket.microcode_length (packet : ImLoadPacket) :
    BitVec.ofNat 32 packet.microcode.length = packet.sizeDwords := by
  simp [ImLoadPacket.microcode]

/-- A recognized packet stores its own hash and translation, or changes nothing. -/
theorem ImLoadPacket.execute_eq {packet : ImLoadPacket} (recognized : packet.Recognized)
    (cache : ShaderTranslationCache) :
    packet.execute cache =
      if packet.hash ≠ (cacheEntry cache packet.shaderType).digest then
        (match packet.shaderType with
        | .vertex => cache.updateVertexShader packet.hash packet.translation
        | .pixel => cache.updatePixelShader packet.hash packet.translation)
      else cache := by
  obtain ⟨longEnough, startZero, holds, known⟩ := recognized
  have started : ¬ loadU32 packet.mem (packet.bufferAddr + packet.offsetBytes + 8) >>> 16 ≠ 0 :=
    not_not.mpr startZero
  have fits : ¬ packet.count - 2 <
      loadU32 packet.mem (packet.bufferAddr + packet.offsetBytes + 8) &&& 0xFFFF :=
    BitVec.not_lt.mpr holds
  have typed : ¬ (loadU32 packet.mem (packet.bufferAddr + packet.offsetBytes + 4) ≠ 0 ∧
      loadU32 packet.mem (packet.bufferAddr + packet.offsetBytes + 4) ≠ 1) := by
    rintro ⟨notVertex, notPixel⟩
    exact known.elim notVertex notPixel
  have loaded : packet.execute cache =
      loadImmediate cache packet.shaderTypeValue packet.microcode := by
    unfold ImLoadPacket.execute executeImLoadImmediate
    dsimp only
    rw [if_pos longEnough, if_neg started, if_neg fits, if_neg typed]
    rfl
  rw [loaded, loadImmediate]
  dsimp only
  rw [packet.microcode_length]
  unfold ImLoadPacket.shaderType
  by_cases vertex : packet.shaderTypeValue = 0
  · rw [if_pos vertex, if_pos vertex, if_pos vertex]
    rfl
  · rw [if_neg vertex, if_neg vertex, if_neg vertex]
    rfl

theorem cacheEntry_updateVertexShader (cache : ShaderTranslationCache) (hash : Word)
    (result : TranslationResult) :
    cacheEntry (cache.updateVertexShader hash result) =
      Function.update (cacheEntry cache) .vertex ⟨hash, result⟩ := by
  funext shaderType
  cases shaderType <;> rfl

theorem cacheEntry_updatePixelShader (cache : ShaderTranslationCache) (hash : Word)
    (result : TranslationResult) :
    cacheEntry (cache.updatePixelShader hash result) =
      Function.update (cacheEntry cache) .pixel ⟨hash, result⟩ := by
  funext shaderType
  cases shaderType <;> rfl

theorem cacheEntry_execute {packet : ImLoadPacket} (recognized : packet.Recognized)
    (cache : ShaderTranslationCache) :
    cacheEntry (packet.execute cache) = shaderScheme.load (cacheEntry cache) packet := by
  rw [ImLoadPacket.execute_eq recognized]
  change _ = if packet.hash ≠ (cacheEntry cache packet.shaderType).digest then
    Function.update (cacheEntry cache) packet.shaderType ⟨packet.hash, packet.translation⟩
    else cacheEntry cache
  split
  · cases packet.shaderType with
    | vertex => exact cacheEntry_updateVertexShader ..
    | pixel => exact cacheEntry_updatePixelShader ..
  · rfl

theorem cacheEntry_afterPackets {packets : List ImLoadPacket}
    (recognized : ∀ packet ∈ packets, packet.Recognized) (cache : ShaderTranslationCache) :
    cacheEntry (afterPackets cache packets) =
      shaderScheme.loadAll (cacheEntry cache) packets := by
  induction packets generalizing cache with
  | nil => rfl
  | cons packet packets ih =>
      have first := cacheEntry_execute (recognized packet List.mem_cons_self) cache
      have rest := ih (fun later member => recognized later (List.mem_cons_of_mem _ member))
        (packet.execute cache)
      rw [first] at rest
      exact rest

/-- With nothing loaded yet, only hash zero is taken for a hit. -/
theorem distinguished_iff_hashDistinguishes (past : List ImLoadPacket)
    (packet : ImLoadPacket) :
    shaderScheme.Distinguished
        (shaderScheme.storeAll (cacheEntry .initial) past packet.shaderType) packet ↔
      HashDistinguishes past packet := by
  have same : (past.filter fun item => shaderScheme.key item = packet.shaderType).getLast? =
      lastOfType past packet.shaderType := rfl
  rw [Scheme.storeAll_eq_last, same]
  unfold HashDistinguishes
  cases lastOfType past packet.shaderType with
  | some last => exact Iff.rfl
  | none =>
      have empty : cacheEntry .initial packet.shaderType = ⟨0, .initial⟩ := by
        cases packet.shaderType <;> rfl
      rw [empty]
      constructor
      · intro distinguished isZero
        exact translateShader_ne_initial _ _ _ (distinguished isZero)
      · intro notZero isZero
        exact absurd isZero notZero

/-- The cache reflects every load exactly when each hash tells its shader from the
one of its type before it. -/
theorem reflectsLoads_iff (packets : List ImLoadPacket)
    (recognized : ∀ packet ∈ packets, packet.Recognized) :
    ReflectsLoads packets ↔
      ∀ past packet, past ++ [packet] <+: packets → HashDistinguishes past packet := by
  have entries : ∀ past, past <+: packets →
      cacheEntry (afterPackets .initial past) =
        shaderScheme.loadAll (cacheEntry .initial) past := by
    intro past isPrefix
    exact cacheEntry_afterPackets
      (fun packet member => recognized packet (isPrefix.subset member)) .initial
  have results := shaderScheme.loadAll_result_iff (cacheEntry .initial) packets
  constructor
  · intro reflects past packet isPrefix
    apply (distinguished_iff_hashDistinguishes past packet).mp
    apply results.mp _ past packet isPrefix
    intro earlier middle shorter
    rw [← entries _ shorter]
    exact (reflects earlier middle shorter).1
  · intro distinguishes past packet isPrefix
    have own := results.mpr
      (fun earlier middle shorter =>
        (distinguished_iff_hashDistinguishes earlier middle).mpr
          (distinguishes earlier middle shorter)) past packet isPrefix
    rw [entries _ isPrefix, entries past ((List.prefix_append ..).trans isPrefix)]
    refine ⟨own, ?_⟩
    intro other different
    rw [Scheme.loadAll_concat]
    exact Scheme.load_of_ne different

/-- A packet for a pixel shader that fills its whole memory: shader type, size, then
the microcode. -/
def pixelLoadPacket (microcode : List Word) : ImLoadPacket where
  mem position :=
    (([0, 1, BitVec.ofNat 32 microcode.length] ++ microcode).flatMap fun word =>
      (littleEndianBytes word).reverse).getD position 0
  bufferAddr := 0
  offsetBytes := 0
  count := BitVec.ofNat 32 microcode.length + 2

/-- Moves interpolator 0 to the colour output. -/
def passThroughPixelMicrocode : List Word :=
  [0x1001, 0x2000, 0, 0xF8000, 0, 0xC2000000]

/-- The same shader with a dword behind it that makes the hash zero. -/
def zeroHashPixelMicrocode : List Word :=
  passThroughPixelMicrocode ++ [0x3FFE3C1E]

theorem reflectsLoads_iff_passThrough :
    (∀ packet ∈ [pixelLoadPacket passThroughPixelMicrocode,
        pixelLoadPacket passThroughPixelMicrocode], packet.Recognized) ∧
      ReflectsLoads [pixelLoadPacket passThroughPixelMicrocode,
        pixelLoadPacket passThroughPixelMicrocode] := by
  have recognized : (pixelLoadPacket passThroughPixelMicrocode).Recognized := by
    decide +kernel
  have all : ∀ packet ∈ [pixelLoadPacket passThroughPixelMicrocode,
      pixelLoadPacket passThroughPixelMicrocode], packet.Recognized := by
    intro packet member
    rcases List.mem_pair.mp member with rfl | rfl <;> exact recognized
  refine ⟨all, ?_⟩
  apply (reflectsLoads_iff _ all).mpr
  intro past packet isPrefix
  have hashed : (pixelLoadPacket passThroughPixelMicrocode).hash ≠ 0 := by decide +kernel
  have loaded : packet = pixelLoadPacket passThroughPixelMicrocode ∧
      ∀ earlier ∈ past, earlier = pixelLoadPacket passThroughPixelMicrocode := by
    constructor
    · simpa using isPrefix.subset (a := packet) (by simp)
    · intro earlier member
      simpa using isPrefix.subset (a := earlier) (by simp [member])
  obtain ⟨rfl, same⟩ := loaded
  unfold HashDistinguishes
  split
  case h_1 last found =>
      intro _
      have member := List.mem_of_mem_getLast? found
      rw [same last (List.mem_of_mem_filter member)]
  case h_2 => exact hashed

/-- A shader whose hash is zero is taken for one that is loaded already. -/
theorem zeroHashShader_notLoaded :
    (∀ packet ∈ [pixelLoadPacket zeroHashPixelMicrocode], packet.Recognized) ∧
      (pixelLoadPacket zeroHashPixelMicrocode).translation.success = true ∧
      ¬ ReflectsLoads [pixelLoadPacket zeroHashPixelMicrocode] := by
  refine ⟨by decide +kernel, by decide +kernel, ?_⟩
  intro reflects
  have result := (reflects [] _ List.prefix_rfl).1
  have success := congrArg TranslationResult.success result
  revert success
  decide +kernel

end BumpinHost.Gpu
