import BumpinHost.Gpu.ShaderCache
import BumpinHost.Renderer.Pipeline

/-!
# The pipeline and the hash pair it is recorded under

A tick reads the two hashes and the two translations in four locked reads, and the
pump may load a shader between any two of them.  A pipeline that was built is
recorded under the pair of hashes, and that pair keeps later ticks from building
another.
-/

namespace BumpinHost.Renderer

open BumpinHost.Gpu BumpinHost.Shader

/-- The renderer's two globals.  A pipeline state is told by the vertex and the pixel
translation it was built from; the placeholder was built from neither. -/
structure RealPipeline where
  drawPipelineState : Option (TranslationResult × TranslationResult)
  lastCompiledRealShaderHashPair : BitVec 64
deriving DecidableEq

namespace RealPipeline

def initial : RealPipeline := ⟨none, 0⟩

/-- `TryUpdateRealPipeline` once it has its four values. -/
def tryUpdate (vsHash psHash : Word) (vs ps : TranslationResult) (pipeline : RealPipeline) :
    RealPipeline :=
  if ¬ vs.success ∨ ¬ ps.success then
    pipeline
  else
    let combinedHash := vsHash ++ psHash
    if combinedHash = pipeline.lastCompiledRealShaderHashPair then
      pipeline
    else
      ⟨some (vs, ps), combinedHash⟩

/-- The stride of the pipeline's vertex layout, and its hash pair. -/
def state (pipeline : RealPipeline) : PipelineState :=
  ⟨match pipeline.drawPipelineState with
    | none => 12
    | some (vs, _) => vs.vertexStrideBytes,
    pipeline.lastCompiledRealShaderHashPair⟩

theorem state_initial : initial.state = .placeholder := rfl

/-- What the draws see of an update is `tryUpdateRealPipeline`. -/
theorem state_tryUpdate (vsHash psHash : Word) (vs ps : TranslationResult)
    (pipeline : RealPipeline) :
    (pipeline.tryUpdate vsHash psHash vs ps).state =
      tryUpdateRealPipeline vsHash psHash vs ps pipeline.state := by
  have recorded : pipeline.state.lastCompiledRealShaderHashPair =
      pipeline.lastCompiledRealShaderHashPair := rfl
  unfold tryUpdate tryUpdateRealPipeline
  rw [recorded]
  split
  · rfl
  · dsimp only
    split <;> rfl

end RealPipeline

/-- The shader cache that the two threads share, and the render thread. -/
structure TickState where
  cache : ShaderTranslationCache
  pipeline : RealPipeline
  phase : TickPhase

inductive TickLabel
  | load (packet : ImLoadPacket)
  | takeReady
  | readVertexHash
  | readPixelHash
  | readVertexShader
  | updatePipeline
  | issueDraws

/-- A load by the pump, or one locked read of the render thread.  The last read is
followed by what the render thread does alone. -/
inductive TickStep (s : TickState) : TickLabel → TickState → Prop
  | load {packet : ImLoadPacket} :
      packet.Recognized →
      TickStep s (.load packet) { s with cache := packet.execute s.cache }
  | takeReady :
      s.phase = .idle → TickStep s .takeReady { s with phase := .taken }
  | readVertexHash :
      s.phase = .taken →
      TickStep s .readVertexHash { s with phase := .readVertexHash s.cache.vertexHash }
  | readPixelHash {vsHash : Word} :
      s.phase = .readVertexHash vsHash →
      TickStep s .readPixelHash
        { s with phase := .readPixelHash vsHash s.cache.pixelHash }
  | readVertexShader {vsHash psHash : Word} :
      s.phase = .readPixelHash vsHash psHash →
      TickStep s .readVertexShader
        { s with phase := .readVertexShader vsHash psHash s.cache.vertexResult }
  | updatePipeline {vsHash psHash : Word} {vs : TranslationResult} :
      s.phase = .readVertexShader vsHash psHash vs →
      TickStep s .updatePipeline
        { s with
          pipeline := s.pipeline.tryUpdate vsHash psHash vs s.cache.pixelResult
          phase := .issuing }
  | issueDraws :
      s.phase = .issuing → TickStep s .issueDraws { s with phase := .idle }

def TickState.initial : TickState := ⟨.initial, .initial, .idle⟩

def tickSystem : Transition.System TickState TickLabel where
  init s := s = .initial
  step := TickStep

/-- The shaders that a trace loads. -/
def loads (trace : List TickLabel) : List ImLoadPacket :=
  trace.filterMap fun label =>
    match label with
    | .load packet => some packet
    | _ => none

@[simp]
theorem loads_append (first second : List TickLabel) :
    loads (first ++ second) = loads first ++ loads second :=
  List.filterMap_append ..

@[simp]
theorem loads_load (packet : ImLoadPacket) : loads [.load packet] = [packet] := rfl

/-- Different microcodes have different hashes. -/
def HashesDistinct (packets : List ImLoadPacket) : Prop :=
  ∀ first ∈ packets, ∀ second ∈ packets,
    first.hash = second.hash → first.microcode = second.microcode

theorem HashesDistinct.of_subset {packets some : List ImLoadPacket}
    (distinct : HashesDistinct packets) (subset : some ⊆ packets) : HashesDistinct some :=
  fun first firstMember second secondMember =>
    distinct first (subset firstMember) second (subset secondMember)

/-- The result is the translation of a loaded shader with that type and hash. -/
def TranslationOf (packets : List ImLoadPacket) (shaderType : ShaderType) (hash : Word)
    (result : TranslationResult) : Prop :=
  ∃ packet ∈ packets,
    packet.Recognized ∧ packet.shaderType = shaderType ∧ packet.hash = hash ∧
      packet.translation = result

/-- Once a pipeline is built, the recorded pair is that of the shaders it was built from;
before, nothing is recorded. -/
def RealPipeline.MatchesHashPair (packets : List ImLoadPacket) (pipeline : RealPipeline) :
    Prop :=
  match pipeline.drawPipelineState with
  | none => pipeline.lastCompiledRealShaderHashPair = 0
  | some (vs, ps) => ∃ vsHash psHash,
      pipeline.lastCompiledRealShaderHashPair = vsHash ++ psHash ∧
        TranslationOf packets .vertex vsHash vs ∧ TranslationOf packets .pixel psHash ps

namespace TickState

variable (s : TickState)

/-- The pipeline in use is that of the two cached shaders. -/
def UsesCurrentPair : Prop :=
  s.pipeline = ⟨some (s.cache.vertexResult, s.cache.pixelResult),
    s.cache.vertexHash ++ s.cache.pixelHash⟩

/-- A load that leaves the cache as it is. -/
def KeepsCache : TickLabel → Prop
  | .load packet => packet.execute s.cache = s.cache
  | _ => True

/-- A translation is read under the hash that was read for it, and two shaders that both
have hash zero are not the first to be compiled. -/
def ReadsTogether : TickLabel → Prop
  | .readVertexShader => ∀ vsHash psHash, s.phase = .readPixelHash vsHash psHash →
      s.cache.vertexResult.success → s.cache.vertexHash = vsHash
  | .updatePipeline => ∀ vsHash psHash vs, s.phase = .readVertexShader vsHash psHash vs →
      vs.success → s.cache.pixelResult.success →
        s.cache.pixelHash = psHash ∧
          (s.pipeline.drawPipelineState = none → ¬ (vsHash = 0 ∧ psHash = 0))
  | _ => True

/-- The recorded pair names the pipeline, and a tick in which the cache stays as it is,
with both translations successful, leaves the pipeline of the current pair in use. -/
def PipelineFollowsHashes (system : Transition.System TickState TickLabel)
    (packets : List ImLoadPacket) : Prop :=
  s.pipeline.MatchesHashPair packets ∧
    ∀ tick after, (system.restrict KeepsCache).Run s tick after →
      s.phase = .idle → after.phase = .issuing →
      s.cache.vertexResult.success → s.cache.pixelResult.success → after.UsesCurrentPair

end TickState

/-- A pair of hashes determines the two. -/
theorem hashPair_injective {vsHash psHash otherVsHash otherPsHash : Word}
    (same : vsHash ++ psHash = otherVsHash ++ otherPsHash) :
    vsHash = otherVsHash ∧ psHash = otherPsHash := by
  constructor
  · have upper := congrArg (BitVec.extractLsb' 32 32) same
    simpa only [BitVec.extractLsb'_append_eq_left] using upper
  · have lower := congrArg (BitVec.extractLsb' 0 32) same
    simpa only [BitVec.extractLsb'_append_eq_right] using lower

section Packets

variable {packets more : List ImLoadPacket} {shaderType : ShaderType} {hash : Word}
  {result : TranslationResult}

theorem TranslationOf.append (listed : TranslationOf packets shaderType hash result) :
    TranslationOf (packets ++ more) shaderType hash result := by
  obtain ⟨packet, member, whole⟩ := listed
  exact ⟨packet, List.mem_append_left more member, whole⟩

theorem TranslationOf.of_load {packet : ImLoadPacket} (recognized : packet.Recognized) :
    TranslationOf (packets ++ [packet]) packet.shaderType packet.hash packet.translation :=
  ⟨packet, List.mem_append_right packets List.mem_cons_self, recognized, rfl, rfl, rfl⟩

/-- The number by which a recognized packet names its type. -/
theorem shaderTypeValue_eq {packet : ImLoadPacket} (recognized : packet.Recognized) :
    packet.shaderTypeValue = if packet.shaderType = .vertex then 0 else 1 := by
  obtain ⟨-, -, -, vertex | pixel⟩ := recognized
  · simp [ImLoadPacket.shaderType, vertex]
  · simp [ImLoadPacket.shaderType, pixel]

/-- With distinct hashes, type and hash determine the translation. -/
theorem TranslationOf.unique {other : TranslationResult} (distinct : HashesDistinct packets)
    (first : TranslationOf packets shaderType hash result)
    (second : TranslationOf packets shaderType hash other) : result = other := by
  obtain ⟨packet, member, recognized, typed, hashed, rfl⟩ := first
  obtain ⟨twin, twinMember, twinRecognized, twinTyped, twinHashed, rfl⟩ := second
  have microcode : packet.microcode = twin.microcode :=
    distinct packet member twin twinMember (hashed.trans twinHashed.symm)
  have value : packet.shaderTypeValue = twin.shaderTypeValue := by
    rw [shaderTypeValue_eq recognized, shaderTypeValue_eq twinRecognized, typed, twinTyped]
  have size : packet.sizeDwords = twin.sizeDwords := by
    rw [← packet.microcode_length, ← twin.microcode_length, microcode]
  unfold ImLoadPacket.translation
  rw [microcode, value, size]

namespace RealPipeline

variable {pipeline : RealPipeline} {vsHash psHash : Word} {vs ps : TranslationResult}

theorem MatchesHashPair.append (named : pipeline.MatchesHashPair packets) :
    pipeline.MatchesHashPair (packets ++ more) := by
  unfold MatchesHashPair at named ⊢
  split
  case h_1 none =>
      rw [none] at named
      exact named
  case h_2 vs ps built =>
      rw [built] at named
      obtain ⟨vsHash, psHash, recorded, vertex, pixel⟩ := named
      exact ⟨vsHash, psHash, recorded, vertex.append, pixel.append⟩

/-- A pipeline built from translations that belong to their hashes is named by them. -/
theorem MatchesHashPair.tryUpdate (named : pipeline.MatchesHashPair packets)
    (vertex : vs.success → TranslationOf packets .vertex vsHash vs)
    (pixel : vs.success → ps.success → TranslationOf packets .pixel psHash ps) :
    (pipeline.tryUpdate vsHash psHash vs ps).MatchesHashPair packets := by
  unfold RealPipeline.tryUpdate
  split
  case isTrue => exact named
  case isFalse translated =>
      obtain ⟨vsSuccess, psSuccess⟩ := not_or.mp translated
      have vsSuccess := not_not.mp vsSuccess
      have psSuccess := not_not.mp psSuccess
      dsimp only
      split
      · exact named
      · exact ⟨vsHash, psHash, rfl, vertex vsSuccess, pixel vsSuccess psSuccess⟩

/-- An update with the translations of its two hashes leaves their pipeline in use. -/
theorem MatchesHashPair.tryUpdate_current (named : pipeline.MatchesHashPair packets)
    (distinct : HashesDistinct packets) (vsSuccess : vs.success) (psSuccess : ps.success)
    (vertex : TranslationOf packets .vertex vsHash vs)
    (pixel : TranslationOf packets .pixel psHash ps)
    (notZero : pipeline.drawPipelineState = none → ¬ (vsHash = 0 ∧ psHash = 0)) :
    pipeline.tryUpdate vsHash psHash vs ps = ⟨some (vs, ps), vsHash ++ psHash⟩ := by
  unfold RealPipeline.tryUpdate
  have translated : ¬ (¬ vs.success ∨ ¬ ps.success) := by simp [vsSuccess, psSuccess]
  rw [if_neg translated]
  dsimp only
  split
  case isFalse => rfl
  case isTrue recorded =>
      unfold MatchesHashPair at named
      split at named
      case h_1 none =>
          have zero : vsHash ++ psHash = (0 : Word) ++ (0 : Word) := recorded.trans named
          exact absurd (hashPair_injective zero) (notZero none)
      case h_2 oldVs oldPs built =>
          obtain ⟨oldVsHash, oldPsHash, pair, oldVertex, oldPixel⟩ := named
          obtain ⟨rfl, rfl⟩ := hashPair_injective (recorded.trans pair)
          obtain rfl := oldVertex.unique distinct vertex
          obtain rfl := oldPixel.unique distinct pixel
          rw [recorded, ← built]

end RealPipeline

end Packets

namespace TickState

variable {packets : List ImLoadPacket} {s after : TickState} {label : TickLabel}

/-- What the cache holds, what the render thread uses and what it has read all come from
loaded shaders under their hashes. -/
structure Consistent (packets : List ImLoadPacket) (s : TickState) : Prop where
  entries : ∀ shaderType, (cacheEntry s.cache shaderType).result.success →
    TranslationOf packets shaderType (cacheEntry s.cache shaderType).digest
      (cacheEntry s.cache shaderType).result
  named : s.pipeline.MatchesHashPair packets
  read : ∀ vsHash psHash vs, s.phase = .readVertexShader vsHash psHash vs → vs.success →
    TranslationOf packets .vertex vsHash vs

theorem consistent_initial : initial.Consistent [] where
  entries shaderType success := by cases shaderType <;> cases success
  named := rfl
  read _ _ _ phase := by cases phase

theorem Consistent.append {more : List ImLoadPacket} (consistent : s.Consistent packets) :
    s.Consistent (packets ++ more) where
  entries shaderType success := (consistent.entries shaderType success).append
  named := consistent.named.append
  read vsHash psHash vs phase success :=
    (consistent.read vsHash psHash vs phase success).append

/-- A load leaves an entry as it was or stores the packet's own. -/
theorem entries_execute {packet : ImLoadPacket} (recognized : packet.Recognized)
    {cache : ShaderTranslationCache}
    (entries : ∀ shaderType, (cacheEntry cache shaderType).result.success →
      TranslationOf packets shaderType (cacheEntry cache shaderType).digest
        (cacheEntry cache shaderType).result) :
    ∀ shaderType, (cacheEntry (packet.execute cache) shaderType).result.success →
      TranslationOf (packets ++ [packet]) shaderType
        (cacheEntry (packet.execute cache) shaderType).digest
        (cacheEntry (packet.execute cache) shaderType).result := by
  intro shaderType success
  rw [cacheEntry_execute recognized] at success ⊢
  unfold DigestCache.Scheme.load at success ⊢
  split
  case isFalse same =>
      rw [if_neg same] at success
      exact (entries shaderType success).append
  case isTrue new =>
      rw [if_pos new] at success
      by_cases own : shaderType = packet.shaderType
      · subst own
        have stored : shaderScheme.store (cacheEntry cache) packet packet.shaderType =
            ⟨packet.hash, packet.translation⟩ := DigestCache.Scheme.store_key
        rw [stored]
        exact .of_load recognized
      · have kept : shaderScheme.store (cacheEntry cache) packet shaderType =
            cacheEntry cache shaderType := DigestCache.Scheme.store_of_ne own
        rw [kept] at success ⊢
        exact (entries shaderType success).append

/-- The pixel translation that an allowed update reads belongs to the hash it read. -/
theorem Consistent.pixelRead (consistent : s.Consistent packets)
    (together : s.ReadsTogether .updatePipeline) {vsHash psHash : Word}
    {vs : TranslationResult} (phase : s.phase = .readVertexShader vsHash psHash vs)
    (vsSuccess : vs.success) (psSuccess : s.cache.pixelResult.success) :
    TranslationOf packets .pixel psHash s.cache.pixelResult := by
  obtain ⟨same, -⟩ := together vsHash psHash vs phase vsSuccess psSuccess
  have entry := consistent.entries .pixel psSuccess
  rw [← same]
  exact entry

/-- The steps of the render thread keep what is consistent. -/
theorem Consistent.step_of_unloaded (consistent : s.Consistent packets)
    (step : TickStep s label after) (together : s.ReadsTogether label)
    (unloaded : loads [label] = []) : after.Consistent packets := by
  obtain ⟨entries, named, read⟩ := consistent
  cases step with
  | load recognized => cases unloaded
  | takeReady idle => exact ⟨entries, named, fun _ _ _ phase => by cases phase⟩
  | readVertexHash phase => exact ⟨entries, named, fun _ _ _ phase => by cases phase⟩
  | readPixelHash phase => exact ⟨entries, named, fun _ _ _ phase => by cases phase⟩
  | issueDraws phase => exact ⟨entries, named, fun _ _ _ phase => by cases phase⟩
  | @readVertexShader vsHash psHash phase =>
      refine ⟨entries, named, ?_⟩
      rintro _ _ _ ⟨⟩ success
      have same : s.cache.vertexHash = vsHash := together vsHash psHash phase success
      rw [← same]
      exact entries .vertex success
  | @updatePipeline vsHash psHash vs phase =>
      refine ⟨entries, ?_, fun _ _ _ phase => by cases phase⟩
      apply named.tryUpdate
      · exact read vsHash psHash vs phase
      · exact Consistent.pixelRead ⟨entries, named, read⟩ together phase

theorem Consistent.step (consistent : s.Consistent packets) (step : TickStep s label after)
    (together : s.ReadsTogether label) : after.Consistent (packets ++ loads [label]) := by
  cases label with
  | load packet =>
      cases step with
      | load recognized =>
          rw [loads_load]
          exact ⟨entries_execute recognized consistent.entries, consistent.named.append,
            fun vsHash psHash vs phase success =>
              (consistent.read vsHash psHash vs phase success).append⟩
  | _ => exact (consistent.step_of_unloaded step together rfl).append

theorem consistent_of_history {trace : List TickLabel}
    (history : (tickSystem.restrict ReadsTogether).History trace s) :
    s.Consistent (loads trace) := by
  apply history.invariant fun past state => state.Consistent (loads past)
  · rintro _ rfl
    exact consistent_initial
  · intro past before label after _ consistent step
    rw [loads_append]
    exact consistent.step step.1 step.2

/-- What a tick has read while the cache was not changed. -/
def ReadCurrent (s : TickState) : Prop :=
  match s.phase with
  | .idle | .taken => True
  | .readVertexHash vsHash => vsHash = s.cache.vertexHash
  | .readPixelHash vsHash psHash => vsHash = s.cache.vertexHash ∧ psHash = s.cache.pixelHash
  | .readVertexShader vsHash psHash vs =>
      vsHash = s.cache.vertexHash ∧ psHash = s.cache.pixelHash ∧ vs = s.cache.vertexResult
  | .issuing => s.cache.vertexResult.success → s.cache.pixelResult.success → s.UsesCurrentPair

/-- A step that leaves the cache as it is keeps what the tick has read current. -/
theorem Consistent.quietStep (consistent : s.Consistent packets)
    (distinct : HashesDistinct packets) (current : s.ReadCurrent)
    (step : TickStep s label after) (together : s.ReadsTogether label)
    (quiet : s.KeepsCache label) :
    after.Consistent packets ∧ after.ReadCurrent ∧ after.cache = s.cache := by
  unfold ReadCurrent at current
  cases step with
  | @load packet recognized =>
      have kept : packet.execute s.cache = s.cache := quiet
      rw [kept]
      exact ⟨consistent, current, rfl⟩
  | takeReady idle =>
      exact ⟨consistent.step_of_unloaded (.takeReady idle) together rfl, trivial, rfl⟩
  | readVertexHash phase =>
      exact ⟨consistent.step_of_unloaded (.readVertexHash phase) together rfl, rfl, rfl⟩
  | readPixelHash phase =>
      rw [phase] at current
      exact ⟨consistent.step_of_unloaded (.readPixelHash phase) together rfl,
        ⟨current, rfl⟩, rfl⟩
  | readVertexShader phase =>
      rw [phase] at current
      exact ⟨consistent.step_of_unloaded (.readVertexShader phase) together rfl,
        ⟨current.1, current.2, rfl⟩, rfl⟩
  | issueDraws phase =>
      exact ⟨consistent.step_of_unloaded (.issueDraws phase) together rfl, trivial, rfl⟩
  | @updatePipeline vsHash psHash vs phase =>
      rw [phase] at current
      obtain ⟨rfl, rfl, rfl⟩ := current
      refine ⟨consistent.step_of_unloaded (.updatePipeline phase) together rfl, ?_, rfl⟩
      intro vsSuccess psSuccess
      obtain ⟨-, notZero⟩ := together _ _ _ phase vsSuccess psSuccess
      exact consistent.named.tryUpdate_current distinct vsSuccess psSuccess
        (consistent.entries .vertex vsSuccess) (consistent.entries .pixel psSuccess) notZero

theorem Consistent.quietRun (consistent : s.Consistent packets)
    (distinct : HashesDistinct packets) (current : s.ReadCurrent) {tick : List TickLabel}
    (run : ((tickSystem.restrict ReadsTogether).restrict KeepsCache).Run s tick after) :
    after.Consistent packets ∧ after.ReadCurrent ∧ after.cache = s.cache := by
  induction run with
  | refl => exact ⟨consistent, current, rfl⟩
  | tail _ step ih =>
      obtain ⟨sofar, read, same⟩ := ih
      obtain ⟨kept, readNow, unchanged⟩ :=
        sofar.quietStep distinct read step.1.1 step.1.2 step.2
      exact ⟨kept, readNow, unchanged.trans same⟩

section Ticks

variable {s : TickState} {packet : ImLoadPacket}

theorem loadVertex_step (recognized : packet.Recognized) (typed : packet.shaderType = .vertex)
    (new : packet.hash ≠ s.cache.vertexHash) :
    TickStep s (.load packet)
      { s with cache := s.cache.updateVertexShader packet.hash packet.translation } := by
  have stale : packet.hash ≠ (cacheEntry s.cache packet.shaderType).digest := by
    rw [typed]
    exact new
  have stored : packet.execute s.cache =
      s.cache.updateVertexShader packet.hash packet.translation := by
    rw [ImLoadPacket.execute_eq recognized, if_pos stale, typed]
  rw [← stored]
  exact .load recognized

theorem loadPixel_step (recognized : packet.Recognized) (typed : packet.shaderType = .pixel)
    (new : packet.hash ≠ s.cache.pixelHash) :
    TickStep s (.load packet)
      { s with cache := s.cache.updatePixelShader packet.hash packet.translation } := by
  have stale : packet.hash ≠ (cacheEntry s.cache packet.shaderType).digest := by
    rw [typed]
    exact new
  have stored : packet.execute s.cache =
      s.cache.updatePixelShader packet.hash packet.translation := by
    rw [ImLoadPacket.execute_eq recognized, if_pos stale, typed]
  rw [← stored]
  exact .load recognized

/-- The steps of a tick up to its update. -/
def tickLabels : List TickLabel :=
  [.takeReady, .readVertexHash, .readPixelHash, .readVertexShader, .updatePipeline]

/-- What a tick that starts in the state leaves, if nothing is loaded meanwhile. -/
def afterTick (s : TickState) : TickState :=
  { s with
    pipeline := s.pipeline.tryUpdate s.cache.vertexHash s.cache.pixelHash
      s.cache.vertexResult s.cache.pixelResult
    phase := .issuing }

theorem afterTick_run (s : TickState) (idle : s.phase = .idle) :
    (tickSystem.restrict KeepsCache).Run s tickLabels s.afterTick :=
  .head ⟨.takeReady idle, trivial⟩ <|
    .head ⟨.readVertexHash rfl, trivial⟩ <|
      .head ⟨.readPixelHash rfl, trivial⟩ <|
        .head ⟨.readVertexShader rfl, trivial⟩ <| .single ⟨.updatePipeline rfl, trivial⟩

/-- Such a tick reads every translation under its own hash. -/
theorem afterTick_readsTogether (s : TickState) (idle : s.phase = .idle)
    (notZero : s.pipeline.drawPipelineState = none →
      ¬ (s.cache.vertexHash = 0 ∧ s.cache.pixelHash = 0)) :
    (tickSystem.restrict ReadsTogether).Run s tickLabels s.afterTick := by
  refine .head ⟨.takeReady idle, trivial⟩ <|
    .head ⟨.readVertexHash rfl, trivial⟩ <|
      .head ⟨.readPixelHash rfl, trivial⟩ <|
        .head ⟨.readVertexShader rfl, ?_⟩ <| .single ⟨.updatePipeline rfl, ?_⟩
  · rintro _ _ ⟨⟩ _
    rfl
  · rintro _ _ _ ⟨⟩ _ _
    exact ⟨rfl, notZero⟩

end Ticks

end TickState

/-- A packet for a vertex shader that fills its whole memory. -/
def vertexLoadPacket (microcode : List Word) : ImLoadPacket where
  mem position :=
    (([0, 0, BitVec.ofNat 32 microcode.length] ++ microcode).flatMap fun word =>
      (littleEndianBytes word).reverse).getD position 0
  bufferAddr := 0
  offsetBytes := 0
  count := BitVec.ofNat 32 microcode.length + 2

/-- Exports the position from a vertex of some dwords. -/
def positionMicrocode (stride : Word) : List Word :=
  [0x00012001, 0x2000, 0, 0x1000, 0x390A88, stride, 0xF803E, 0, 0xC2010100]

def shortVertexPacket : ImLoadPacket := vertexLoadPacket (positionMicrocode 3)
def longVertexPacket : ImLoadPacket := vertexLoadPacket (positionMicrocode 7)
def interpolatorPixelPacket : ImLoadPacket := pixelLoadPacket passThroughPixelMicrocode

/-- A vertex and a pixel shader, and a vertex shader for longer records. -/
structure LoadableShaders (vertex longer pixel : ImLoadPacket) : Prop where
  vertexRecognized : vertex.Recognized
  vertexTyped : vertex.shaderType = .vertex
  vertexHashed : vertex.hash ≠ 0
  longerRecognized : longer.Recognized
  longerTyped : longer.shaderType = .vertex
  longerHashed : longer.hash ≠ vertex.hash
  pixelRecognized : pixel.Recognized
  pixelTyped : pixel.shaderType = .pixel
  pixelHashed : pixel.hash ≠ 0
  vertexTranslated : vertex.translation.success
  longerTranslated : longer.translation.success
  pixelTranslated : pixel.translation.success
  differ : longer.translation.vertexStrideBytes ≠ vertex.translation.vertexStrideBytes

theorem loadableShaders :
    LoadableShaders shortVertexPacket longVertexPacket interpolatorPixelPacket := by
  constructor <;> decide +kernel

/-- The state once the first vertex shader and the pixel shader are loaded. -/
def afterLoads (vertex pixel : ImLoadPacket) : TickState :=
  { TickState.initial with
    cache := ⟨vertex.hash, vertex.translation, pixel.hash, pixel.translation⟩ }

/-- A shader is loaded between a tick's reads of the vertex hash and of the vertex
translation, and the first shader is loaded again after the tick. -/
def tornTrace (vertex longer pixel : ImLoadPacket) : List TickLabel :=
  [.load vertex, .load pixel, .takeReady, .readVertexHash, .readPixelHash, .load longer,
    .readVertexShader, .updatePipeline, .issueDraws, .load vertex]

/-- The pipeline is that of the longer records. -/
def tornState (vertex longer pixel : ImLoadPacket) : TickState :=
  { afterLoads vertex pixel with
    pipeline := ⟨some (longer.translation, pixel.translation), vertex.hash ++ pixel.hash⟩ }

namespace LoadableShaders

variable {vertex longer pixel : ImLoadPacket}

theorem loads_run (shaders : LoadableShaders vertex longer pixel) :
    (tickSystem.restrict TickState.ReadsTogether).Run .initial [.load vertex, .load pixel]
      (afterLoads vertex pixel) := by
  have first := TickState.loadVertex_step (s := TickState.initial) shaders.vertexRecognized
    shaders.vertexTyped shaders.vertexHashed
  exact .head ⟨first, trivial⟩ (.single ⟨TickState.loadPixel_step shaders.pixelRecognized
    shaders.pixelTyped shaders.pixelHashed, trivial⟩)

theorem hashesDistinct (shaders : LoadableShaders vertex longer pixel)
    (pixelVertex : pixel.hash ≠ vertex.hash) (pixelLonger : pixel.hash ≠ longer.hash) :
    HashesDistinct [vertex, pixel, longer, vertex] := by
  have longerVertex := shaders.longerHashed
  intro first firstMember second secondMember same
  simp only [List.mem_cons, List.not_mem_nil, or_false] at firstMember secondMember
  have equal : first = second := by
    grind
  rw [equal]

theorem notZero (shaders : LoadableShaders vertex longer pixel) :
    vertex.hash ++ pixel.hash ≠ RealPipeline.initial.lastCompiledRealShaderHashPair := by
  intro zero
  have zero : vertex.hash ++ pixel.hash = (0 : Word) ++ (0 : Word) := zero
  exact shaders.vertexHashed (hashPair_injective zero).1

/-- The torn tick installs the pipeline of the longer records under the first hash. -/
theorem torn_tryUpdate (shaders : LoadableShaders vertex longer pixel) :
    RealPipeline.initial.tryUpdate vertex.hash pixel.hash longer.translation
        pixel.translation =
      ⟨some (longer.translation, pixel.translation), vertex.hash ++ pixel.hash⟩ := by
  have translated : ¬ (¬ longer.translation.success ∨ ¬ pixel.translation.success) := by
    simp [shaders.longerTranslated, shaders.pixelTranslated]
  unfold RealPipeline.tryUpdate
  rw [if_neg translated]
  exact if_neg shaders.notZero

theorem torn_history (shaders : LoadableShaders vertex longer pixel) :
    tickSystem.History (tornTrace vertex longer pixel) (tornState vertex longer pixel) := by
  have loaded := TickState.loadVertex_step
    (s := { afterLoads vertex pixel with phase := .readPixelHash vertex.hash pixel.hash })
    shaders.longerRecognized shaders.longerTyped shaders.longerHashed
  have updated : TickStep
      { afterLoads longer pixel with
        phase := .readVertexShader vertex.hash pixel.hash longer.translation }
      .updatePipeline
      { afterLoads longer pixel with
        pipeline := RealPipeline.initial.tryUpdate vertex.hash pixel.hash longer.translation
          pixel.translation
        phase := .issuing } := .updatePipeline rfl
  rw [shaders.torn_tryUpdate] at updated
  have again := TickState.loadVertex_step
    (s := { afterLoads longer pixel with
      pipeline := ⟨some (longer.translation, pixel.translation), vertex.hash ++ pixel.hash⟩ })
    shaders.vertexRecognized shaders.vertexTyped (Ne.symm shaders.longerHashed)
  refine ⟨.initial, rfl, shaders.loads_run.of_restrict.trans ?_⟩
  exact .head (.takeReady rfl) <| .head (.readVertexHash rfl) <| .head (.readPixelHash rfl) <|
    .head loaded <| .head (.readVertexShader rfl) <| .head updated <|
      .head (.issueDraws rfl) <| .single again

/-- The recorded pair is that of other shaders than the pipeline's. -/
theorem torn_misnamed (shaders : LoadableShaders vertex longer pixel)
    (distinct : HashesDistinct [vertex, pixel, longer, vertex]) :
    ¬ (tornState vertex longer pixel).pipeline.MatchesHashPair
      [vertex, pixel, longer, vertex] := by
  rintro ⟨vsHash, psHash, recorded, ofLonger, -⟩
  obtain ⟨rfl, -⟩ := hashPair_injective recorded
  have ofVertex : TranslationOf [vertex, pixel, longer, vertex] .vertex vertex.hash
      vertex.translation :=
    ⟨vertex, List.mem_cons_self, shaders.vertexRecognized, shaders.vertexTyped, rfl, rfl⟩
  have same : longer.translation = vertex.translation := ofLonger.unique distinct ofVertex
  exact shaders.differ (congrArg TranslationResult.vertexStrideBytes same)

/-- A later tick takes the pair for compiled and draws with the other pipeline. -/
theorem torn_stays (shaders : LoadableShaders vertex longer pixel) :
    ¬ (tornState vertex longer pixel).afterTick.UsesCurrentPair := by
  have translated : ¬ (¬ vertex.translation.success ∨ ¬ pixel.translation.success) := by
    simp [shaders.vertexTranslated, shaders.pixelTranslated]
  have kept : (tornState vertex longer pixel).afterTick.pipeline =
      (tornState vertex longer pixel).pipeline := by
    change RealPipeline.tryUpdate vertex.hash pixel.hash vertex.translation pixel.translation
      (tornState vertex longer pixel).pipeline = _
    unfold RealPipeline.tryUpdate
    rw [if_neg translated]
    exact if_pos rfl
  intro uses
  have same := kept.symm.trans uses
  have pair : longer.translation = vertex.translation :=
    congrArg Prod.fst (Option.some_inj.mp (congrArg RealPipeline.drawPipelineState same))
  exact shaders.differ (congrArg TranslationResult.vertexStrideBytes pair)

end LoadableShaders

namespace TickState

variable {s : TickState}

/-- When every translation is read under its own hash, the recorded pair names the
pipeline, and a tick without loads leaves the current pair in use. -/
theorem pipeline_followsHashes {trace : List TickLabel}
    (history : (tickSystem.restrict ReadsTogether).History trace s)
    (distinct : HashesDistinct (loads trace)) :
    s.PipelineFollowsHashes (tickSystem.restrict ReadsTogether) (loads trace) := by
  have consistent := consistent_of_history history
  refine ⟨consistent.named, ?_⟩
  intro tick after run idle issuing vsSuccess psSuccess
  have current : s.ReadCurrent := by
    unfold ReadCurrent
    rw [idle]
    trivial
  obtain ⟨-, read, same⟩ := consistent.quietRun distinct current run
  unfold ReadCurrent at read
  rw [issuing, same] at read
  exact read vsSuccess psSuccess

end TickState

theorem pipeline_followsHashes_loaded :
    ((afterLoads shortVertexPacket interpolatorPixelPacket).afterTick).PipelineFollowsHashes
      (tickSystem.restrict TickState.ReadsTogether)
      (loads ([.load shortVertexPacket, .load interpolatorPixelPacket] ++
        TickState.tickLabels)) := by
  have shaders := loadableShaders
  apply TickState.pipeline_followsHashes
  · refine ⟨.initial, rfl, shaders.loads_run.trans ?_⟩
    exact TickState.afterTick_readsTogether _ rfl fun _ zero => shaders.vertexHashed zero.1
  · have distinct := shaders.hashesDistinct (by decide +kernel) (by decide +kernel)
    exact distinct.of_subset (List.subset_append_left [_, _] [_, _])

/-- A load between two reads of one tick leaves a pipeline under the hashes of other
shaders, and the pair keeps the right one from being built. -/
theorem tornTick_misnamesPipeline :
    ∃ s, tickSystem.History
        (tornTrace shortVertexPacket longVertexPacket interpolatorPixelPacket) s ∧
      HashesDistinct
        (loads (tornTrace shortVertexPacket longVertexPacket interpolatorPixelPacket)) ∧
      s.phase = .idle ∧ s.cache.vertexResult.success ∧ s.cache.pixelResult.success ∧
      ¬ s.pipeline.MatchesHashPair
        (loads (tornTrace shortVertexPacket longVertexPacket interpolatorPixelPacket)) ∧
      ∃ after, (tickSystem.restrict TickState.KeepsCache).Run s TickState.tickLabels after ∧
        after.phase = .issuing ∧ ¬ after.UsesCurrentPair := by
  have shaders := loadableShaders
  have distinct := shaders.hashesDistinct (by decide +kernel) (by decide +kernel)
  exact ⟨_, shaders.torn_history, distinct, rfl, shaders.vertexTranslated,
    shaders.pixelTranslated, shaders.torn_misnamed distinct,
    _, TickState.afterTick_run _ rfl, rfl, shaders.torn_stays⟩

end BumpinHost.Renderer
