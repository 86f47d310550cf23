import BumpinHost.Gpu.ScanBuffer
import BumpinHost.Library.Transition

/-!
# The render tick beside the pump

The render thread takes the ready draws, reads the shader cache in four separately
locked reads, installs a pipeline for a new pair of translated shaders, and issues
the draws it has.  Compiling a successful translation is taken to succeed.  The
pump thread and the swap run between any two of its steps.
-/

namespace BumpinHost.Renderer

open BumpinHost.Gpu BumpinHost.Shader

/-- What the renderer keeps of the pipeline it draws with. -/
structure PipelineState where
  /-- The stride of the vertex layout of `g_drawPipelineState`. -/
  stride : Word
  lastCompiledRealShaderHashPair : BitVec 64
deriving DecidableEq, Repr

/-- The pipeline of the placeholder shader. -/
def PipelineState.placeholder : PipelineState := ⟨12, 0⟩

/-- `TryUpdateRealPipeline` once it has its four values. -/
def tryUpdateRealPipeline (vsHash psHash : Word) (vs ps : TranslationResult)
    (pipeline : PipelineState) : PipelineState :=
  if ¬ vs.success ∨ ¬ ps.success then
    pipeline
  else if vsHash ++ psHash = pipeline.lastCompiledRealShaderHashPair then
    pipeline
  else
    ⟨vs.vertexStrideBytes, vsHash ++ psHash⟩

/-- Where the render thread is in a tick, and what it has read of the cache. -/
inductive TickPhase
  | idle
  | taken
  | readVertexHash (vsHash : Word)
  | readPixelHash (vsHash psHash : Word)
  | readVertexShader (vsHash psHash : Word) (vs : TranslationResult)
  | issuing
deriving DecidableEq, Repr

structure HostState (Guest : Type) where
  machine : Machine Guest
  lastDrawCommands : List DrawCommand
  pipeline : PipelineState
  phase : TickPhase

namespace HostState

variable {Guest : Type} (s : HostState Guest)

/-- The pump's `IM_LOAD_IMMEDIATE`. -/
def imLoadImmediate (bufferAddr offsetBytes count : Word) : HostState Guest :=
  { s with
    machine := { s.machine with
      shaderTranslationCache := executeImLoadImmediate s.machine.mem
        s.machine.shaderTranslationCache bufferAddr offsetBytes count } }

/-- A batch that is not empty replaces the draws that are shown. -/
def takeReady : HostState Guest :=
  let (newDrawCommands, list) := s.machine.frameDrawList.takeReady
  { s with
    machine := { s.machine with frameDrawList := list }
    lastDrawCommands :=
      if newDrawCommands.isEmpty then s.lastDrawCommands else newDrawCommands
    phase := .taken }

/-- The pipeline as the rest of the tick will leave it, if the cache stays as it is. -/
def plannedPipeline : PipelineState :=
  let cache := s.machine.shaderTranslationCache
  match s.phase with
  | .idle | .issuing => s.pipeline
  | .taken =>
      tryUpdateRealPipeline cache.vertexHash cache.pixelHash cache.vertexResult
        cache.pixelResult s.pipeline
  | .readVertexHash vsHash =>
      tryUpdateRealPipeline vsHash cache.pixelHash cache.vertexResult cache.pixelResult
        s.pipeline
  | .readPixelHash vsHash psHash =>
      tryUpdateRealPipeline vsHash psHash cache.vertexResult cache.pixelResult s.pipeline
  | .readVertexShader vsHash psHash vs =>
      tryUpdateRealPipeline vsHash psHash vs cache.pixelResult s.pipeline

/-- The pipeline as the tick after that will leave it. -/
def followingPipeline : PipelineState :=
  let cache := s.machine.shaderTranslationCache
  tryUpdateRealPipeline cache.vertexHash cache.pixelHash cache.vertexResult cache.pixelResult
    s.plannedPipeline

end HostState

inductive HostLabel
  | imLoadImmediate (bufferAddr offsetBytes count : Word)
  | drawIndx2 (bufferAddr offsetBytes count : Word)
  | swapReady
  | elsewhere
  | takeReady
  | readVertexHash
  | readPixelHash
  | readVertexShader
  | updatePipeline
  | issueDraws
deriving DecidableEq, Repr

/-- One locked section of one of the three threads, or any change of what they do not look
at. -/
inductive HostStep {Guest : Type} (env : Env Guest) (s : HostState Guest) :
    HostLabel → HostState Guest → Prop
  | imLoadImmediate (bufferAddr offsetBytes count : Word) :
      HostStep env s (.imLoadImmediate bufferAddr offsetBytes count)
        (s.imLoadImmediate bufferAddr offsetBytes count)
  | drawIndx2 (bufferAddr offsetBytes count : Word) :
      HostStep env s (.drawIndx2 bufferAddr offsetBytes count)
        { s with machine := Gpu.drawIndx2 env s.machine bufferAddr offsetBytes count }
  | swapReady :
      HostStep env s .swapReady
        { s with
          machine := { s.machine with frameDrawList := s.machine.frameDrawList.swapReady } }
  | elsewhere {machine : Machine Guest} :
      machine.shaderTranslationCache = s.machine.shaderTranslationCache →
      machine.frameDrawList = s.machine.frameDrawList →
      HostStep env s .elsewhere { s with machine := machine }
  | takeReady :
      s.phase = .idle → HostStep env s .takeReady s.takeReady
  | readVertexHash :
      s.phase = .taken →
      HostStep env s .readVertexHash
        { s with phase := .readVertexHash s.machine.shaderTranslationCache.vertexHash }
  | readPixelHash {vsHash : Word} :
      s.phase = .readVertexHash vsHash →
      HostStep env s .readPixelHash
        { s with
          phase := .readPixelHash vsHash s.machine.shaderTranslationCache.pixelHash }
  | readVertexShader {vsHash psHash : Word} :
      s.phase = .readPixelHash vsHash psHash →
      HostStep env s .readVertexShader
        { s with
          phase := .readVertexShader vsHash psHash
            s.machine.shaderTranslationCache.vertexResult }
  | updatePipeline {vsHash psHash : Word} {vs : TranslationResult} :
      s.phase = .readVertexShader vsHash psHash vs →
      HostStep env s .updatePipeline
        { s with
          pipeline := tryUpdateRealPipeline vsHash psHash vs
            s.machine.shaderTranslationCache.pixelResult s.pipeline
          phase := .issuing }
  | issueDraws :
      s.phase = .issuing → HostStep env s .issueDraws { s with phase := .idle }

/-- Nothing has been recorded or drawn. -/
def HostState.IsInitial {Guest : Type} (s : HostState Guest) : Prop :=
  s.machine.frameDrawList = .empty ∧ s.machine.shaderTranslationCache = .initial ∧
    s.lastDrawCommands = [] ∧ s.pipeline = .placeholder ∧ s.phase = .idle

def hostSystem {Guest : Type} (env : Env Guest) :
    Transition.System (HostState Guest) HostLabel where
  init := HostState.IsInitial
  step := HostStep env

/-- The command that a `DRAW_INDX_2` packet records, if it records one. -/
def recordedDraw {Guest : Type} (env : Env Guest) (m : Machine Guest)
    (bufferAddr offsetBytes count : Word) : Option DrawCommand :=
  let drawInitiatorValue := Memory.loadU32 m.mem (bufferAddr + offsetBytes + 4)
  buildDrawCommand env m.mem
    (m.gpuState.writeRegister kDrawInitiatorRegister drawInitiatorValue)
    m.shaderTranslationCache.vertexResult bufferAddr offsetBytes count

section RecordedDraw

variable {Guest : Type} {env : Env Guest} {m : Machine Guest}
  {bufferAddr offsetBytes count : Word}

@[simp]
theorem drawIndx2_shaderTranslationCache :
    (drawIndx2 env m bufferAddr offsetBytes count).shaderTranslationCache =
      m.shaderTranslationCache := by
  unfold drawIndx2
  dsimp only
  split <;> rfl

theorem drawIndx2_frameDrawList :
    (drawIndx2 env m bufferAddr offsetBytes count).frameDrawList =
      match recordedDraw env m bufferAddr offsetBytes count with
      | none => m.frameDrawList
      | some cmd => m.frameDrawList.addDrawCommand cmd := by
  unfold drawIndx2 recordedDraw
  dsimp only
  cases buildDrawCommand env m.mem
    (m.gpuState.writeRegister kDrawInitiatorRegister
      (Memory.loadU32 m.mem (bufferAddr + offsetBytes + 4)))
    m.shaderTranslationCache.vertexResult bufferAddr offsetBytes count <;> rfl

end RecordedDraw

end BumpinHost.Renderer
