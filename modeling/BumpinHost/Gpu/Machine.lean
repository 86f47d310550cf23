import BumpinHost.Gpu.RegisterState
import BumpinHost.Gpu.DrawList
import BumpinHost.Shader.Translate

/-!
# The state the command tracer works on

The tracer's own fields, guest memory, and the register context of the thread
that scans.  Guest code run by an interrupt callback is not part of this
repository; it is a parameter, together with whatever other state of the process
it may read and change.
-/

namespace BumpinHost.Gpu

open BumpinHost.Shader

/-- The argument registers of the scanning thread's context. -/
structure PPCContext where
  r3 : BitVec 64
  r4 : BitVec 64
deriving DecidableEq, Repr

/-- State of the command tracer and of what its scan can reach.  `Guest` is the
rest of the process, which only guest code reads and writes. -/
structure Machine (Guest : Type) where
  mem : Memory
  ctx : PPCContext
  guest : Guest
  gpuState : GpuRegisterState
  frameDrawList : FrameDrawList DrawCommand
  shaderTranslationCache : ShaderTranslationCache
  ringBufferBase : Word
  ringBufferSize : Word
  rptrWriteBackAddr : Word
  identifierAddr : Word
  graphicsInterruptCallback : Word
  graphicsInterruptContext : Word
  lastParsedOffset : Word
  frameCounter : Word
  vblankCounter : Word
  systemCmdBufAddr : Word
  systemCmdBufSize : Word
  systemCmdBufLastOffset : Word
  lastWptrDwords : Word
  wptrObserved : Bool

/-- Single-precision operations on bit patterns. -/
structure FloatOps where
  add : Word → Word → Word
  sub : Word → Word → Word
  mul : Word → Word → Word
  div : Word → Word → Word
  ofNat : Nat → Word
  half : Word

/-- What the scan uses from outside the repository: the dispatch of a guest
function on the scanning thread, the host's floating point, and what a twelve-byte
copy from or to a shorter vertex record reads or leaves behind. -/
structure Env (Guest : Type) where
  callIndirect : Word → Machine Guest → Machine Guest
  float : FloatOps
  overrunRead : List Byte → List Byte
  overrunWrite : List Byte → List Byte → List Byte

/-- What a scan did, in order. -/
inductive ScanEvent
  /-- A packet was acted on. -/
  | packet (depth : Int) (bufferAddr offset header : Word)
  /-- An indirect buffer was followed. -/
  | indirect (targetAddr targetDwordCount : Word)
  /-- The graphics interrupt callback was called with these arguments. -/
  | interrupt (callback : Word) (source context : BitVec 64)
deriving DecidableEq, Repr

abbrev ScanTrace := List ScanEvent

/-- A tracer that has just been constructed. -/
def Machine.initial {Guest : Type} (mem : Memory) (guest : Guest) : Machine Guest where
  mem := mem
  ctx := ⟨0, 0⟩
  guest := guest
  gpuState := .initial
  frameDrawList := .empty
  shaderTranslationCache := .initial
  ringBufferBase := 0
  ringBufferSize := 0
  rptrWriteBackAddr := 0
  identifierAddr := 0
  graphicsInterruptCallback := 0
  graphicsInterruptContext := 0
  lastParsedOffset := 0
  frameCounter := 0
  vblankCounter := 0
  systemCmdBufAddr := 0
  systemCmdBufSize := 0
  systemCmdBufLastOffset := 0
  lastWptrDwords := 0
  wptrObserved := false

/-- Guest code that does nothing, and floating point that no draw uses. -/
def Env.idle {Guest : Type} : Env Guest where
  callIndirect := fun _ m => m
  float := ⟨fun x _ => x, fun x _ => x, fun x _ => x, fun x _ => x, BitVec.ofNat 32, 0⟩
  overrunRead := fun bytes => bytes
  overrunWrite := fun bytes _ => bytes

end BumpinHost.Gpu
