import BumpinHost.Library.LockOrder
import BumpinHost.Library.Transition

/-!
# The host's internal locks

What each export, the pump thread and the render thread lock, in code order.
Guest code may call any export; it runs on the guest's threads, in an
asynchronous procedure call, and in the graphics interrupt callback, which the
pump thread runs while it holds the tracer's mutex.
-/

namespace BumpinHost.Kernel

inductive HostLock
  /-- `g_stateMutex` -/
  | state
  /-- `GpuCommandTracer::mutex_`, which is recursive -/
  | tracer
  /-- `FrameDrawList::mutex_` -/
  | drawList
  | vertexCache
  | pixelCache
  /-- `XdvdfsImage::fileMutex_` -/
  | file
deriving DecidableEq, Repr

/-- Where a first call of `VdGetSystemCommandBuffer` is: it takes the state mutex, checks
the address again, and registers the buffer with the tracer, which takes its mutex. -/
inductive RegistrationPhase
  | lockState
  | check
  | lockTracer
  | unlockTracer
  | unlockState
deriving DecidableEq, Repr

inductive LockAction
  | acquire (lock : HostLock)
  | release (lock : HostLock)
  | registration (phase : RegistrationPhase)
  /-- Any calls of exports, and a return. -/
  | guestCode
  /-- `pthread_exit` -/
  | threadExit
deriving DecidableEq, Repr

namespace LockAction

/-- The lock that the action waits for. -/
def wants : LockAction → Option HostLock
  | .acquire lock => some lock
  | .registration .lockState => some .state
  | .registration .lockTracer => some .tracer
  | _ => none

/-- The lock that the action gives back. -/
def gives : LockAction → Option HostLock
  | .release lock => some lock
  | .registration .unlockTracer => some .tracer
  | .registration .unlockState => some .state
  | _ => none

/-- What is left of the action itself once it has its lock, or has given it back. -/
def rest : LockAction → List LockAction
  | .registration .lockState => [.registration .check]
  | .registration .lockTracer => [.registration .unlockTracer]
  | .registration .unlockTracer => [.registration .unlockState]
  | _ => []

end LockAction

open LockAction

/-- A scope with a lock guard and no other lock in it. -/
def critical (lock : HostLock) : List LockAction := [.acquire lock, .release lock]

/-- `OpenGuestFile`: each directory on the path is read under the file mutex, and a handle is
made under the state mutex. -/
def openGuestFile (directoriesRead : Nat) (opened : Bool) : List LockAction :=
  (List.replicate directoriesRead (critical .file)).flatten ++
    if opened then critical .state else []

/-- `TryDeliverOneApc` -/
def tryDeliverOneApcActions (pending : Bool) : List LockAction :=
  critical .state ++ if pending then [.guestCode] else []

inductive Export
  | rtlInitializeCriticalSection
  | rtlEnterCriticalSection
  | rtlLeaveCriticalSection
  | kfAcquireSpinLock
  | kfReleaseSpinLock
  | keTlsAlloc
  | ntAllocateVirtualMemory
  | ntCreateMutant
  | ntCreateEvent
  | ntReleaseMutant
  /-- A wait that is woken `wakeups` times before it is over. -/
  | ntWaitForSingleObjectEx (wakeups : Nat) (userApc pending : Bool)
  | ntQueueApcThread
  | ntClose
  | ntCreateFile (directoriesRead : Nat) (opened : Bool)
  | ntOpenFile (directoriesRead : Nat) (opened : Bool)
  | ntReadFile (reads queuesApc signalsEvent : Bool)
  | ntQueryInformationFile
  | ntSetInformationFile
  | mmAllocatePhysicalMemoryEx
  | xamNotifyCreateListener
  | xNotifyGetNext (idPtrGiven : Bool)
  | exCreateThread
  | exTerminateThread (hasHandle : Bool)
  | vdSetGraphicsInterruptCallback
  | vdSetSystemCommandBufferGpuIdentifierAddress (addrGiven : Bool)
  | vdInitializeRingBuffer
  | vdEnableRingBufferRPtrWriteBack
  | vdGetSystemCommandBuffer
  | vdSwap (hasCallback : Bool)
  | ntSetEvent
  /-- An export that takes none of these locks. -/
  | lockFree
deriving DecidableEq, Repr

/-- The locking actions of a call; `bufferSet` is what it reads of
`g_systemCommandBufferAddr` outside the lock. -/
def Export.actions (bufferSet : Bool) : Export → List LockAction
  | .rtlInitializeCriticalSection => critical .state
  | .rtlEnterCriticalSection => critical .state
  | .rtlLeaveCriticalSection => critical .state
  | .kfAcquireSpinLock => critical .state
  | .kfReleaseSpinLock => critical .state
  | .keTlsAlloc => critical .state
  | .ntAllocateVirtualMemory => critical .state
  | .ntCreateMutant => critical .state
  | .ntCreateEvent => critical .state
  | .ntReleaseMutant => critical .state
  | .ntWaitForSingleObjectEx wakeups userApc pending =>
      -- the condition variable gives the mutex back and takes it again at each wakeup
      .acquire .state :: (List.replicate wakeups [.release .state, .acquire .state]).flatten ++
        .release .state :: if userApc then tryDeliverOneApcActions pending else []
  | .ntQueueApcThread => critical .state
  | .ntClose => critical .state
  | .ntCreateFile directoriesRead opened => openGuestFile directoriesRead opened
  | .ntOpenFile directoriesRead opened => openGuestFile directoriesRead opened
  | .ntReadFile reads queuesApc signalsEvent =>
      .acquire .state :: (if reads then critical .file else []) ++
        .release .state :: (if queuesApc then critical .state else []) ++
          if signalsEvent then critical .state else []
  | .ntQueryInformationFile => critical .state
  | .ntSetInformationFile => critical .state
  | .mmAllocatePhysicalMemoryEx => critical .state
  | .xamNotifyCreateListener => critical .state
  | .xNotifyGetNext idPtrGiven => if idPtrGiven then critical .state else []
  | .exCreateThread => critical .state
  | .exTerminateThread hasHandle =>
      (if hasHandle then critical .state else []) ++ [.threadExit]
  | .vdSetGraphicsInterruptCallback => critical .tracer
  | .vdSetSystemCommandBufferGpuIdentifierAddress addrGiven =>
      if addrGiven then critical .tracer else []
  | .vdInitializeRingBuffer => critical .tracer
  | .vdEnableRingBufferRPtrWriteBack => critical .tracer
  | .vdGetSystemCommandBuffer => if bufferSet then [] else [.registration .lockState]
  | .vdSwap hasCallback =>
      critical .tracer ++ (if hasCallback then critical .tracer ++ [.guestCode] else []) ++
        critical .drawList
  | .ntSetEvent => critical .state
  | .lockFree => []

/-- What a packet of a frame makes the scanner lock. -/
inductive FramePacket
  | imLoadImmediateVertex (cached : Bool)
  | imLoadImmediatePixel (cached : Bool)
  | drawIndx2 (resolved recorded : Bool)
  | interrupt (dispatched : Bool)
  | other
deriving DecidableEq, Repr

def FramePacket.actions : FramePacket → List LockAction
  | .imLoadImmediateVertex cached =>
      critical .vertexCache ++ if cached then [] else critical .vertexCache
  | .imLoadImmediatePixel cached =>
      critical .pixelCache ++ if cached then [] else critical .pixelCache
  | .drawIndx2 resolved recorded =>
      (if resolved then critical .vertexCache else []) ++
        if recorded then critical .drawList else []
  | .interrupt dispatched => if dispatched then [.guestCode] else []
  | .other => []

/-- `HasRingBuffer`, `ObserveWritePointer` and `ScanAndTraceFrame`. -/
def pumpTick (hasRing : Bool) (packets : List FramePacket) : List LockAction :=
  critical .tracer ++
    if hasRing then
      critical .tracer ++
        .acquire .tracer :: (packets.map FramePacket.actions).flatten ++ [.release .tracer]
    else []

/-- `TakeReady` and `TryUpdateRealPipeline`. -/
def renderTick : List LockAction :=
  critical .drawList ++ critical .vertexCache ++ critical .pixelCache ++
    critical .vertexCache ++ critical .pixelCache

/-- The body of a guest thread: its entry point, and then its thread object. -/
def guestThread : List LockAction := .guestCode :: critical .state

structure LockThread where
  held : List HostLock
  program : List LockAction
deriving DecidableEq, Repr

inductive HostThread
  | pump
  | render
  | guest (index : Nat)
deriving DecidableEq, Repr

structure LockState where
  threads : HostThread → LockThread
  /-- `g_systemCommandBufferAddr` is not 0. -/
  bufferSet : Bool

namespace LockState

variable (s : LockState) (t : HostThread)

def setThread (thread : LockThread) : LockState :=
  { s with threads := Function.update s.threads t thread }

/-- Nobody else holds the lock, and the thread itself only if it is the recursive one. -/
def Available (lock : HostLock) : Prop :=
  (∀ u, u ≠ t → lock ∉ (s.threads u).held) ∧
    (lock ∈ (s.threads t).held → lock = .tracer)

/-- The lock that the thread's next action waits for. -/
def wants : Option HostLock := (s.threads t).program.head?.bind LockAction.wants

end LockState

inductive LockLabel
  | acquire (t : HostThread) (lock : HostLock)
  | release (t : HostThread) (lock : HostLock)
  | check (t : HostThread)
  | call (t : HostThread) (callee : Export)
  | returnFrom (t : HostThread)
  | unwind (t : HostThread)
  | tick (hasRing : Bool) (packets : List FramePacket)
  | renderTick
  | start (index : Nat)
deriving DecidableEq, Repr

inductive LockStep (s : LockState) : LockLabel → LockState → Prop
  | acquire (t : HostThread) {action : LockAction} {rest : List LockAction} {lock : HostLock} :
      (s.threads t).program = action :: rest → action.wants = some lock →
      s.Available t lock →
      LockStep s (.acquire t lock)
        (s.setThread t ⟨lock :: (s.threads t).held, action.rest ++ rest⟩)
  | release (t : HostThread) {action : LockAction} {rest : List LockAction} {lock : HostLock} :
      (s.threads t).program = action :: rest → action.gives = some lock →
      LockStep s (.release t lock)
        (s.setThread t ⟨(s.threads t).held.erase lock, action.rest ++ rest⟩)
  /-- The second look at the address, under the state mutex. -/
  | check (t : HostThread) {rest : List LockAction} :
      (s.threads t).program = .registration .check :: rest →
      LockStep s (.check t)
        ({ s with bufferSet := true }.setThread t
          ⟨(s.threads t).held,
            .registration (if s.bufferSet then .unlockState else .lockTracer) :: rest⟩)
  | call (t : HostThread) (callee : Export) {rest : List LockAction} :
      (s.threads t).program = .guestCode :: rest →
      LockStep s (.call t callee)
        (s.setThread t
          ⟨(s.threads t).held, callee.actions s.bufferSet ++ .guestCode :: rest⟩)
  | returnFrom (t : HostThread) {rest : List LockAction} :
      (s.threads t).program = .guestCode :: rest →
      LockStep s (.returnFrom t) (s.setThread t ⟨(s.threads t).held, rest⟩)
  /-- The guards on the stack of a thread that has ended may or may not run. -/
  | unwind (t : HostThread) {rest : List LockAction} :
      (s.threads t).program = .threadExit :: rest →
      LockStep s (.unwind t) (s.setThread t ⟨[], [.threadExit]⟩)
  | tick (hasRing : Bool) (packets : List FramePacket) :
      (s.threads .pump).program = [] →
      LockStep s (.tick hasRing packets)
        (s.setThread .pump ⟨(s.threads .pump).held, pumpTick hasRing packets⟩)
  | renderTick :
      (s.threads .render).program = [] →
      LockStep s .renderTick
        (s.setThread .render ⟨(s.threads .render).held, BumpinHost.Kernel.renderTick⟩)
  | start (index : Nat) :
      (s.threads (.guest index)).program = [] →
      LockStep s (.start index)
        (s.setThread (.guest index) ⟨(s.threads (.guest index)).held, guestThread⟩)

/-- No thread is running yet. -/
def lockBoot : LockState where
  threads _ := ⟨[], []⟩
  bufferSet := false

def lockSystem : Transition.System LockState LockLabel where
  init s := s = lockBoot
  step := LockStep

namespace LockState

def Holds (s : LockState) (t : HostThread) (lock : HostLock) : Prop :=
  lock ∈ (s.threads t).held

def WaitsFor (s : LockState) (t : HostThread) (lock : HostLock) : Prop :=
  s.wants t = some lock

/-- Two threads each hold a lock that the other is blocked acquiring. -/
def Deadlocked (s : LockState) : Prop :=
  ∃ t u first second, LockOrder.MutualWait s.Holds s.WaitsFor t u first second

end LockState

end BumpinHost.Kernel
