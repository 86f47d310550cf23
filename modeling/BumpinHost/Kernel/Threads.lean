import BumpinHost.Kernel.Objects
import BumpinHost.Library.Transition

/-!
# Threads that wait, signal and create

The state lock makes each critical section one step; a call that enters it twice,
or notifies after leaving it, is several.  A waiter whose predicate is false parks
and looks again only when it has been notified or its timeout has passed.
-/

namespace BumpinHost.Kernel

/-- Arguments of `NtWaitForSingleObjectEx`; `timed` for a relative timeout. -/
structure WaitCall where
  handle : Word
  alertable : Bool
  timed : Bool
deriving DecidableEq, Repr

/-- Calls that can make some waiter's predicate true. -/
inductive MutatingCall
  | ntSetEvent (handle : Word)
  | ntReleaseMutant (handle : Word)
  | ntQueueApcThread (targetThreadHandle : Word) (apc : ApcEntry)
  | ntReadFile (validHandle : Bool) (eventHandle apcRoutine apcContext ioStatusBlockPtr : Word)
  | exTerminateThread
  | threadExit
deriving DecidableEq, Repr

/-- Steps of a mutating call. -/
inductive MicroOp
  | signal (handle : Word)
  | release (handle : Word)
  | queueApc (targetThreadHandle : Word) (apc : ApcEntry)
  | notifyAll
  | signalAndNotify (handle : Word)
  | exit
deriving DecidableEq, Repr

/-- The steps of a call by the thread with handle `self`, in code order. -/
def microOps (self : Word) : MutatingCall → List MicroOp
  | .ntSetEvent handle => [.signal handle, .notifyAll]
  | .ntReleaseMutant handle => [.release handle]
  | .ntQueueApcThread targetThreadHandle apc => [.queueApc targetThreadHandle apc, .notifyAll]
  | .ntReadFile validHandle eventHandle apcRoutine apcContext ioStatusBlockPtr =>
      if validHandle then
        (if apcRoutine &&& ~~~1 ≠ 0 ∧ apcContext ≠ 0 then
          [.queueApc self ⟨apcRoutine &&& ~~~1, apcContext, ioStatusBlockPtr, 0⟩, .notifyAll]
        else []) ++
        (if eventHandle ≠ 0 then [.signalAndNotify eventHandle] else [])
      else []
  | .exTerminateThread =>
      (if self ≠ 0 then [.signal self] else []) ++ [.notifyAll, .exit]
  | .threadExit => [.signal self, .notifyAll, .exit]

inductive Activity
  | absent
  | running
  | calling (ops : List MicroOp)
  | parked (call : WaitCall) (notified : Bool)
  /-- Woken for a procedure call, the lock already released. -/
  | delivering
deriving DecidableEq, Repr

/-- A thread with no steps left in its call has returned from it. -/
def Activity.afterOps : List MicroOp → Activity
  | [] => .running
  | op :: rest => .calling (op :: rest)

structure Thread where
  self : Word
  activity : Activity
  /-- Waits whose procedure call is still running. -/
  apcRoutines : Nat
deriving DecidableEq, Repr

abbrev ThreadId := Nat

structure KernelState where
  handleTable : HandleTable
  nextHandle : Word
  apcQueues : ApcQueues
  threads : ThreadId → Thread

inductive WaitResult
  | invalidHandle
  | parked
  | success
  | timedOut
  | userApc
deriving DecidableEq, Repr

/-- Calls that create a handle. -/
inductive CreateCall
  | ntCreateMutant (initialOwner : Bool)
  | ntCreateEvent (autoReset initialState : Bool)
  | xamNotifyCreateListener
  | openDevice
  | openDiscFile
  | exCreateThread (child : ThreadId)
deriving DecidableEq, Repr

def createdObject : CreateCall → HandleObject
  | .ntCreateMutant initialOwner => ⟨.mutant, !initialOwner, false⟩
  | .ntCreateEvent autoReset initialState => ⟨.event, initialState, autoReset⟩
  | .xamNotifyCreateListener => ⟨.generic, false, false⟩
  | .openDevice => ⟨.generic, true, false⟩
  | .openDiscFile => ⟨.file, true, false⟩
  | .exCreateThread _ => ⟨.thread, false, false⟩

namespace KernelState

variable (s : KernelState) (t : ThreadId)

def setActivity (activity : Activity) : KernelState :=
  { s with threads := Function.update s.threads t { s.threads t with activity := activity } }

def hasPendingApc (self : Word) : Bool := !(s.apcQueues self).isEmpty

def wakePredicate (self : Word) (call : WaitCall) : Bool :=
  (s.handleTable.subscript call.handle).1.signaled ||
    (call.alertable && s.hasPendingApc self)

/-- Every parked thread is notified. -/
def notifyAll : KernelState :=
  { s with threads := fun u =>
      match (s.threads u).activity with
      | .parked call _ => { s.threads u with activity := .parked call true }
      | _ => s.threads u }

def applyOp (op : MicroOp) (rest : List MicroOp) : KernelState :=
  match op with
  | .signal handle =>
      { s with handleTable := s.handleTable.signal handle }.setActivity t (.afterOps rest)
  | .release handle =>
      { s with handleTable := s.handleTable.signal handle }.setActivity t (.afterOps rest)
  | .queueApc targetThreadHandle apc =>
      { s with
        apcQueues := Function.update s.apcQueues targetThreadHandle
          (s.apcQueues targetThreadHandle ++ [apc]) }.setActivity t (.afterOps rest)
  | .notifyAll => s.notifyAll.setActivity t (.afterOps rest)
  | .signalAndNotify handle =>
      { s with handleTable := s.handleTable.signal handle }.notifyAll.setActivity t
        (.afterOps rest)
  | .exit => s.setActivity t .absent

/-- What a wait does once its predicate holds: a pending procedure call comes first, and
only a wait that succeeds takes the signal. -/
def finishWait (call : WaitCall) : KernelState × WaitResult :=
  if call.alertable && s.hasPendingApc (s.threads t).self then
    (s.setActivity t .delivering, .userApc)
  else
    ({ s with handleTable := s.handleTable.consume call.handle }.setActivity t .running,
      .success)

/-- One evaluation of the predicate, under the lock. -/
def evaluateWait (call : WaitCall) (otherwise : Activity) (result : WaitResult) :
    KernelState × WaitResult :=
  let looked := { s with handleTable := (s.handleTable.subscript call.handle).2 }
  if s.wakePredicate (s.threads t).self call then
    looked.finishWait t call
  else
    (looked.setActivity t otherwise, result)

/-- A wait from its call to its first release of the lock. -/
def enterWait (call : WaitCall) : KernelState × WaitResult :=
  match s.handleTable call.handle with
  | none => (s, .invalidHandle)
  | some _ => s.evaluateWait t call (.parked call false) .parked

def wakeWait (call : WaitCall) : KernelState × WaitResult :=
  s.evaluateWait t call (.parked call false) .parked

/-- When the timeout passes the predicate is evaluated once more. -/
def timeOutWait (call : WaitCall) : KernelState × WaitResult :=
  s.evaluateWait t call .running .timedOut

/-- `TryDeliverOneApc` after the wait has released the lock. -/
def tryDeliverOneApc : KernelState :=
  match s.apcQueues (s.threads t).self with
  | [] => s.setActivity t .running
  | _ :: rest =>
      { s with
        apcQueues := Function.update s.apcQueues (s.threads t).self rest
        threads := Function.update s.threads t
          { s.threads t with
            activity := .running, apcRoutines := (s.threads t).apcRoutines + 1 } }

def returnUserApc : KernelState :=
  { s with
    threads := Function.update s.threads t
      { s.threads t with apcRoutines := (s.threads t).apcRoutines - 1 } }

/-- A new handle, and the new thread when one is created. -/
def create (call : CreateCall) : KernelState :=
  { s with
    handleTable := s.handleTable.insert s.nextHandle (createdObject call)
    nextHandle := s.nextHandle + 1
    threads :=
      match call with
      | .exCreateThread child => Function.update s.threads child ⟨s.nextHandle, .running, 0⟩
      | _ => s.threads }

def ntClose (handle : Word) : KernelState :=
  { s with handleTable := s.handleTable.erase handle }

end KernelState

inductive KernelLabel
  | begin (t : ThreadId) (call : MutatingCall)
  | micro (t : ThreadId) (op : MicroOp)
  | enter (t : ThreadId) (call : WaitCall) (result : WaitResult)
  | wake (t : ThreadId) (call : WaitCall) (result : WaitResult)
  | timeOut (t : ThreadId) (call : WaitCall) (result : WaitResult)
  | deliver (t : ThreadId)
  | returnUserApc (t : ThreadId)
  | create (t : ThreadId) (call : CreateCall) (handle : Word)
  | close (t : ThreadId) (handle : Word)
deriving DecidableEq, Repr

/-- One critical section, or one notification, of some thread. -/
inductive KernelStep (s : KernelState) : KernelLabel → KernelState → Prop
  | begin (t : ThreadId) (call : MutatingCall) :
      (s.threads t).activity = .running →
      KernelStep s (.begin t call)
        (s.setActivity t (.afterOps (microOps (s.threads t).self call)))
  | micro (t : ThreadId) (op : MicroOp) {rest : List MicroOp} :
      (s.threads t).activity = .calling (op :: rest) →
      KernelStep s (.micro t op) (s.applyOp t op rest)
  | enter (t : ThreadId) (call : WaitCall) :
      (s.threads t).activity = .running →
      KernelStep s (.enter t call (s.enterWait t call).2) (s.enterWait t call).1
  | wake (t : ThreadId) (call : WaitCall) :
      (s.threads t).activity = .parked call true →
      KernelStep s (.wake t call (s.wakeWait t call).2) (s.wakeWait t call).1
  | timeOut (t : ThreadId) (call : WaitCall) {notified : Bool} :
      (s.threads t).activity = .parked call notified →
      call.timed = true →
      KernelStep s (.timeOut t call (s.timeOutWait t call).2) (s.timeOutWait t call).1
  | deliver (t : ThreadId) :
      (s.threads t).activity = .delivering →
      KernelStep s (.deliver t) (s.tryDeliverOneApc t)
  | returnUserApc (t : ThreadId) :
      (s.threads t).activity = .running →
      0 < (s.threads t).apcRoutines →
      KernelStep s (.returnUserApc t) (s.returnUserApc t)
  | create (t : ThreadId) (call : CreateCall) :
      (s.threads t).activity = .running →
      (∀ child, call = .exCreateThread child → (s.threads child).activity = .absent) →
      KernelStep s (.create t call s.nextHandle) (s.create call)
  | close (t : ThreadId) (handle : Word) :
      (s.threads t).activity = .running →
      KernelStep s (.close t handle) (s.ntClose handle)

/-- No thread is inside a wait or another modelled call. -/
def KernelState.IsQuiescent (s : KernelState) : Prop :=
  ∀ t, (s.threads t).activity = .running ∨ (s.threads t).activity = .absent

/-- Before anything has been created. -/
def KernelState.IsBoot (s : KernelState) : Prop :=
  s.IsQuiescent ∧ s.handleTable = (fun _ => none) ∧ s.nextHandle = firstHandle

def kernelSystem (init : KernelState → Prop) : Transition.System KernelState KernelLabel where
  init := init
  step := KernelStep

/-- Two threads and no objects. -/
def twoThreads : KernelState where
  handleTable _ := none
  nextHandle := firstHandle
  apcQueues _ := []
  threads t := ⟨BitVec.ofNat 32 t, if t < 2 then .running else .absent, 0⟩

theorem twoThreads_isBoot : twoThreads.IsBoot := by
  refine ⟨?_, rfl, rfl⟩
  intro t
  simp only [twoThreads]
  split_ifs <;> simp

theorem Activity.afterOps_ne_parked (ops : List MicroOp) (call : WaitCall) (notified : Bool) :
    Activity.afterOps ops ≠ .parked call notified := by
  cases ops <;> simp [Activity.afterOps]

namespace KernelState

variable (s : KernelState) (t : ThreadId)

@[simp]
theorem setActivity_handleTable (activity : Activity) :
    (s.setActivity t activity).handleTable = s.handleTable := rfl

@[simp]
theorem setActivity_activity_same (activity : Activity) :
    ((s.setActivity t activity).threads t).activity = activity := by
  simp [setActivity]

@[simp]
theorem setActivity_self (activity : Activity) (u : ThreadId) :
    ((s.setActivity t activity).threads u).self = (s.threads u).self := by
  by_cases same : u = t
  · subst same
    simp [setActivity]
  · simp [setActivity, Function.update_of_ne same]

theorem setActivity_activity_of_ne {t u : ThreadId} (different : u ≠ t) (activity : Activity) :
    ((s.setActivity t activity).threads u).activity = (s.threads u).activity := by
  simp [setActivity, Function.update_of_ne different]

/-- After a notification no waiter is parked and un-notified. -/
theorem notifyAll_notified (u : ThreadId) (call : WaitCall) :
    (s.notifyAll.threads u).activity ≠ .parked call false := by
  unfold notifyAll
  dsimp only
  split
  · simp
  · rename_i notParked
    exact notParked call false

@[simp]
theorem wakePredicate_eq (self : Word) (call : WaitCall) :
    s.wakePredicate self call =
      (s.handleTable.isSignaled call.handle ||
        (call.alertable && s.hasPendingApc self)) := by
  rw [wakePredicate, HandleTable.subscript_signaled]

end KernelState

end BumpinHost.Kernel
