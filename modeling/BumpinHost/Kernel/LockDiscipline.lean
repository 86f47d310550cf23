import BumpinHost.Kernel.Locks

/-!
# The order in which the locks are taken

The tracer's mutex comes first, the state mutex second and the others last.  A
program is disciplined when it takes its locks in that order from what it already
holds; guest code runs with nothing but the tracer's mutex.  The first call of
`VdGetSystemCommandBuffer` is the one place that takes the tracer's mutex under
the state mutex.
-/

namespace BumpinHost.Kernel

open LockAction

variable {held : List HostLock} {program tail : List LockAction} {lock : HostLock}

def HostLock.rank : HostLock → Nat
  | .tracer => 0
  | .state => 1
  | .file | .drawList | .vertexCache | .pixelCache => 2

/-- Nothing but the tracer's mutex, which may be held several times. -/
def OnlyTracer (held : List HostLock) : Prop := ∀ lock ∈ held, lock = .tracer

/-- The lock may be taken over those held. -/
def MayTake (held : List HostLock) (lock : HostLock) : Prop :=
  ∀ other ∈ held, other.rank < lock.rank ∨ other = .tracer ∧ lock = .tracer

/-- The program takes the state mutex before it runs guest code or ends. -/
def owesState : List LockAction → Bool
  | [] => false
  | .guestCode :: _ => false
  | .threadExit :: _ => false
  | action :: rest => action.wants == some .state || owesState rest

/-- What the next actions may be when these locks are held and no registration is under
way. -/
def Disciplined : List HostLock → List LockAction → Prop
  | held, [] => held = []
  | held, .acquire lock :: rest =>
      MayTake held lock ∧ (lock = .tracer → owesState rest = false) ∧
        Disciplined (lock :: held) rest
  | held, .release lock :: rest => Disciplined (held.erase lock) rest
  | held, .registration .lockState :: rest => OnlyTracer held ∧ Disciplined held rest
  | _, .registration _ :: _ => False
  | held, .guestCode :: rest =>
      OnlyTracer held ∧ (.tracer ∈ held → owesState rest = false) ∧ Disciplined held rest
  | _, .threadExit :: _ => True

/-- The same for a program that may be in the middle of a registration. -/
def MidDisciplined : List HostLock → List LockAction → Prop
  | held, .registration .check :: rest =>
      ∃ outer, held = .state :: outer ∧ OnlyTracer outer ∧ Disciplined outer rest
  | held, .registration .lockTracer :: rest =>
      ∃ outer, held = .state :: outer ∧ OnlyTracer outer ∧ Disciplined outer rest
  | held, .registration .unlockTracer :: rest =>
      ∃ outer, held = .tracer :: .state :: outer ∧ OnlyTracer outer ∧ Disciplined outer rest
  | held, .registration .unlockState :: rest =>
      ∃ outer, held = .state :: outer ∧ OnlyTracer outer ∧ Disciplined outer rest
  | held, program => Disciplined held program

theorem Disciplined.mid (disciplined : Disciplined held program) :
    MidDisciplined held program := by
  unfold MidDisciplined
  split
  all_goals first | exact disciplined | cases disciplined

@[simp]
theorem disciplined_acquire_release :
    Disciplined (lock :: held) (.release lock :: tail) ↔ Disciplined held tail := by
  change Disciplined ((lock :: held).erase lock) tail ↔ _
  rw [List.erase_cons_head]

theorem OnlyTracer.mayTake (only : OnlyTracer held) (lock : HostLock) : MayTake held lock := by
  intro other member
  rw [only other member]
  cases lock with
  | tracer => exact Or.inr ⟨rfl, rfl⟩
  | _ => exact Or.inl (by decide)

theorem MayTake.file_under_state (only : OnlyTracer held) : MayTake (.state :: held) .file := by
  intro other member
  rcases List.mem_cons.mp member with rfl | outer
  · exact Or.inl (by decide)
  · exact only.mayTake .file other outer

/-- A guarded scope in a disciplined place. -/
theorem Disciplined.critical (mayTake : MayTake held lock) (rest : Disciplined held tail)
    (quiet : lock = .tracer → owesState tail = false) :
    Disciplined held (critical lock ++ tail) := by
  refine ⟨mayTake, ?_, disciplined_acquire_release.mpr rest⟩
  rintro rfl
  exact quiet rfl

theorem Disciplined.guestCode (only : OnlyTracer held) (rest : Disciplined held tail)
    (quiet : owesState tail = false) : Disciplined held (.guestCode :: tail) :=
  ⟨only, fun _ => quiet, rest⟩

/-- Scopes of one lock, any number of times. -/
theorem Disciplined.criticals (mayTake : MayTake held lock) (different : lock ≠ .tracer)
    (rest : Disciplined held tail) (count : Nat) :
    Disciplined held ((List.replicate count (Kernel.critical lock)).flatten ++ tail) := by
  induction count with
  | zero => exact rest
  | succ count ih =>
      rw [List.replicate_succ, List.flatten_cons, List.append_assoc]
      exact Disciplined.critical mayTake ih (fun same => absurd same different)

/-- A wait gives the state mutex back and takes it again. -/
theorem Disciplined.wakeups (only : OnlyTracer held)
    (rest : Disciplined (.state :: held) tail) (count : Nat) :
    Disciplined (.state :: held)
      ((List.replicate count [LockAction.release .state, .acquire .state]).flatten ++ tail) := by
  induction count with
  | zero => exact rest
  | succ count ih =>
      rw [List.replicate_succ, List.flatten_cons, List.append_assoc]
      exact disciplined_acquire_release.mpr ⟨only.mayTake .state, by simp, ih⟩

/-- Where an export is called: under nothing but the tracer's mutex, with nothing owed. -/
structure CallSite (held : List HostLock) (tail : List LockAction) : Prop where
  only : OnlyTracer held
  rest : Disciplined held tail
  quiet : owesState tail = false

namespace CallSite

variable (site : CallSite held tail)

include site

theorem state : Disciplined held (critical .state ++ tail) :=
  Disciplined.critical (site.only.mayTake _) site.rest (by simp)

theorem tracer : Disciplined held (critical .tracer ++ tail) :=
  Disciplined.critical (site.only.mayTake _) site.rest (fun _ => site.quiet)

theorem optional {actions : List LockAction} (chosen : Bool)
    (taken : Disciplined held (actions ++ tail)) :
    Disciplined held ((if chosen then actions else []) ++ tail) := by
  cases chosen with
  | false => exact site.rest
  | true => exact taken

theorem openGuestFile (directoriesRead : Nat) (opened : Bool) :
    Disciplined held (openGuestFile directoriesRead opened ++ tail) := by
  rw [Kernel.openGuestFile, List.append_assoc]
  exact Disciplined.criticals (site.only.mayTake _) (by decide)
    (site.optional opened site.state) _

theorem ntReadFile (reads queuesApc signalsEvent bufferSet : Bool) :
    Disciplined held
      ((Export.ntReadFile reads queuesApc signalsEvent).actions bufferSet ++ tail) := by
  have signal := site.optional signalsEvent site.state
  have queue : Disciplined held ((if queuesApc then critical .state else []) ++
      ((if signalsEvent then critical .state else []) ++ tail)) := by
    cases queuesApc with
    | false => exact signal
    | true => exact Disciplined.critical (site.only.mayTake _) signal (by simp)
  have unlock : Disciplined (.state :: held) (.release .state :: _) :=
    disciplined_acquire_release.mpr queue
  simp only [Export.actions, List.cons_append, List.append_assoc]
  refine ⟨site.only.mayTake _, by simp, ?_⟩
  cases reads with
  | false => exact unlock
  | true => exact Disciplined.critical (MayTake.file_under_state site.only) unlock (by simp)

theorem tryDeliverOneApc (pending : Bool) :
    Disciplined held (tryDeliverOneApcActions pending ++ tail) := by
  rw [tryDeliverOneApcActions, List.append_assoc]
  exact Disciplined.critical (site.only.mayTake _)
    (site.optional pending (Disciplined.guestCode site.only site.rest site.quiet)) (by simp)

theorem ntWaitForSingleObjectEx (wakeups : Nat) (userApc pending bufferSet : Bool) :
    Disciplined held
      ((Export.ntWaitForSingleObjectEx wakeups userApc pending).actions bufferSet ++ tail) := by
  simp only [Export.actions, List.cons_append, List.append_assoc]
  refine ⟨site.only.mayTake _, by simp, Disciplined.wakeups site.only ?_ _⟩
  exact disciplined_acquire_release.mpr (site.optional userApc (site.tryDeliverOneApc pending))

theorem exTerminateThread (hasHandle bufferSet : Bool) :
    Disciplined held ((Export.exTerminateThread hasHandle).actions bufferSet ++ tail) := by
  rw [Export.actions, List.append_assoc]
  cases hasHandle with
  | false => trivial
  | true => exact Disciplined.critical (site.only.mayTake _) trivial (by simp)

theorem vdSwap (hasCallback bufferSet : Bool) :
    Disciplined held ((Export.vdSwap hasCallback).actions bufferSet ++ tail) := by
  have swapReady : Disciplined held (critical .drawList ++ tail) :=
    Disciplined.critical (site.only.mayTake _) site.rest (by simp)
  have quiet : owesState (critical .drawList ++ tail) = false := site.quiet
  rw [Export.actions, List.append_assoc, List.append_assoc]
  cases hasCallback with
  | false => exact Disciplined.critical (site.only.mayTake _) swapReady (fun _ => quiet)
  | true =>
      have callback := Disciplined.guestCode site.only swapReady quiet
      have context : Disciplined held (critical .tracer ++ .guestCode :: critical .drawList ++ tail) :=
        Disciplined.critical (site.only.mayTake _) callback (fun _ => rfl)
      exact Disciplined.critical (site.only.mayTake _) context (fun _ => rfl)

/-- Every export is disciplined where guest code calls it. -/
theorem actions (callee : Export) (bufferSet : Bool) :
    Disciplined held (callee.actions bufferSet ++ tail) := by
  cases callee with
  | ntWaitForSingleObjectEx wakeups userApc pending =>
      exact site.ntWaitForSingleObjectEx wakeups userApc pending bufferSet
  | ntCreateFile directoriesRead opened => exact site.openGuestFile directoriesRead opened
  | ntOpenFile directoriesRead opened => exact site.openGuestFile directoriesRead opened
  | ntReadFile reads queuesApc signalsEvent =>
      exact site.ntReadFile reads queuesApc signalsEvent bufferSet
  | xNotifyGetNext idPtrGiven => exact site.optional idPtrGiven site.state
  | exTerminateThread hasHandle => exact site.exTerminateThread hasHandle bufferSet
  | vdSetGraphicsInterruptCallback => exact site.tracer
  | vdSetSystemCommandBufferGpuIdentifierAddress addrGiven =>
      exact site.optional addrGiven site.tracer
  | vdInitializeRingBuffer => exact site.tracer
  | vdEnableRingBufferRPtrWriteBack => exact site.tracer
  | vdGetSystemCommandBuffer =>
      rw [Export.actions]
      cases bufferSet with
      | true => exact site.rest
      | false => exact ⟨site.only, site.rest⟩
  | vdSwap hasCallback => exact site.vdSwap hasCallback bufferSet
  | lockFree => exact site.rest
  | _ => exact site.state

/-- After a packet the pump is where it was before it. -/
theorem packet (packet : FramePacket) : CallSite held (packet.actions ++ tail) := by
  have lock {other : HostLock} {after : List LockAction} (leaf : other ≠ .tracer)
      (noState : other ≠ .state) (next : CallSite held after) :
      CallSite held (critical other ++ after) := by
    refine ⟨site.only, ?_, ?_⟩
    · exact Disciplined.critical (site.only.mayTake _) next.rest (fun same => absurd same leaf)
    · simpa [critical, owesState, LockAction.wants, noState] using next.quiet
  cases packet with
  | imLoadImmediateVertex cached =>
      cases cached with
      | false => exact lock (by decide) (by decide) (lock (by decide) (by decide) site)
      | true => exact lock (by decide) (by decide) site
  | imLoadImmediatePixel cached =>
      cases cached with
      | false => exact lock (by decide) (by decide) (lock (by decide) (by decide) site)
      | true => exact lock (by decide) (by decide) site
  | drawIndx2 resolved recorded =>
      cases resolved <;> cases recorded
      · exact site
      · exact lock (by decide) (by decide) site
      · exact lock (by decide) (by decide) site
      · exact lock (by decide) (by decide) (lock (by decide) (by decide) site)
  | interrupt dispatched =>
      cases dispatched with
      | false => exact site
      | true => exact ⟨site.only, Disciplined.guestCode site.only site.rest site.quiet, rfl⟩
  | other => exact site

theorem packets (packets : List FramePacket) :
    CallSite held ((packets.map FramePacket.actions).flatten ++ tail) := by
  induction packets with
  | nil => exact site
  | cons first others ih =>
      rw [List.map_cons, List.flatten_cons, List.append_assoc]
      exact ih.packet first

end CallSite

theorem onlyTracer_nil : OnlyTracer [] := by
  simp [OnlyTracer]

theorem pumpTick_disciplined (hasRing : Bool) (packets : List FramePacket) :
    Disciplined [] (pumpTick hasRing packets) := by
  cases hasRing with
  | false => exact Disciplined.critical (onlyTracer_nil.mayTake _) rfl (fun _ => rfl)
  | true =>
      have unlock : CallSite [.tracer] [.release .tracer] :=
        ⟨by simp [OnlyTracer], disciplined_acquire_release.mpr rfl, rfl⟩
      have frame := unlock.packets packets
      have scan : Disciplined []
          (.acquire .tracer :: (packets.map FramePacket.actions).flatten ++
            [.release .tracer]) :=
        ⟨onlyTracer_nil.mayTake _, fun _ => frame.quiet, frame.rest⟩
      have quiet : owesState (.acquire .tracer :: (packets.map FramePacket.actions).flatten ++
          [.release .tracer]) = false := frame.quiet
      have observe := Disciplined.critical (onlyTracer_nil.mayTake .tracer) scan
        (fun _ => quiet)
      rw [pumpTick, if_pos rfl, List.append_assoc]
      exact Disciplined.critical (onlyTracer_nil.mayTake .tracer) observe (fun _ => quiet)

theorem renderTick_disciplined : Disciplined [] renderTick := by
  simp only [renderTick, List.append_assoc]
  refine Disciplined.critical (onlyTracer_nil.mayTake _) ?_ (by simp)
  refine Disciplined.critical (onlyTracer_nil.mayTake _) ?_ (by simp)
  refine Disciplined.critical (onlyTracer_nil.mayTake _) ?_ (by simp)
  refine Disciplined.critical (onlyTracer_nil.mayTake _) ?_ (by simp)
  exact Disciplined.critical (onlyTracer_nil.mayTake _) rfl (by simp)

theorem guestThread_disciplined : Disciplined [] guestThread :=
  ⟨onlyTracer_nil, by simp, Disciplined.critical (onlyTracer_nil.mayTake _) rfl (by simp)⟩

end BumpinHost.Kernel
