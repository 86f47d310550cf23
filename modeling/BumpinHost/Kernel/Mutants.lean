import BumpinHost.Kernel.Apcs
import BumpinHost.Kernel.Signals
import BumpinHost.Library.OwnedLock

/-!
# Mutants as locks

`NtReleaseMutant` sets the flag of a mutant whoever calls it, and so does any other call that
signals the handle.  In a title whose threads release only what they have acquired the flag is
that of a lock: waits succeed one at a time, each after the release by the thread before it.
-/

namespace BumpinHost.Kernel

open OwnedLock

/-- What a step does to the lock of a handle: a wait that succeeds acquires it, and whatever
signals the handle releases it. -/
def lockEvent (handle : Word) (label : KernelLabel) : Option (Event ThreadId) :=
  if label.succeedsOn handle then some (.acquire label.thread)
  else if label.signals handle then some (.release label.thread)
  else none

def lockEvents (handle : Word) (trace : List KernelLabel) : List (Event ThreadId) :=
  trace.filterMap (lockEvent handle)

/-- Who has a new mutant: its creator, if it asked to be the owner. -/
def creationOwner (t : ThreadId) (initialOwner : Bool) : Option ThreadId :=
  if initialOwner then some t else none

section Step

variable {s after : KernelState} {label : KernelLabel} {handle : Word} {obj : HandleObject}

/-- A step that signals an object leaves it signaled. -/
theorem TableStep.signaled_of_signals {table changed : HandleTable}
    (step : TableStep table label changed) (found : table handle = some obj)
    (signals : label.signals handle = true) :
    changed handle = some { obj with signaled := true } := by
  cases step with
  | same leaves =>
      cases label with
      | micro t op =>
          simp only [KernelLabel.signals, beq_iff_eq] at signals
          simp [KernelLabel.leavesTable, signals] at leaves
      | _ => cases signals
  | signal t op isSignal =>
      simp only [KernelLabel.signals, isSignal, beq_iff_eq, Option.some.injEq] at signals
      subst signals
      rw [HandleTable.signal, found]
      exact HandleTable.insert_same ..
  | create => cases signals
  | close => cases signals
  | invalidHandle outcome | unsuccessful outcome | success outcome =>
      cases label with
      | micro => cases outcome
      | _ => cases signals

theorem isSignaled_of_found {table : HandleTable} (found : table handle = some obj) :
    table.isSignaled handle = obj.signaled := by
  rw [HandleTable.isSignaled, found]
  rfl

/-- An object that gives its signal to one wait: a step acquires it, which takes the flag away,
or releases it, which sets the flag, or leaves the flag alone. -/
theorem KernelStep.lockEvent_cases (step : KernelStep s label after)
    (found : s.handleTable handle = some obj) (consumes : obj.consumesSignal = true)
    (kept : label.replaces handle = false) :
    (lockEvent handle label = some (.acquire label.thread) ∧
        s.handleTable.isSignaled handle = true ∧ after.handleTable.isSignaled handle = false) ∨
      (lockEvent handle label = some (.release label.thread) ∧
        after.handleTable.isSignaled handle = true) ∨
      (lockEvent handle label = none ∧
        after.handleTable.isSignaled handle = s.handleTable.isSignaled handle) := by
  have released : label.succeedsOn handle = false → label.signals handle = true →
      lockEvent handle label = some (.release label.thread) ∧
        after.handleTable.isSignaled handle = true := by
    intro silent signals
    refine ⟨?_, isSignaled_of_found (step.tableStep.signaled_of_signals found signals)⟩
    simp [lockEvent, silent, signals]
  obtain ⟨silent, same⟩ | ⟨signals, silent, -⟩ | ⟨succeeds, signaled, consumed⟩ :=
    step.tableStep.object_eq found kept
  · cases signals : label.signals handle with
    | true => exact .inr (.inl (released silent signals))
    | false =>
        refine .inr (.inr ⟨by simp [lockEvent, silent, signals], ?_⟩)
        rw [isSignaled_of_found same, isSignaled_of_found found]
  · exact .inr (.inl (released silent signals))
  · refine .inl ⟨by simp [lockEvent, succeeds], ?_, ?_⟩
    · rw [isSignaled_of_found found, signaled]
    · rw [isSignaled_of_found consumed, HandleObject.consumeSignalOnAcquire_signaled, consumes]
      simp

end Step

/-- The object is there, its flag says that nobody has it, and its events are those of a lock. -/
structure IsLock (handle : Word) (start : Option ThreadId) (trace : List KernelLabel)
    (s : KernelState) : Prop where
  found : ∃ obj, s.handleTable handle = some obj ∧ obj.consumesSignal = true
  flag : s.handleTable.isSignaled handle = (owner start (lockEvents handle trace)).isNone
  history : LockHistory start (lockEvents handle trace)

variable {init : KernelState → Prop} {handle : Word} {start : Option ThreadId}

theorem lockEvents_concat (handle : Word) (past : List KernelLabel) (label : KernelLabel) :
    lockEvents handle (past ++ [label]) =
      lockEvents handle past ++ (lockEvent handle label).toList := by
  rw [lockEvents, List.filterMap_append]
  cases event : lockEvent handle label <;> simp [lockEvents, event]

theorem IsLock.step {before after : KernelState} {past : List KernelLabel} {label : KernelLabel}
    (isLock : IsLock handle start past before) (step : KernelStep before label after)
    (kept : label.replaces handle = false)
    (own : ReleasesOwn start (lockEvents handle (past ++ [label]))) :
    IsLock handle start (past ++ [label]) after := by
  obtain ⟨obj, found, consumes⟩ := isLock.found
  have remains := step.consumer_kept found consumes kept
  have flag := isLock.flag
  have events := lockEvents_concat handle past label
  obtain ⟨event, signaled, taken⟩ | ⟨event, signaled⟩ | ⟨event, same⟩ :=
    step.lockEvent_cases found consumes kept
  · rw [event, Option.toList_some] at events
    rw [signaled] at flag
    refine ⟨remains, ?_, ?_⟩
    · rw [events, owner_concat, taken]
      rfl
    · rw [events]
      apply isLock.history.concat
      rw [Option.isNone_iff_eq_none.mp flag.symm]
      trivial
  · rw [event, Option.toList_some] at events
    rw [events] at own
    refine ⟨remains, ?_, ?_⟩
    · rw [events, owner_concat, signaled]
      rfl
    · rw [events]
      apply isLock.history.concat
      rw [own.last]
      exact rfl
  · rw [event, Option.toList_none, List.append_nil] at events
    refine ⟨remains, ?_, ?_⟩
    · rw [events, same, flag]
    · rw [events]
      exact isLock.history

theorem IsLock.run {before final : KernelState} {future : List KernelLabel}
    (isLock : IsLock handle start [] before) (run : (kernelSystem init).Run before future final)
    (kept : ∀ label ∈ future, label.replaces handle = false)
    (own : ReleasesOwn start (lockEvents handle future)) :
    IsLock handle start future final := by
  induction run with
  | refl => exact isLock
  | @tail past middle after label run step ih =>
      rw [List.forall_mem_append, List.forall_mem_singleton] at kept
      have earlier := own
      rw [lockEvents_concat] at earlier
      exact (ih kept.1 earlier.of_append).step step kept.2 own

/-- A wait that no procedure call can end succeeds at once exactly while nobody has the mutant. -/
theorem IsLock.enterWait_success {s : KernelState} {trace : List KernelLabel} {u : ThreadId}
    {call : WaitCall} (isLock : IsLock handle start trace s) (on : call.handle = handle)
    (alertable : call.alertable = false) :
    (s.enterWait u call).2 = .success ↔ owner start (lockEvents handle trace) = none := by
  obtain ⟨obj, found, -⟩ := isLock.found
  subst on
  rw [← Option.isNone_iff_eq_none, ← isLock.flag]
  simp only [KernelState.enterWait, found, KernelState.evaluateWait,
    KernelState.wakePredicate_eq, alertable, Bool.false_and, Bool.or_false]
  cases s.handleTable.isSignaled call.handle <;>
    simp [KernelState.finishWait, alertable]

/-- In every interleaving in which only the thread that has a mutant signals it: a wait
succeeds only while nobody has the mutant, the next thing that happens to it is the release by
the thread whose wait has succeeded, and a new wait succeeds at once exactly if nobody has it. -/
theorem mutant_isLock (init : KernelState → Prop) (past : List KernelLabel)
    {future : List KernelLabel} {t : ThreadId} {initialOwner : Bool} {final : KernelState}
    (history : (kernelSystem init).History
      (past ++ .create t (.ntCreateMutant initialOwner) handle :: future) final)
    (kept : ∀ label ∈ future, label.replaces handle = false)
    (own : ReleasesOwn (creationOwner t initialOwner) (lockEvents handle future)) :
    LockHistory (creationOwner t initialOwner) (lockEvents handle future) ∧
      (∀ before u next after,
        lockEvents handle future = before ++ .acquire u :: next :: after → next = .release u) ∧
      ∀ u call, call.handle = handle → call.alertable = false →
        ((final.enterWait u call).2 = .success ↔
          owner (creationOwner t initialOwner) (lockEvents handle future) = none) := by
  obtain ⟨first, isInit, run⟩ := history
  obtain ⟨before, -, rest⟩ := run.split
  obtain ⟨created, step, futureRun⟩ := rest.of_cons
  have found : created.handleTable handle = some (createdObject (.ntCreateMutant initialOwner)) := by
    cases step with
    | create => exact HandleTable.insert_same ..
  have initially : IsLock handle (creationOwner t initialOwner) [] created := by
    refine ⟨⟨_, found, rfl⟩, ?_, .nil⟩
    rw [isSignaled_of_found found]
    cases initialOwner <;> rfl
  have isLock := initially.run futureRun kept own
  exact ⟨isLock.history, fun _ _ _ _ split => isLock.history.next_eq_release split,
    fun _ _ on alertable => isLock.enterWait_success on alertable⟩

/-- One thread acquires a mutant, another waits for it and has it once the first releases it. -/
theorem mutant_isLock_handedOver :
    ∃ wait : WaitCall, ∃ future final, future =
        [.enter 0 wait .success, .enter 1 wait .parked, .begin 0 (.ntReleaseMutant firstHandle),
          .micro 0 (.release firstHandle), .timeOut 1 wait .success] ∧
      (kernelSystem KernelState.IsBoot).History
        (.create 0 (.ntCreateMutant false) firstHandle :: future) final ∧
      LockHistory none (lockEvents firstHandle future) ∧
      (final.enterWait 0 ⟨firstHandle, false, false⟩).2 ≠ .success := by
  let wait : WaitCall := ⟨firstHandle, false, true⟩
  let created := twoThreads.create (.ntCreateMutant false)
  let taken := (created.enterWait 0 wait).1
  let waiting := (taken.enterWait 1 wait).1
  let releasing := waiting.setActivity 0 (.calling [.release firstHandle])
  let released := releasing.applyOp 0 (.release firstHandle) []
  let future : List KernelLabel :=
    [.enter 0 wait .success, .enter 1 wait .parked, .begin 0 (.ntReleaseMutant firstHandle),
      .micro 0 (.release firstHandle), .timeOut 1 wait .success]
  have history : (kernelSystem KernelState.IsBoot).History
      (.create 0 (.ntCreateMutant false) firstHandle :: future) (released.timeOutWait 1 wait).1 :=
    ⟨twoThreads, twoThreads_isBoot,
      .head (.create 0 (.ntCreateMutant false) rfl (by simp)) <|
        .head (.enter 0 wait rfl) <|
          .head (.enter 1 wait rfl) <|
            .head (.begin 0 (.ntReleaseMutant firstHandle) rfl) <|
              .head (.micro 0 (.release firstHandle) rfl) <|
                .single (.timeOut 1 wait rfl rfl)⟩
  have events : lockEvents firstHandle future = [.acquire 0, .release 0, .acquire 1] := rfl
  have own : ReleasesOwn none (lockEvents firstHandle future) := by
    rw [events]
    intro before t after split
    match before with
    | [] => cases split
    | [_] =>
        cases split
        rfl
    | [_, _] => cases split
    | _ :: _ :: _ :: _ => simp at split
  obtain ⟨isLock, -, fresh⟩ :=
    mutant_isLock KernelState.IsBoot [] history (by decide) own
  refine ⟨wait, future, _, rfl, history, isLock, ?_⟩
  rw [ne_eq, fresh 0 _ rfl rfl]
  change owner none (lockEvents firstHandle future) ≠ none
  rw [events]
  exact Option.some_ne_none _

end BumpinHost.Kernel
