import BumpinHost.Kernel.TableSteps
import BumpinHost.Library.Fifo

/-!
# Asynchronous procedure calls

Two calls append to the queue of a thread handle, and an alertable wait that found
its queue not empty takes one entry after it has released the lock.  A step does one
of few things to the queues and to the set of waits that are between these two
critical sections; the order of delivery follows from that alone.
-/

namespace BumpinHost.Kernel

/-- A call of a guest routine with its arguments. -/
structure GuestCall where
  routine : Word
  r3 : BitVec 64
  r4 : BitVec 64
  r5 : BitVec 64
deriving DecidableEq, Repr

/-- How `TryDeliverOneApc` calls the routine of an entry. -/
def ApcEntry.guestCall (apc : ApcEntry) : GuestCall where
  routine := apc.routine
  r3 := apc.context.setWidth 64
  r4 := apc.sysArg1.setWidth 64
  r5 := apc.sysArg2.setWidth 64

inductive ApcEvent
  | queued (targetThreadHandle : Word) (apc : ApcEntry)
  | taken (t : ThreadId) (threadHandle : Word) (apc : ApcEntry) (call : GuestCall)
deriving DecidableEq, Repr

/-- What a step from a state does to a queue. -/
def KernelState.apcEvent (s : KernelState) : KernelLabel → Option ApcEvent
  | .micro _ (.queueApc targetThreadHandle apc) => some (.queued targetThreadHandle apc)
  | .deliver t =>
      (s.apcQueues (s.threads t).self).head?.map fun apc =>
        .taken t (s.threads t).self apc apc.guestCall
  | _ => none

/-- The kernel from boot, with what each step does to a queue. -/
def apcSystem : Transition.System KernelState (KernelLabel × Option ApcEvent) where
  init s := s.IsBoot ∧ s.apcQueues = fun _ => []
  step before label after :=
    KernelStep before label.1 after ∧ label.2 = before.apcEvent label.1

namespace KernelLabel

/-- The thread that takes the step. -/
def thread : KernelLabel → ThreadId
  | begin t _ => t
  | micro t _ => t
  | enter t _ _ => t
  | wake t _ _ => t
  | timeOut t _ _ => t
  | deliver t => t
  | returnUserApc t => t
  | create t _ _ => t
  | close t _ => t

/-- The wait that this step has woken for a procedure call. -/
def wokenForApc (label : KernelLabel) : Option WaitCall :=
  match label.waitOutcome with
  | some (call, .userApc) => some call
  | _ => none

end KernelLabel

/-- The last step of a thread. -/
def lastStep (t : ThreadId) (trace : List (KernelLabel × Option ApcEvent)) :
    Option KernelLabel :=
  ((trace.map Prod.fst).filter fun label => label.thread == t).getLast?

/-- The entry a step queues for a handle. -/
def queuedFor (handle : Word) : KernelLabel × Option ApcEvent → Option ApcEntry
  | (_, some (.queued target apc)) => if target = handle then some apc else none
  | _ => none

/-- The entry a step takes from the queue of a handle. -/
def takenFrom (handle : Word) : KernelLabel × Option ApcEvent → Option ApcEntry
  | (_, some (.taken _ threadHandle apc _)) => if threadHandle = handle then some apc else none
  | _ => none

structure ApcsInOrder (trace : List (KernelLabel × Option ApcEvent)) : Prop where
  firstInFirstOut : ∀ handle,
    trace.filterMap (takenFrom handle) <+: trace.filterMap (queuedFor handle)
  atMostOnce : ∀ handle apc, (trace.filterMap (takenFrom handle)).count apc ≤
    (trace.filterMap (queuedFor handle)).count apc
  intact : ∀ label t handle apc call, (label, some (.taken t handle apc call)) ∈ trace →
    call.routine = apc.routine ∧ call.r3.toNat = apc.context.toNat ∧
      call.r4.toNat = apc.sysArg1.toNat ∧ call.r5.toNat = apc.sysArg2.toNat
  /-- The thread's last step woke it from an alertable wait. -/
  alertable : ∀ past future label t handle apc call,
    trace = past ++ (label, some (.taken t handle apc call)) :: future →
      ∃ wait, (lastStep t past).bind KernelLabel.wokenForApc = some wait ∧
        wait.alertable = true

namespace KernelState

/-- The queue that a woken wait is about to take from. -/
def delivering (s : KernelState) (t : ThreadId) : Option Word :=
  if (s.threads t).activity = .delivering then some (s.threads t).self else none

end KernelState

inductive ApcStep (s : KernelState) : KernelLabel → KernelState → Prop
  | queueApc {t : ThreadId} {target : Word} {apc : ApcEntry} {after : KernelState} :
      s.delivering t = none →
      after.apcQueues = Function.update s.apcQueues target (s.apcQueues target ++ [apc]) →
      after.delivering = s.delivering →
      ApcStep s (.micro t (.queueApc target apc)) after
  | wakeForApc {label : KernelLabel} {call : WaitCall} {after : KernelState} :
      label.wokenForApc = some call →
      call.alertable = true →
      s.apcQueues (s.threads label.thread).self ≠ [] →
      s.delivering label.thread = none →
      after.apcQueues = s.apcQueues →
      after.delivering = Function.update s.delivering label.thread
        (some (s.threads label.thread).self) →
      ApcStep s label after
  | deliver {t : ThreadId} {after : KernelState} :
      s.delivering t = some (s.threads t).self →
      after.apcQueues = Function.update s.apcQueues (s.threads t).self
        (s.apcQueues (s.threads t).self).tail →
      after.delivering = Function.update s.delivering t none →
      ApcStep s (.deliver t) after
  | other {label : KernelLabel} {after : KernelState} :
      s.delivering label.thread = none →
      label.wokenForApc = none →
      s.apcEvent label = none →
      after.apcQueues = s.apcQueues →
      after.delivering = s.delivering →
      ApcStep s label after

namespace KernelState

variable (s : KernelState) (t : ThreadId)

theorem delivering_eq_none {t : ThreadId} (other : (s.threads t).activity ≠ .delivering) :
    s.delivering t = none := if_neg other

theorem delivering_setActivity (activity : Activity) :
    (s.setActivity t activity).delivering = Function.update s.delivering t
      (if activity = .delivering then some (s.threads t).self else none) := by
  funext u
  unfold delivering
  rw [setActivity_self]
  by_cases own : u = t
  · subst own
    rw [setActivity_activity_same, Function.update_self]
  · rw [s.setActivity_activity_of_ne own, Function.update_of_ne own]

/-- A thread that is not delivering and does not begin to. -/
theorem delivering_setActivity_other {t : ThreadId} {activity : Activity}
    (before : s.delivering t = none) (after : activity ≠ .delivering) :
    (s.setActivity t activity).delivering = s.delivering := by
  rw [delivering_setActivity, if_neg after, ← before]
  exact Function.update_eq_self ..

@[simp]
theorem delivering_notifyAll : s.notifyAll.delivering = s.delivering := by
  funext u
  have parkedAlso : ((s.notifyAll.threads u).activity = .delivering ↔
      (s.threads u).activity = .delivering) ∧ (s.notifyAll.threads u).self = (s.threads u).self := by
    unfold notifyAll
    dsimp only
    split
    · rename_i call notified was
      simp [was]
    · exact ⟨Iff.rfl, rfl⟩
  unfold delivering
  rw [parkedAlso.2]
  exact if_congr parkedAlso.1 rfl rfl

end KernelState

theorem Activity.afterOps_ne_delivering (ops : List MicroOp) :
    Activity.afterOps ops ≠ .delivering := by
  cases ops <;> simp [Activity.afterOps]

section Steps

variable {s after : KernelState} {label : KernelLabel}

/-- A step that touches no queue and after which its thread is not delivering either. -/
theorem ApcStep.quiet {base : KernelState} {activity : Activity}
    (notWoken : label.wokenForApc = none) (event : s.apcEvent label = none)
    (queues : base.apcQueues = s.apcQueues) (same : base.delivering = s.delivering)
    (before : s.delivering label.thread = none) (next : activity ≠ .delivering) :
    ApcStep s label (base.setActivity label.thread activity) := by
  apply ApcStep.other before notWoken event
  · exact queues
  · rw [base.delivering_setActivity_other _ next]
    · exact same
    · rw [same]
      exact before

/-- One evaluation of a wait's predicate, seen from the queues. -/
theorem evaluateWait_apcStep {call : WaitCall} {otherwise : Activity} {result : WaitResult}
    (unfinished : result ≠ .userApc) (parks : otherwise ≠ .delivering)
    (before : s.delivering label.thread = none)
    (outcome : label.waitOutcome =
      some (call, (s.evaluateWait label.thread call otherwise result).2)) :
    ApcStep s label (s.evaluateWait label.thread call otherwise result).1 := by
  have event : s.apcEvent label = none := by
    cases label with
    | micro | deliver => cases outcome
    | _ => rfl
  have notWoken {other : WaitResult} (isOther : label.waitOutcome = some (call, other))
      (different : other ≠ .userApc) : label.wokenForApc = none := by
    rw [KernelLabel.wokenForApc, isOther]
    cases other with
    | userApc => exact absurd rfl different
    | _ => rfl
  unfold KernelState.evaluateWait KernelState.finishWait at outcome ⊢
  dsimp only at outcome ⊢
  split_ifs at outcome ⊢ with awake apc
  · obtain ⟨alertable, pending⟩ := (Bool.and_eq_true ..).mp apc
    apply ApcStep.wakeForApc
    · rw [KernelLabel.wokenForApc, outcome]
    · exact alertable
    · intro empty
      rw [KernelState.hasPendingApc, empty] at pending
      cases pending
    · exact before
    · rfl
    · rw [KernelState.delivering_setActivity, if_pos rfl]
      rfl
  · apply ApcStep.quiet (notWoken outcome (by simp)) event _ _ before (by simp)
    · rfl
    · rfl
  · apply ApcStep.quiet (notWoken outcome unfinished) event _ _ before parks
    · rfl
    · rfl

theorem applyOp_apcStep {t : ThreadId} {op : MicroOp} {rest : List MicroOp}
    (before : s.delivering t = none) : ApcStep s (.micro t op) (s.applyOp t op rest) := by
  have ended := Activity.afterOps_ne_delivering rest
  cases op with
  | queueApc target apc =>
      apply ApcStep.queueApc before
      · rfl
      · exact KernelState.delivering_setActivity_other _ before ended
  | signal | release =>
      apply ApcStep.quiet _ _ _ _ before ended
      · rfl
      · rfl
      · rfl
      · rfl
  | notifyAll =>
      apply ApcStep.quiet _ _ _ _ before ended
      · rfl
      · rfl
      · rfl
      · exact s.delivering_notifyAll
  | signalAndNotify handle =>
      apply ApcStep.quiet _ _ _ _ before ended
      · rfl
      · rfl
      · rfl
      · rw [KernelState.delivering_notifyAll]
        rfl
  | exit =>
      apply ApcStep.quiet _ _ _ _ before (by simp)
      · rfl
      · rfl
      · rfl
      · rfl

theorem enterWait_apcStep {t : ThreadId} {call : WaitCall} (before : s.delivering t = none) :
    ApcStep s (.enter t call (s.enterWait t call).2) (s.enterWait t call).1 := by
  cases found : s.handleTable call.handle with
  | none =>
      have unknown : s.enterWait t call = (s, .invalidHandle) := by
        rw [KernelState.enterWait, found]
      rw [unknown]
      exact .other before rfl rfl rfl rfl
  | some obj =>
      have evaluated : s.enterWait t call =
          s.evaluateWait t call (.parked call false) .parked := by
        rw [KernelState.enterWait, found]
      rw [evaluated]
      exact evaluateWait_apcStep (by simp) (by simp) before rfl

theorem tryDeliverOneApc_apcStep {t : ThreadId} (delivering : (s.threads t).activity = .delivering) :
    ApcStep s (.deliver t) (s.tryDeliverOneApc t) := by
  apply ApcStep.deliver
  · exact if_pos delivering
  · unfold KernelState.tryDeliverOneApc
    split
    · rename_i empty
      rw [empty, List.tail_nil, ← empty, Function.update_eq_self]
      rfl
    · rename_i front rest nonempty
      rw [nonempty]
      rfl
  · unfold KernelState.tryDeliverOneApc
    split
    · exact KernelState.delivering_setActivity ..
    · funext u
      by_cases own : u = t
      · subst own
        simp [KernelState.delivering]
      · simp [KernelState.delivering, own]

theorem create_apcStep {t : ThreadId} {call : CreateCall} (before : s.delivering t = none)
    (fresh : ∀ child, call = .exCreateThread child → (s.threads child).activity = .absent) :
    ApcStep s (.create t call s.nextHandle) (s.create call) := by
  apply ApcStep.other before
  · rfl
  · rfl
  · rfl
  · cases call with
    | exCreateThread child =>
        funext u
        by_cases own : u = child
        · subst own
          simp [KernelState.delivering, KernelState.create, fresh u rfl]
        · simp [KernelState.delivering, KernelState.create, own]
    | _ => rfl

theorem KernelStep.apcStep (step : KernelStep s label after) : ApcStep s label after := by
  cases step with
  | begin t call running =>
      apply ApcStep.quiet _ _ _ _ _ (Activity.afterOps_ne_delivering _)
      · rfl
      · rfl
      · rfl
      · rfl
      · exact s.delivering_eq_none (t := t) (by simp [running])
  | @micro t op rest calling =>
      exact applyOp_apcStep (s.delivering_eq_none (by simp [calling]))
  | enter t call running => exact enterWait_apcStep (s.delivering_eq_none (t := t) (by simp [running]))
  | wake t call parked =>
      have before := s.delivering_eq_none (t := t) (by simp [parked])
      exact evaluateWait_apcStep (by simp) (by simp) before rfl
  | timeOut t call parked timed =>
      have before := s.delivering_eq_none (t := t) (by simp [parked])
      exact evaluateWait_apcStep (by simp) (by simp) before rfl
  | deliver t delivering => exact tryDeliverOneApc_apcStep delivering
  | returnUserApc t running =>
      apply ApcStep.other (s.delivering_eq_none (t := t) (by simp [running]))
      · rfl
      · rfl
      · rfl
      · funext u
        by_cases own : u = t
        · subst own
          simp [KernelState.delivering, KernelState.returnUserApc]
        · simp [KernelState.delivering, KernelState.returnUserApc, own]
  | create t call running fresh =>
      exact create_apcStep (s.delivering_eq_none (t := t) (by simp [running])) fresh
  | close t handle running =>
      exact .other (s.delivering_eq_none (t := t) (by simp [running])) rfl rfl rfl rfl

/-- A thread is delivering because it was, or because an alertable wait has just woken. -/
theorem KernelStep.delivering_after (step : KernelStep s label after) {t : ThreadId}
    (delivering : after.delivering t ≠ none) :
    (t = label.thread ∧ ∃ wait, label.wokenForApc = some wait ∧ wait.alertable = true) ∨
      (t ≠ label.thread ∧ s.delivering t ≠ none) := by
  cases step.apcStep with
  | queueApc none queues same =>
      rw [same] at delivering
      right
      refine ⟨?_, delivering⟩
      rintro rfl
      exact delivering none
  | wakeForApc woken alertable pending was queues same =>
      by_cases own : t = label.thread
      · exact Or.inl ⟨own, _, woken, alertable⟩
      · rw [same, Function.update_of_ne own] at delivering
        exact Or.inr ⟨own, delivering⟩
  | @deliver u after was queues same =>
      right
      by_cases own : t = u
      · subst own
        rw [same, Function.update_self] at delivering
        exact absurd rfl delivering
      · rw [same, Function.update_of_ne own] at delivering
        exact ⟨own, delivering⟩
  | other none notWoken event queues same =>
      rw [same] at delivering
      right
      refine ⟨?_, delivering⟩
      rintro rfl
      exact delivering none

theorem KernelLabel.apcEvent_of_wokenForApc {call : WaitCall}
    (woken : label.wokenForApc = some call) : s.apcEvent label = none := by
  cases label with
  | micro | deliver => cases woken
  | _ => rfl

end Steps

/-- What a step does to the queue of one handle. -/
def fifoEvent (handle : Word) :
    KernelLabel × Option ApcEvent → Option (Fifo.Event ApcEntry)
  | (_, some (.queued target apc)) => if target = handle then some (.put apc) else none
  | (_, some (.taken _ threadHandle apc _)) =>
      if threadHandle = handle then some (.take apc) else none
  | (_, none) => none

theorem queuedFor_eq (handle : Word) (label : KernelLabel × Option ApcEvent) :
    queuedFor handle label = (fifoEvent handle label).bind Fifo.Event.putItem := by
  rcases label with ⟨label, _ | _ | _⟩ <;> simp only [queuedFor, fifoEvent] <;>
    first | rfl | (split_ifs <;> rfl)

theorem takenFrom_eq (handle : Word) (label : KernelLabel × Option ApcEvent) :
    takenFrom handle label = (fifoEvent handle label).bind Fifo.Event.takenItem := by
  rcases label with ⟨label, _ | _ | _⟩ <;> simp only [takenFrom, fifoEvent] <;>
    first | rfl | (split_ifs <;> rfl)

theorem queueApc_follows (handle : Word) {s after : KernelState} {target : Word}
    {apc : ApcEntry} {label : KernelLabel}
    (queues : after.apcQueues = Function.update s.apcQueues target (s.apcQueues target ++ [apc])) :
    (Fifo.fifo ApcEntry).Follows (fun s : KernelState => s.apcQueues handle) (fifoEvent handle)
      s (label, some (.queued target apc)) after := by
  by_cases here : target = handle
  · subst here
    apply Transition.System.Follows.seen (.put apc)
    · exact if_pos rfl
    · rw [queues, Function.update_self]
      exact .put ..
  · apply Transition.System.Follows.unseen
    · exact if_neg here
    · rw [queues, Function.update_of_ne (Ne.symm here)]

theorem deliver_follows (handle : Word) {s after : KernelState} {t : ThreadId}
    (queues : after.apcQueues = Function.update s.apcQueues (s.threads t).self
      (s.apcQueues (s.threads t).self).tail) :
    (Fifo.fifo ApcEntry).Follows (fun s : KernelState => s.apcQueues handle) (fifoEvent handle)
      s (.deliver t, s.apcEvent (.deliver t)) after := by
  by_cases here : (s.threads t).self = handle
  · subst here
    cases queue : s.apcQueues (s.threads t).self with
    | nil =>
        apply Transition.System.Follows.unseen
        · simp [KernelState.apcEvent, queue, fifoEvent]
        · rw [queues, Function.update_self, queue, List.tail_nil]
    | cons front rest =>
        apply Transition.System.Follows.seen (.take front)
        · simp [KernelState.apcEvent, queue, fifoEvent]
        · rw [queues, Function.update_self, queue, List.tail_cons]
          exact .take ..
  · apply Transition.System.Follows.unseen
    · rw [KernelState.apcEvent]
      cases (s.apcQueues (s.threads t).self).head? with
      | none => rfl
      | some front => exact if_neg here
    · rw [queues, Function.update_of_ne (Ne.symm here)]

theorem apcSystem_follows (handle : Word) {before after : KernelState}
    {label : KernelLabel × Option ApcEvent} (step : apcSystem.step before label after) :
    (Fifo.fifo ApcEntry).Follows (fun s : KernelState => s.apcQueues handle) (fifoEvent handle)
      before label after := by
  obtain ⟨label, event⟩ := label
  obtain ⟨step, observed⟩ := step
  dsimp only at step observed
  subst observed
  cases step.apcStep with
  | queueApc was queues => exact queueApc_follows handle queues
  | wakeForApc woken alertable pending was queues =>
      rw [KernelLabel.apcEvent_of_wokenForApc woken]
      exact .unseen rfl (congrFun queues handle)
  | deliver was queues => exact deliver_follows handle queues
  | other was notWoken none queues =>
      rw [none]
      exact .unseen rfl (congrFun queues handle)

theorem lastStep_snoc (t : ThreadId) (past : List (KernelLabel × Option ApcEvent))
    (label : KernelLabel × Option ApcEvent) :
    lastStep t (past ++ [label]) =
      if label.1.thread = t then some label.1 else lastStep t past := by
  unfold lastStep
  rw [List.map_append, List.filter_append, List.map_singleton]
  by_cases own : label.1.thread = t
  · simp [own]
  · simp [own]

/-- The last step of a delivering thread woke it from an alertable wait. -/
def WokenByAlertableWaits (past : List (KernelLabel × Option ApcEvent)) (s : KernelState) :
    Prop :=
  ∀ t, s.delivering t ≠ none →
    ∃ wait, (lastStep t past).bind KernelLabel.wokenForApc = some wait ∧ wait.alertable = true

theorem WokenByAlertableWaits.step {past : List (KernelLabel × Option ApcEvent)}
    {before after : KernelState} {label : KernelLabel × Option ApcEvent}
    (woken : WokenByAlertableWaits past before) (step : KernelStep before label.1 after) :
    WokenByAlertableWaits (past ++ [label]) after := by
  intro t isDelivering
  rw [lastStep_snoc]
  rcases step.delivering_after isDelivering with ⟨own, isWoken⟩ | ⟨other, before⟩
  · rw [if_pos own.symm]
    exact isWoken
  · rw [if_neg (Ne.symm other)]
    exact woken t before

theorem WokenByAlertableWaits.of_history {trace : List (KernelLabel × Option ApcEvent)}
    {final : KernelState} (history : apcSystem.History trace final) :
    WokenByAlertableWaits trace final := by
  apply history.invariant WokenByAlertableWaits
  · intro start isInit t isDelivering
    have quiescent := isInit.1.1 t
    exact absurd (start.delivering_eq_none (by rcases quiescent with is | is <;> simp [is]))
      isDelivering
  · intro past before label after _ woken step
    exact woken.step step.1

theorem apcs_firstInFirstOut {trace : List (KernelLabel × Option ApcEvent)}
    {final : KernelState} (history : apcSystem.History trace final) (handle : Word) :
    trace.filterMap (takenFrom handle) <+: trace.filterMap (queuedFor handle) := by
  obtain ⟨start, isInit, run⟩ := history
  have queue := run.follows (apcSystem_follows handle)
  have empty : start.apcQueues handle = [] := congrFun isInit.2 handle
  rw [empty] at queue
  have inOrder := Fifo.taken_prefix_put queue
  rw [List.filterMap_filterMap, List.filterMap_filterMap] at inOrder
  have taken : takenFrom handle = fun label => (fifoEvent handle label).bind
      Fifo.Event.takenItem := funext (takenFrom_eq handle)
  have queued : queuedFor handle = fun label => (fifoEvent handle label).bind
      Fifo.Event.putItem := funext (queuedFor_eq handle)
  rw [taken, queued]
  exact inOrder

theorem deliver_of_taken {s : KernelState} {label : KernelLabel} {t : ThreadId} {handle : Word}
    {apc : ApcEntry} {call : GuestCall}
    (event : some (.taken t handle apc call) = s.apcEvent label) :
    label = .deliver t ∧ call = apc.guestCall := by
  cases label with
  | deliver u =>
      rw [KernelState.apcEvent, eq_comm, Option.map_eq_some_iff] at event
      obtain ⟨front, -, same⟩ := event
      cases same
      exact ⟨rfl, rfl⟩
  | micro u op => cases op <;> cases event
  | _ => cases event

theorem apcs_inOrder {trace : List (KernelLabel × Option ApcEvent)} {final : KernelState}
    (history : apcSystem.History trace final) : ApcsInOrder trace := by
  constructor
  · exact apcs_firstInFirstOut history
  · intro handle apc
    exact (apcs_firstInFirstOut history handle).sublist.count_le apc
  · intro label t handle apc call member
    obtain ⟨past, future, split⟩ := List.append_of_mem member
    rw [split] at history
    obtain ⟨before, after, -, -, event⟩ := history.exists_step
    obtain ⟨-, rfl⟩ := deliver_of_taken event
    have extends64 (word : Word) : (word.setWidth 64).toNat = word.toNat :=
      BitVec.toNat_setWidth_of_le (by decide)
    exact ⟨rfl, extends64 _, extends64 _, extends64 _⟩
  · intro past future label t handle apc call split
    subst split
    obtain ⟨before, after, earlier, step, event⟩ := history.exists_step
    obtain ⟨rfl, -⟩ := deliver_of_taken event
    apply WokenByAlertableWaits.of_history earlier
    cases step with
    | deliver _ isDelivering =>
        rw [KernelState.delivering, if_pos isDelivering]
        simp

def sampleApc : ApcEntry := ⟨0x82001000, 1, 2, 3⟩

def completedRead : MutatingCall := .ntReadFile true 0 0x82001000 1 0

/-- What `completedRead` queues for the thread that made it. -/
def completionApc : ApcEntry := ⟨0x82001000, 1, 0, 0⟩

/-- The first thread queues a call for the second, which completes a read and then waits for an
event twice. -/
def twoCallsTrace : List (KernelLabel × Option ApcEvent) :=
  [(.create 0 (.ntCreateEvent true false) firstHandle, none),
    (.begin 0 (.ntQueueApcThread 1 sampleApc), none),
    (.micro 0 (.queueApc 1 sampleApc), some (.queued 1 sampleApc)),
    (.begin 1 completedRead, none),
    (.micro 1 (.queueApc 1 completionApc), some (.queued 1 completionApc)),
    (.micro 0 .notifyAll, none),
    (.micro 1 .notifyAll, none),
    (.enter 1 ⟨firstHandle, true, false⟩ .userApc, none),
    (.deliver 1, some (.taken 1 1 sampleApc ⟨0x82001000, 1, 2, 3⟩)),
    (.returnUserApc 1, none),
    (.enter 1 ⟨firstHandle, true, false⟩ .userApc, none),
    (.deliver 1, some (.taken 1 1 completionApc ⟨0x82001000, 1, 0, 0⟩))]

/-- When both calls are queued. -/
def twoCallsQueued : KernelState :=
  let created := twoThreads.create (.ntCreateEvent true false)
  let begun := created.setActivity 0 (.afterOps (microOps 0 (.ntQueueApcThread 1 sampleApc)))
  let queued := begun.applyOp 0 (.queueApc 1 sampleApc) [.notifyAll]
  let reading := queued.setActivity 1 (.afterOps (microOps 1 completedRead))
  let completed := reading.applyOp 1 (.queueApc 1 completionApc) [.notifyAll]
  (completed.applyOp 0 .notifyAll []).applyOp 1 .notifyAll []

/-- A step of the kernel with what it does to a queue. -/
theorem apcSystem_step {before after : KernelState} {label : KernelLabel}
    (step : KernelStep before label after) :
    apcSystem.step before (label, before.apcEvent label) after := ⟨step, rfl⟩

theorem twoCallsQueued_run :
    apcSystem.Run twoThreads (twoCallsTrace.take 7) twoCallsQueued := by
  have start : apcSystem.Run twoThreads [] twoThreads := .refl
  have created := start.tail (apcSystem_step (.create 0 (.ntCreateEvent true false) rfl (by simp)))
  have begun := created.tail (apcSystem_step (.begin 0 (.ntQueueApcThread 1 sampleApc) rfl))
  have queued := begun.tail (apcSystem_step (.micro 0 (.queueApc 1 sampleApc) rfl))
  have reading := queued.tail (apcSystem_step (.begin 1 completedRead rfl))
  have completed := reading.tail (apcSystem_step (.micro 1 (.queueApc 1 completionApc) rfl))
  have announced := completed.tail (apcSystem_step (.micro 0 .notifyAll rfl))
  exact announced.tail (apcSystem_step (.micro 1 .notifyAll rfl))

theorem apcs_inOrder_twoCalls : ApcsInOrder twoCallsTrace := by
  have woken := twoCallsQueued_run.tail
    (apcSystem_step (.enter 1 ⟨firstHandle, true, false⟩ rfl))
  have delivered := woken.tail (apcSystem_step (.deliver 1 rfl))
  have returned := delivered.tail (apcSystem_step (.returnUserApc 1 rfl Nat.one_pos))
  have again := returned.tail (apcSystem_step (.enter 1 ⟨firstHandle, true, false⟩ rfl))
  have both := again.tail (apcSystem_step (.deliver 1 rfl))
  exact apcs_inOrder ⟨twoThreads, ⟨twoThreads_isBoot, rfl⟩, both⟩

end BumpinHost.Kernel
