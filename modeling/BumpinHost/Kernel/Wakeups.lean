import BumpinHost.Kernel.Threads

/-!
# Wakeups of dispatcher waits

A waiter that is parked and not notified while its predicate holds is only lost
when nobody is going to notify it.  Every call that can make a predicate true
still has a notification ahead of it at that point, with one exception: releasing
a mutant never notifies.
-/

namespace BumpinHost.Kernel

variable {s after : KernelState} {label : KernelLabel}

/-- The operation notifies every waiter. -/
def MicroOp.notifies : MicroOp → Bool
  | .notifyAll | .signalAndNotify _ => true
  | _ => false

/-- The operation can make a predicate true without notifying. -/
def MicroOp.announces : MicroOp → Bool
  | .signal _ | .queueApc _ _ => true
  | _ => false

/-- A notification is still to come before the thread ends. -/
def OwesNotify : List MicroOp → Prop
  | [] => False
  | op :: rest => op ≠ .exit ∧ (op.notifies = true ∨ OwesNotify rest)

/-- Whatever makes a predicate true is followed by a notification. -/
def Announced : List MicroOp → Prop
  | [] => True
  | op :: rest => (op.announces = true → OwesNotify rest) ∧ Announced rest

theorem OwesNotify.append {first : List MicroOp} (second : List MicroOp)
    (owes : OwesNotify first) : OwesNotify (first ++ second) := by
  induction first with
  | nil => cases owes
  | cons op rest ih => exact ⟨owes.1, owes.2.imp_right ih⟩

theorem Announced.append {first second : List MicroOp} (left : Announced first)
    (right : Announced second) : Announced (first ++ second) := by
  induction first with
  | nil => exact right
  | cons op rest ih => exact ⟨fun announces => (left.1 announces).append second, ih left.2⟩

theorem Announced.of_not_announces {ops : List MicroOp}
    (quiet : ∀ op ∈ ops, op.announces = false) : Announced ops := by
  induction ops with
  | nil => trivial
  | cons op rest ih =>
      rw [List.forall_mem_cons] at quiet
      exact ⟨fun announces => absurd announces (by simp [quiet.1]), ih quiet.2⟩

/-- A step that is followed at once by a notification. -/
theorem Announced.cons_notifyAll {op : MicroOp} {rest : List MicroOp}
    (announced : Announced rest) : Announced (op :: .notifyAll :: rest) :=
  ⟨fun _ => ⟨by simp, Or.inl rfl⟩, by simp [MicroOp.announces], announced⟩

theorem microOps_announced (self : Word) (call : MutatingCall) :
    Announced (microOps self call) := by
  cases call with
  | ntSetEvent handle => exact Announced.cons_notifyAll trivial
  | ntReleaseMutant handle =>
      apply Announced.of_not_announces
      simp [microOps, MicroOp.announces]
  | ntQueueApcThread targetThreadHandle apc => exact Announced.cons_notifyAll trivial
  | ntReadFile validHandle eventHandle apcRoutine apcContext ioStatusBlockPtr =>
      simp only [microOps]
      split
      · apply Announced.append
        · split
          · exact Announced.cons_notifyAll trivial
          · trivial
        · apply Announced.of_not_announces
          split <;> simp [MicroOp.announces]
      · trivial
  | exTerminateThread =>
      simp only [microOps]
      split
      · exact Announced.cons_notifyAll (Announced.of_not_announces (by simp [MicroOp.announces]))
      · apply Announced.of_not_announces
        simp [MicroOp.announces]
  | threadExit =>
      exact Announced.cons_notifyAll (Announced.of_not_announces (by simp [MicroOp.announces]))

namespace KernelState

/-- The thread is in the middle of a call and will notify. -/
def WillNotify (s : KernelState) (t : ThreadId) : Prop :=
  ∃ ops, (s.threads t).activity = .calling ops ∧ OwesNotify ops

/-- The thread is parked, has not been notified, and would wake if it looked. -/
def MissesWakeup (s : KernelState) (t : ThreadId) (call : WaitCall) : Prop :=
  (s.threads t).activity = .parked call false ∧
    s.wakePredicate (s.threads t).self call = true

/-- Every mutating call that was issued has returned. -/
def AllReturned (s : KernelState) : Prop :=
  ∀ t ops, (s.threads t).activity ≠ .calling ops

/-- Every thread's remaining steps announce what they make true, and every waiter that
misses a wakeup is about to be notified. -/
structure WakeupInvariant (s : KernelState) : Prop where
  announced : ∀ t ops, (s.threads t).activity = .calling ops → Announced ops
  notified : ∀ t call, s.MissesWakeup t call → ∃ u, s.WillNotify u

/-- With no call under way, nothing is missed. -/
theorem WakeupInvariant.not_missed (invariant : s.WakeupInvariant) (returned : s.AllReturned)
    (t : ThreadId) (call : WaitCall) : ¬ s.MissesWakeup t call := by
  intro missed
  obtain ⟨u, ops, calling, _⟩ := invariant.notified t call missed
  exact returned u ops calling

theorem WillNotify.setActivity_of_ne {t u : ThreadId} (willNotify : s.WillNotify u)
    (different : u ≠ t) (activity : Activity) : (s.setActivity t activity).WillNotify u := by
  obtain ⟨ops, calling, owes⟩ := willNotify
  exact ⟨ops, (s.setActivity_activity_of_ne different activity).trans calling, owes⟩

/-- A step of one thread that was not inside a call, and that makes no predicate true
for another. -/
theorem WakeupInvariant.of_quiet {t : ThreadId} (invariant : s.WakeupInvariant)
    (notCalling : ∀ ops, (s.threads t).activity ≠ .calling ops)
    (others : ∀ u, u ≠ t → (after.threads u).activity = (s.threads u).activity)
    (selves : ∀ u, u ≠ t → (after.threads u).self = (s.threads u).self)
    (ownAnnounced : ∀ ops, (after.threads t).activity = .calling ops → Announced ops)
    (ownPredicate : ∀ call, (after.threads t).activity = .parked call false →
      after.wakePredicate (after.threads t).self call = false)
    (weaker : ∀ u call, (s.threads u).activity = .parked call false →
      after.wakePredicate (s.threads u).self call = true →
        s.wakePredicate (s.threads u).self call = true) :
    after.WakeupInvariant := by
  constructor
  · intro u ops calling
    by_cases own : u = t
    · subst own
      exact ownAnnounced ops calling
    · rw [others u own] at calling
      exact invariant.announced u ops calling
  · rintro u call ⟨parked, awake⟩
    by_cases own : u = t
    · subst own
      rw [ownPredicate call parked] at awake
      cases awake
    · rw [others u own] at parked
      rw [selves u own] at awake
      obtain ⟨waker, ops, calling, owes⟩ :=
        invariant.notified u call ⟨parked, weaker u call parked awake⟩
      have wakerOther : waker ≠ t := by
        rintro rfl
        exact notCalling ops calling
      exact ⟨waker, ops, (others waker wakerOther).trans calling, owes⟩

/-- Evaluating a wait leaves its own thread parked only with a false predicate, and makes
no predicate true. -/
theorem WakeupInvariant.evaluateWait {t : ThreadId} {call : WaitCall} {otherwise : Activity}
    {result : WaitResult} (invariant : s.WakeupInvariant)
    (notCalling : ∀ ops, (s.threads t).activity ≠ .calling ops)
    (otherwiseQuiet : otherwise = .parked call false ∨ otherwise = .running) :
    (s.evaluateWait t call otherwise result).1.WakeupInvariant := by
  unfold KernelState.evaluateWait finishWait
  dsimp only
  have looked : ∀ self other,
      ({ s with handleTable := (s.handleTable.subscript call.handle).2 } :
        KernelState).wakePredicate self other = s.wakePredicate self other := by
    intro self other
    simp [hasPendingApc]
  split_ifs with awake apc
  · refine invariant.of_quiet notCalling
      (fun u different => setActivity_activity_of_ne _ different _)
      (fun u _ => setActivity_self ..) (by simp) (by simp) ?_
    intro u other _ awakeAfter
    exact (looked _ other).symm.trans awakeAfter
  · refine invariant.of_quiet notCalling
      (fun u different => setActivity_activity_of_ne _ different _)
      (fun u _ => setActivity_self ..) (by simp) (by simp) ?_
    intro u other _ consumed
    rw [wakePredicate_eq, Bool.or_eq_true] at consumed ⊢
    rcases consumed with signaled | pending
    · left
      have before := HandleTable.isSignaled_of_consume _ _ signaled
      rwa [HandleTable.isSignaled_subscript] at before
    · exact Or.inr pending
  · refine invariant.of_quiet notCalling
      (fun u different => setActivity_activity_of_ne _ different _)
      (fun u _ => setActivity_self ..) ?_ ?_ ?_
    · rcases otherwiseQuiet with rfl | rfl <;> simp
    · intro other parked
      rw [setActivity_activity_same] at parked
      rcases otherwiseQuiet with rfl | rfl
      · obtain ⟨rfl, -⟩ := Activity.parked.inj parked
        rw [setActivity_self]
        exact (looked _ _).trans (Bool.eq_false_iff.mpr awake)
      · cases parked
    · intro u other _ awakeAfter
      exact (looked _ other).symm.trans awakeAfter

theorem afterOps_eq_calling {ops rest : List MicroOp}
    (calling : Activity.afterOps ops = .calling rest) : rest = ops := by
  cases ops with
  | nil => cases calling
  | cons op ops => exact (Activity.calling.inj calling).symm

theorem afterOps_of_owes {ops : List MicroOp} (owes : OwesNotify ops) :
    Activity.afterOps ops = .calling ops := by
  cases ops with
  | nil => cases owes
  | cons op rest => rfl

/-- The caller still owes its notification after a step that is none. -/
theorem WillNotify.of_afterOps {t : ThreadId} {rest : List MicroOp} (owes : OwesNotify rest) :
    (s.setActivity t (.afterOps rest)).WillNotify t :=
  ⟨rest, (setActivity_activity_same ..).trans (afterOps_of_owes owes), owes⟩

/-- A step of the caller that is not its notification leaves every pending notification. -/
theorem WillNotify.afterOp {t u : ThreadId} {op : MicroOp} {rest : List MicroOp}
    (calling : (s.threads t).activity = .calling (op :: rest)) (silent : op.notifies = false)
    (willNotify : s.WillNotify u) : (s.setActivity t (.afterOps rest)).WillNotify u := by
  by_cases own : u = t
  · subst own
    obtain ⟨ops, same, owes⟩ := willNotify
    obtain rfl := Activity.calling.inj (calling.symm.trans same)
    rcases owes.2 with notifies | later
    · rw [silent] at notifies
      cases notifies
    · exact WillNotify.of_afterOps later
  · exact willNotify.setActivity_of_ne own _

/-- What remains of every call after a step of one of them. -/
theorem announced_afterOp {t : ThreadId} {op : MicroOp} {rest : List MicroOp}
    (announced : ∀ u ops, (s.threads u).activity = .calling ops → Announced ops)
    (calling : (s.threads t).activity = .calling (op :: rest)) (u : ThreadId)
    (ops : List MicroOp)
    (remaining : ((s.setActivity t (.afterOps rest)).threads u).activity = .calling ops) :
    Announced ops := by
  by_cases own : u = t
  · subst own
    rw [setActivity_activity_same] at remaining
    rw [afterOps_eq_calling remaining]
    exact (announced u _ calling).2
  · rw [setActivity_activity_of_ne _ own] at remaining
    exact announced u ops remaining

/-- A step that may make predicates true is covered by its own notification. -/
theorem WakeupInvariant.of_announces {t : ThreadId} {op : MicroOp} {rest : List MicroOp}
    (invariant : s.WakeupInvariant) (calling : (s.threads t).activity = .calling (op :: rest))
    (announces : op.announces = true) (threads : after.threads = s.threads) :
    (after.setActivity t (.afterOps rest)).WakeupInvariant := by
  have announced : ∀ u ops, (after.threads u).activity = .calling ops → Announced ops := by
    rw [threads]
    exact invariant.announced
  have callingAfter : (after.threads t).activity = .calling (op :: rest) := by
    rw [threads]
    exact calling
  refine ⟨announced_afterOp announced callingAfter, ?_⟩
  intro u call _
  exact ⟨t, WillNotify.of_afterOps ((invariant.announced t _ calling).1 announces)⟩

theorem notifyAll_calling {u : ThreadId} {ops : List MicroOp}
    (calling : (s.notifyAll.threads u).activity = .calling ops) :
    (s.threads u).activity = .calling ops := by
  unfold notifyAll at calling
  dsimp only at calling
  split at calling
  · cases calling
  · exact calling

theorem notifyAll_activity_of_calling {u : ThreadId} {ops : List MicroOp}
    (calling : (s.threads u).activity = .calling ops) :
    (s.notifyAll.threads u).activity = .calling ops := by
  unfold notifyAll
  simp [calling]

/-- After a notification there is nothing to miss. -/
theorem WakeupInvariant.of_notifyAll {t : ThreadId} {op : MicroOp} {rest : List MicroOp}
    (invariant : s.WakeupInvariant) (calling : (s.threads t).activity = .calling (op :: rest))
    (threads : after.threads = s.threads) :
    (after.notifyAll.setActivity t (.afterOps rest)).WakeupInvariant := by
  have callingAfter : (after.threads t).activity = .calling (op :: rest) := by
    rw [threads]
    exact calling
  refine ⟨announced_afterOp ?_ (notifyAll_activity_of_calling callingAfter), ?_⟩
  · intro u ops remaining
    have before := notifyAll_calling remaining
    rw [threads] at before
    exact invariant.announced u ops before
  · rintro u call ⟨parked, -⟩
    by_cases own : u = t
    · subst own
      rw [setActivity_activity_same] at parked
      exact (Activity.afterOps_ne_parked _ _ _ parked).elim
    · rw [setActivity_activity_of_ne _ own] at parked
      exact (notifyAll_notified _ _ _ parked).elim

/-- A release needs somebody else's notification when it can wake a waiter. -/
def ReleaseAnnounced (s : KernelState) (t : ThreadId) (handle : Word) : Prop :=
  (s.handleTable handle).isSome = true →
    (∃ u call, (s.threads u).activity = .parked call false ∧ call.handle = handle) →
      ∃ u, u ≠ t ∧ s.WillNotify u

theorem WakeupInvariant.release {t : ThreadId} {handle : Word} {rest : List MicroOp}
    (invariant : s.WakeupInvariant)
    (calling : (s.threads t).activity = .calling (.release handle :: rest))
    (announced : s.ReleaseAnnounced t handle) :
    (s.applyOp t (.release handle) rest).WakeupInvariant := by
  refine ⟨announced_afterOp (s := { s with handleTable := s.handleTable.signal handle })
    invariant.announced calling, ?_⟩
  rintro u call ⟨parked, awake⟩
  have other : u ≠ t := by
    rintro rfl
    rw [applyOp, setActivity_activity_same] at parked
    exact Activity.afterOps_ne_parked _ _ _ parked
  rw [applyOp, setActivity_activity_of_ne _ other] at parked
  suffices willNotify : ∃ w, s.WillNotify w by
    obtain ⟨w, willNotify⟩ := willNotify
    exact ⟨w, WillNotify.afterOp (s := { s with handleTable := s.handleTable.signal handle })
      calling rfl willNotify⟩
  by_cases onHandle : call.handle = handle ∧ (s.handleTable handle).isSome = true
  · obtain ⟨w, -, willNotify⟩ := announced onHandle.2 ⟨u, call, parked, onHandle.1⟩
    exact ⟨w, willNotify⟩
  · refine invariant.notified u call ⟨parked, ?_⟩
    simp only [applyOp, wakePredicate_eq, setActivity_handleTable, setActivity_self,
      HandleTable.isSignaled_signal] at awake
    rw [wakePredicate_eq]
    rw [Bool.or_eq_true] at awake ⊢
    refine awake.imp_left fun signaled => ?_
    split_ifs at signaled with same
    · exact absurd ⟨same, signaled⟩ onHandle
    · exact signaled

theorem WakeupInvariant.exit {t : ThreadId} {rest : List MicroOp} (invariant : s.WakeupInvariant)
    (calling : (s.threads t).activity = .calling (.exit :: rest)) :
    (s.applyOp t .exit rest).WakeupInvariant := by
  constructor
  · intro u ops remaining
    by_cases own : u = t
    · subst own
      rw [applyOp, setActivity_activity_same] at remaining
      cases remaining
    · rw [applyOp, setActivity_activity_of_ne _ own] at remaining
      exact invariant.announced u ops remaining
  · rintro u call ⟨parked, awake⟩
    have other : u ≠ t := by
      rintro rfl
      rw [applyOp, setActivity_activity_same] at parked
      cases parked
    rw [applyOp, setActivity_activity_of_ne _ other] at parked
    rw [applyOp, setActivity_self] at awake
    obtain ⟨w, willNotify⟩ := invariant.notified u call ⟨parked, awake⟩
    refine ⟨w, willNotify.setActivity_of_ne ?_ _⟩
    rintro rfl
    obtain ⟨ops, same, owes⟩ := willNotify
    obtain rfl := Activity.calling.inj (calling.symm.trans same)
    exact owes.1 rfl

theorem WakeupInvariant.applyOp {t : ThreadId} {op : MicroOp} {rest : List MicroOp}
    (invariant : s.WakeupInvariant) (calling : (s.threads t).activity = .calling (op :: rest))
    (announced : ∀ handle, op = .release handle → s.ReleaseAnnounced t handle) :
    (s.applyOp t op rest).WakeupInvariant := by
  cases op with
  | signal handle => exact invariant.of_announces calling rfl rfl
  | release handle => exact invariant.release calling (announced handle rfl)
  | queueApc targetThreadHandle apc => exact invariant.of_announces calling rfl rfl
  | notifyAll => exact invariant.of_notifyAll calling rfl
  | signalAndNotify handle => exact invariant.of_notifyAll calling rfl
  | exit => exact invariant.exit calling

theorem WakeupInvariant.begin {t : ThreadId} {call : MutatingCall} (invariant : s.WakeupInvariant)
    (running : (s.threads t).activity = .running) :
    (s.setActivity t (.afterOps (microOps (s.threads t).self call))).WakeupInvariant := by
  refine invariant.of_quiet (by simp [running])
    (fun u different => setActivity_activity_of_ne _ different _)
    (fun u _ => setActivity_self ..) ?_ ?_ (fun _ _ _ awake => awake)
  · intro ops calling
    rw [setActivity_activity_same] at calling
    rw [afterOps_eq_calling calling]
    exact microOps_announced ..
  · intro other parked
    rw [setActivity_activity_same] at parked
    exact absurd parked (Activity.afterOps_ne_parked _ other false)

/-- Taking a procedure call out of a queue makes no predicate true. -/
theorem WakeupInvariant.tryDeliverOneApc {t : ThreadId} (invariant : s.WakeupInvariant)
    (delivering : (s.threads t).activity = .delivering) :
    (s.tryDeliverOneApc t).WakeupInvariant := by
  unfold KernelState.tryDeliverOneApc
  split
  · exact invariant.of_quiet (by simp [delivering])
      (fun u different => setActivity_activity_of_ne _ different _)
      (fun u _ => setActivity_self ..) (by simp) (by simp) (fun _ _ _ awake => awake)
  · rename_i first rest queue
    refine invariant.of_quiet (t := t) (by simp [delivering]) ?_ ?_ (by simp) (by simp) ?_
    · intro u different
      simp [Function.update_of_ne different]
    · intro u different
      simp [Function.update_of_ne different]
    · intro u call _ awake
      rw [wakePredicate_eq, Bool.or_eq_true] at awake ⊢
      refine awake.imp_right fun pending => ?_
      rw [Bool.and_eq_true] at pending ⊢
      refine pending.imp_right fun nonempty => ?_
      rw [hasPendingApc] at nonempty ⊢
      by_cases same : (s.threads u).self = (s.threads t).self
      · rw [same, queue]
        rfl
      · simpa [Function.update_of_ne same] using nonempty

theorem WakeupInvariant.returnUserApc {t : ThreadId} (invariant : s.WakeupInvariant)
    (running : (s.threads t).activity = .running) :
    (s.returnUserApc t).WakeupInvariant := by
  refine invariant.of_quiet (t := t) (by simp [running]) ?_ ?_
    (by simp [KernelState.returnUserApc, running])
    (by simp [KernelState.returnUserApc, running]) (fun _ _ _ awake => awake)
  · intro u different
    simp [KernelState.returnUserApc, Function.update_of_ne different]
  · intro u different
    simp [KernelState.returnUserApc, Function.update_of_ne different]

theorem WakeupInvariant.ntClose {t : ThreadId} {handle : Word} (invariant : s.WakeupInvariant)
    (running : (s.threads t).activity = .running) : (s.ntClose handle).WakeupInvariant := by
  refine invariant.of_quiet (t := t) (by simp [running]) (fun _ _ => rfl) (fun _ _ => rfl)
    (by simp [KernelState.ntClose, running]) (by simp [KernelState.ntClose, running]) ?_
  intro u call _ awake
  rw [wakePredicate_eq, Bool.or_eq_true] at awake ⊢
  refine awake.imp_left fun signaled => ?_
  by_cases same : call.handle = handle
  · simp [KernelState.ntClose, HandleTable.isSignaled, same, HandleTable.erase_same] at signaled
  · simpa [KernelState.ntClose, HandleTable.isSignaled, HandleTable.erase_of_ne _ _ same]
      using signaled

theorem WakeupInvariant.create {t : ThreadId} {call : CreateCall} (invariant : s.WakeupInvariant)
    (running : (s.threads t).activity = .running)
    (absent : ∀ child, call = .exCreateThread child → (s.threads child).activity = .absent)
    (fresh : ∀ u wait notified, (s.threads u).activity = .parked wait notified →
      wait.handle ≠ s.nextHandle) :
    (s.create call).WakeupInvariant := by
  have weaker : ∀ u wait, (s.threads u).activity = .parked wait false →
      (s.create call).wakePredicate (s.threads u).self wait = true →
        s.wakePredicate (s.threads u).self wait = true := by
    intro u wait parked awake
    rw [wakePredicate_eq, Bool.or_eq_true] at awake ⊢
    refine awake.imp_left fun signaled => ?_
    simpa [KernelState.create, HandleTable.isSignaled,
      HandleTable.insert_of_ne _ _ _ (fresh u wait false parked)] using signaled
  cases call with
  | exCreateThread child =>
      refine invariant.of_quiet (t := child) (by simp [absent child rfl]) ?_ ?_
        (by simp [KernelState.create]) (by simp [KernelState.create]) weaker
      · intro u different
        simp [KernelState.create, Function.update_of_ne different]
      · intro u different
        simp [KernelState.create, Function.update_of_ne different]
  | _ =>
      exact invariant.of_quiet (t := t) (by simp [running]) (fun _ _ => rfl) (fun _ _ => rfl)
        (by simp [KernelState.create, running]) (by simp [KernelState.create, running]) weaker

/-- A release that can wake a waiter is covered by another thread's notification, and no
handle is created that a thread is parked on. -/
def WakeupsAnnounced (s : KernelState) : KernelLabel → Prop
  | .micro t (.release handle) => s.ReleaseAnnounced t handle
  | .create _ _ handle => ∀ u wait notified,
      (s.threads u).activity = .parked wait notified → wait.handle ≠ handle
  | _ => True

theorem WakeupInvariant.step (invariant : s.WakeupInvariant) (step : KernelStep s label after)
    (announced : s.WakeupsAnnounced label) : after.WakeupInvariant := by
  cases step with
  | begin t call running => exact invariant.begin running
  | micro t op calling =>
      refine invariant.applyOp calling ?_
      rintro handle rfl
      exact announced
  | enter t call running =>
      unfold enterWait
      split
      · exact invariant
      · exact invariant.evaluateWait (by simp [running]) (Or.inl rfl)
  | wake t call parked => exact invariant.evaluateWait (by simp [parked]) (Or.inl rfl)
  | timeOut t call parked => exact invariant.evaluateWait (by simp [parked]) (Or.inr rfl)
  | deliver t delivering => exact invariant.tryDeliverOneApc delivering
  | returnUserApc t running => exact invariant.returnUserApc running
  | create t call running absent => exact invariant.create running absent announced
  | close t handle running => exact invariant.ntClose running

theorem WakeupInvariant.of_isQuiescent (quiescent : s.IsQuiescent) : s.WakeupInvariant := by
  constructor
  · intro t ops calling
    rcases quiescent t with running | absent
    · simp [running] at calling
    · simp [absent] at calling
  · rintro t call ⟨parked, -⟩
    rcases quiescent t with running | absent
    · simp [running] at parked
    · simp [absent] at parked

end KernelState

/-- In every state reached by allowed steps, once all mutating calls have returned, no
parked thread misses a wakeup. -/
def NoLostWakeup (init : KernelState → Prop) (allowed : KernelState → KernelLabel → Prop) :
    Prop :=
  ∀ s, ((kernelSystem init).restrict allowed).Reachable s → s.AllReturned →
    ∀ t call, ¬ s.MissesWakeup t call

/-- Releases apart, every call notifies the waiters it makes runnable. -/
theorem noLostWakeup_of_wakeupsAnnounced {s : KernelState}
    (reachable : ((kernelSystem KernelState.IsQuiescent).restrict
      KernelState.WakeupsAnnounced).Reachable s)
    (returned : s.AllReturned) (t : ThreadId) (call : WaitCall) : ¬ s.MissesWakeup t call := by
  have invariant : s.WakeupInvariant := by
    apply reachable.invariant KernelState.WakeupInvariant
    · intro start quiescent
      exact .of_isQuiescent quiescent
    · intro before label after holds step
      exact holds.step step.1 step.2
  exact invariant.not_missed returned t call

/-- A thread waits for an event and another sets it. -/
theorem noLostWakeup_of_wakeupsAnnounced_setEvent :
    ∃ s, ((kernelSystem KernelState.IsQuiescent).restrict
        KernelState.WakeupsAnnounced).Reachable s ∧
      (s.threads 1).activity = .parked ⟨firstHandle, false, false⟩ true ∧
      ∀ t call, ¬ s.MissesWakeup t call := by
  let created := twoThreads.create (.ntCreateEvent true false)
  let wait : WaitCall := ⟨firstHandle, false, false⟩
  let waiting := (created.enterWait 1 wait).1
  let setting := waiting.setActivity 0 (.calling [.signal firstHandle, .notifyAll])
  let signaled := setting.applyOp 0 (.signal firstHandle) [.notifyAll]
  let done := signaled.applyOp 0 .notifyAll []
  have run : ((kernelSystem KernelState.IsQuiescent).restrict
      KernelState.WakeupsAnnounced).Run twoThreads
      [.create 0 (.ntCreateEvent true false) firstHandle, .enter 1 wait .parked,
        .begin 0 (.ntSetEvent firstHandle), .micro 0 (.signal firstHandle),
        .micro 0 .notifyAll] done := by
    refine .head ⟨.create 0 (.ntCreateEvent true false) rfl (by simp), ?_⟩ <|
      .head ⟨.enter 1 wait rfl, trivial⟩ <|
        .head ⟨.begin 0 (.ntSetEvent firstHandle) rfl, trivial⟩ <|
          .head ⟨.micro 0 (.signal firstHandle) rfl, trivial⟩ <|
            .single ⟨.micro 0 .notifyAll rfl, trivial⟩
    intro u other notified parked
    simp only [twoThreads] at parked
    split_ifs at parked
  have reachable : ((kernelSystem KernelState.IsQuiescent).restrict
      KernelState.WakeupsAnnounced).Reachable done :=
    ⟨_, twoThreads, twoThreads_isBoot.1, run⟩
  refine ⟨done, reachable, rfl, noLostWakeup_of_wakeupsAnnounced reachable ?_⟩
  intro t ops calling
  rcases t with _ | _ | t
  · cases calling
  · cases calling
  · have absent : (done.threads (t + 2)).activity = .absent := by rfl
    rw [absent] at calling
    cases calling

/-- One thread creates a mutant it owns, another waits for it, and the owner releases it. -/
theorem releasedMutant_losesWakeup :
    ¬ NoLostWakeup KernelState.IsBoot (fun _ _ => True) := by
  intro noneLost
  let owned := twoThreads.create (.ntCreateMutant true)
  let wait : WaitCall := ⟨firstHandle, false, false⟩
  let waiting := (owned.enterWait 1 wait).1
  let releasing := waiting.setActivity 0 (.calling [.release firstHandle])
  let released := releasing.applyOp 0 (.release firstHandle) []
  have run : ((kernelSystem KernelState.IsBoot).restrict (fun _ _ => True)).Run twoThreads
      [.create 0 (.ntCreateMutant true) firstHandle, .enter 1 wait .parked,
        .begin 0 (.ntReleaseMutant firstHandle), .micro 0 (.release firstHandle)] released :=
    .head ⟨.create 0 (.ntCreateMutant true) rfl (by simp), trivial⟩ <|
      .head ⟨.enter 1 wait rfl, trivial⟩ <|
        .head ⟨.begin 0 (.ntReleaseMutant firstHandle) rfl, trivial⟩ <|
          .single ⟨.micro 0 (.release firstHandle) rfl, trivial⟩
  refine noneLost released ⟨_, twoThreads, twoThreads_isBoot, run⟩ ?_ 1 wait ⟨rfl, rfl⟩
  intro t ops calling
  rcases t with _ | _ | t
  · cases calling
  · cases calling
  · have absent : (released.threads (t + 2)).activity = .absent := by rfl
    rw [absent] at calling
    cases calling

end BumpinHost.Kernel
