import BumpinHost.Kernel.Apcs
import BumpinHost.Library.Reservations

/-!
# Whose procedure calls a wait delivers

A queue belongs to a handle, and every thread that the guest has not created has the
handle zero.  Beside the kernel's state runs what the code does not record: which thread
issued the read behind a queued call, and which threads are between the test for a
pending call and taking one.
-/

namespace BumpinHost.Kernel

open Reservations (Honourable)

def kStatusUserApc : Word := 0xC0
def kStatusTimeout : Word := 258

/-- The status of a wait that is over without delivering. -/
def WaitResult.status : WaitResult → Option Word
  | invalidHandle => some 0xC0000008
  | success => some 0
  | timedOut => some kStatusTimeout
  | parked => none
  | userApc => none

/-- A thread, by its place in the state and how often the place has been reused. -/
abbrev ThreadInstance := ThreadId × Nat

structure OwnedState where
  kernel : KernelState
  /-- For each queued entry, the thread whose read it completes. -/
  issuers : Word → List (Option ThreadInstance)
  /-- Threads that have found the queue not empty and not taken from it yet. -/
  takers : Word → List ThreadInstance
  /-- The call the thread has last begun is `NtReadFile`. -/
  reading : ThreadId → Bool
  /-- How often the thread's place has been given to a new thread. -/
  incarnation : ThreadId → Nat

inductive ApcOutcome
  | executed (executor : ThreadInstance) (issuer : Option ThreadInstance)
  | returned (status : Word) (apcsExecuted : Nat)
deriving DecidableEq, Repr

def MutatingCall.isRead : MutatingCall → Bool
  | ntReadFile .. => true
  | _ => false

namespace OwnedState

variable (s : OwnedState)

def threadInstance (t : ThreadId) : ThreadInstance := (t, s.incarnation t)

def self (t : ThreadId) : Word := (s.kernel.threads t).self

/-- What is recorded beside a step of the kernel. -/
def next (label : KernelLabel) (after : KernelState) : OwnedState :=
  match label with
  | .begin t call =>
      { s with kernel := after, reading := Function.update s.reading t call.isRead }
  | .micro t (.queueApc target _) =>
      { s with
        kernel := after
        issuers := Function.update s.issuers target
          (s.issuers target ++ [if s.reading t then some (s.threadInstance t) else none]) }
  | .deliver t =>
      { s with
        kernel := after
        issuers := Function.update s.issuers (s.self t) (s.issuers (s.self t)).tail
        takers := Function.update s.takers (s.self t)
          ((s.takers (s.self t)).erase (s.threadInstance t)) }
  | .create _ (.exCreateThread child) _ =>
      { s with
        kernel := after
        incarnation := Function.update s.incarnation child (s.incarnation child + 1) }
  | label =>
      match label.wokenForApc with
      | none => { s with kernel := after }
      | some _ =>
          { s with
            kernel := after
            takers := Function.update s.takers (s.self label.thread)
              (s.threadInstance label.thread :: s.takers (s.self label.thread)) }

/-- A routine that a step starts, or a wait that it returns from. -/
def outcome : KernelLabel → Option ApcOutcome
  | .deliver t =>
      match s.kernel.apcQueues (s.self t) with
      | [] => some (.returned kStatusUserApc 0)
      | _ :: _ => some (.executed (s.threadInstance t) (s.issuers (s.self t)).head?.join)
  | .returnUserApc _ => some (.returned kStatusUserApc 1)
  | .enter _ _ result | .wake _ _ result | .timeOut _ _ result =>
      result.status.map fun status => .returned status 0
  | _ => none

/-- The thread may have whatever is at the front when it comes to take its entry: there is
one for it and for every other taker, and the reads behind these were issued by them. -/
def MayTake (t : ThreadId) : Prop :=
  Honourable (fun taker issuer => ∀ issued, issuer = some issued → taker = issued)
    (s.issuers (s.self t)) (s.threadInstance t :: s.takers (s.self t))

/-- Where the step is an alertable wait that finds a call pending, its thread may take. -/
def ClaimsOwn : KernelLabel → Prop
  | .enter t call _ => (s.kernel.handleTable call.handle).isSome = true →
      call.alertable = true → s.kernel.hasPendingApc (s.self t) = true → s.MayTake t
  | .wake t call _ | .timeOut t call _ =>
      call.alertable = true → s.kernel.hasPendingApc (s.self t) = true → s.MayTake t
  | _ => True

structure IsBoot : Prop where
  kernel : s.kernel.IsBoot
  queues : s.kernel.apcQueues = fun _ => []
  issuers : s.issuers = fun _ => []
  takers : s.takers = fun _ => []

end OwnedState

def apcOwnerSystem : Transition.System OwnedState (KernelLabel × Option ApcOutcome) where
  init := OwnedState.IsBoot
  step before label after :=
    KernelStep before.kernel label.1 after.kernel ∧
      after = before.next label.1 after.kernel ∧ label.2 = before.outcome label.1

/-- The runs in which every wait that goes to take an entry may take what it gets. -/
def claimingOwnSystem : Transition.System OwnedState (KernelLabel × Option ApcOutcome) :=
  apcOwnerSystem.restrict fun before label => before.ClaimsOwn label.1

/-- A completion runs on the thread that issued the read, and a wait returns
`STATUS_USER_APC` exactly when it has executed one call. -/
def ApcOutcome.Belongs : ApcOutcome → Prop
  | executed executor issuer => ∀ issued, issuer = some issued → executor = issued
  | returned status apcsExecuted => status = kStatusUserApc ↔ apcsExecuted = 1

def ApcsBelong (trace : List (KernelLabel × Option ApcOutcome)) : Prop :=
  ∀ label outcome, (label, some outcome) ∈ trace → outcome.Belongs

theorem KernelLabel.waitOutcome_of_wokenForApc {label : KernelLabel} {call : WaitCall}
    (woken : label.wokenForApc = some call) : label.waitOutcome = some (call, .userApc) := by
  unfold wokenForApc at woken
  split at woken
  · rename_i outcome
    obtain rfl := Option.some.inj woken
    exact outcome
  · cases woken

theorem WaitResult.belongs_of_status {result : WaitResult} {outcome : ApcOutcome}
    (isOutcome : (result.status.map fun status => .returned status 0) = some outcome) :
    outcome.Belongs := by
  have unlike {status : Word} (different : status ≠ kStatusUserApc) :
      (ApcOutcome.returned status 0).Belongs := iff_of_false different (by decide)
  cases result with
  | invalidHandle | success | timedOut =>
      obtain rfl := Option.some.inj isOutcome
      exact unlike (by decide)
  | parked | userApc => cases isOutcome

namespace OwnedState

variable {s : OwnedState}

/-- The claims that are open on each queue can be honoured, and every thread on its way to
take an entry has one. -/
structure ClaimsHonoured (s : OwnedState) : Prop where
  aligned : ∀ handle, (s.issuers handle).length = (s.kernel.apcQueues handle).length
  honourable : ∀ handle, Honourable
    (fun taker issuer => ∀ issued, issuer = some issued → taker = issued)
    (s.issuers handle) (s.takers handle)
  claims : ∀ t handle, s.kernel.delivering t = some handle →
    s.threadInstance t ∈ s.takers handle

theorem IsBoot.claimsHonoured (boot : s.IsBoot) : s.ClaimsHonoured := by
  constructor
  · intro handle
    rw [boot.issuers, boot.queues]
    rfl
  · intro handle
    rw [boot.takers]
    exact Honourable.unclaimed ..
  · intro t handle delivering
    have quiescent := boot.kernel.1 t
    rw [s.kernel.delivering_eq_none (by rcases quiescent with is | is <;> simp [is])] at delivering
    cases delivering

/-- A wait can only be woken for a call that it finds pending. -/
theorem ClaimsOwn.mayTake {label : KernelLabel} {after : KernelState} {call : WaitCall}
    (claimsOwn : s.ClaimsOwn label) (step : KernelStep s.kernel label after)
    (woken : label.wokenForApc = some call) (alertable : call.alertable = true)
    (pending : s.kernel.apcQueues (s.self label.thread) ≠ []) : s.MayTake label.thread := by
  have isPending : s.kernel.hasPendingApc (s.self label.thread) = true := by
    rw [KernelState.hasPendingApc]
    cases queue : s.kernel.apcQueues (s.self label.thread) with
    | nil => exact absurd queue pending
    | cons => rfl
  have outcome := KernelLabel.waitOutcome_of_wokenForApc woken
  cases step with
  | enter t other running =>
      obtain ⟨rfl, result⟩ := Prod.mk.inj (Option.some.inj outcome)
      apply claimsOwn _ alertable isPending
      cases found : s.kernel.handleTable other.handle with
      | none =>
          rw [KernelState.enterWait, found] at result
          cases result
      | some obj => rfl
  | wake t other parked =>
      obtain ⟨rfl, -⟩ := Prod.mk.inj (Option.some.inj outcome)
      exact claimsOwn alertable isPending
  | timeOut t other parked =>
      obtain ⟨rfl, -⟩ := Prod.mk.inj (Option.some.inj outcome)
      exact claimsOwn alertable isPending
  | _ => cases outcome

theorem next_kernel (label : KernelLabel) (after : KernelState) :
    (s.next label after).kernel = after := by
  cases label with
  | micro t op => cases op <;> rfl
  | create t call handle => cases call <;> rfl
  | enter | wake | timeOut =>
      unfold next
      dsimp only
      split <;> rfl
  | _ => rfl

/-- Only a new thread gets a new instance, and it is not delivering. -/
theorem next_threadInstance {label : KernelLabel} {after : KernelState}
    (step : KernelStep s.kernel label after) {t : ThreadId} {handle : Word}
    (delivering : after.delivering t = some handle) :
    (s.next label after).threadInstance t = s.threadInstance t := by
  cases step with
  | micro u op => cases op <;> rfl
  | enter | wake | timeOut =>
      unfold next
      dsimp only
      split <;> rfl
  | create u call running fresh =>
      cases call with
      | exCreateThread child =>
          have other : t ≠ child := by
            rintro rfl
            simp [KernelState.delivering, KernelState.create] at delivering
          simp [threadInstance, next, other]
      | _ => rfl
  | _ => rfl

theorem next_of_woken {label : KernelLabel} {call : WaitCall} (after : KernelState)
    (woken : label.wokenForApc = some call) :
    (s.next label after).issuers = s.issuers ∧
      (s.next label after).takers = Function.update s.takers (s.self label.thread)
        (s.threadInstance label.thread :: s.takers (s.self label.thread)) := by
  cases label with
  | enter | wake | timeOut =>
      unfold next
      dsimp only
      rw [woken]
      exact ⟨rfl, rfl⟩
  | _ => cases woken

theorem next_of_other {label : KernelLabel} {after : KernelState}
    (step : KernelStep s.kernel label after) (was : s.kernel.delivering label.thread = none)
    (notWoken : label.wokenForApc = none) (event : s.kernel.apcEvent label = none) :
    (s.next label after).issuers = s.issuers ∧ (s.next label after).takers = s.takers := by
  cases step with
  | micro t op =>
      cases op with
      | queueApc => cases event
      | _ => exact ⟨rfl, rfl⟩
  | enter | wake | timeOut =>
      unfold next
      dsimp only
      rw [notWoken]
      exact ⟨rfl, rfl⟩
  | create t call => cases call <;> exact ⟨rfl, rfl⟩
  | deliver t delivering =>
      rw [KernelLabel.thread, KernelState.delivering, if_pos delivering] at was
      cases was
  | _ => exact ⟨rfl, rfl⟩

theorem ClaimsHonoured.queueApc {t : ThreadId} {target : Word} {apc : ApcEntry}
    {after : KernelState} (honoured : s.ClaimsHonoured)
    (queues : after.apcQueues =
      Function.update s.kernel.apcQueues target (s.kernel.apcQueues target ++ [apc]))
    (same : after.delivering = s.kernel.delivering) :
    (s.next (.micro t (.queueApc target apc)) after).ClaimsHonoured := by
  constructor
  · intro handle
    dsimp only [next]
    rw [queues]
    by_cases here : handle = target
    · subst here
      rw [Function.update_self, Function.update_self, List.length_append, List.length_append,
        honoured.aligned]
      rfl
    · rw [Function.update_of_ne here, Function.update_of_ne here]
      exact honoured.aligned handle
  · intro handle
    dsimp only [next]
    by_cases here : handle = target
    · subst here
      rw [Function.update_self]
      exact (honoured.honourable handle).put _
    · rw [Function.update_of_ne here]
      exact honoured.honourable handle
  · intro u handle delivering
    rw [next_kernel, same] at delivering
    exact honoured.claims u handle delivering

theorem ClaimsHonoured.wakeForApc {label : KernelLabel} {after : KernelState} {call : WaitCall}
    (honoured : s.ClaimsHonoured) (step : KernelStep s.kernel label after)
    (woken : label.wokenForApc = some call) (mayTake : s.MayTake label.thread)
    (queues : after.apcQueues = s.kernel.apcQueues)
    (same : after.delivering = Function.update s.kernel.delivering label.thread
      (some (s.self label.thread))) : (s.next label after).ClaimsHonoured := by
  obtain ⟨issuers, takers⟩ := next_of_woken after woken (s := s)
  constructor
  · intro handle
    rw [issuers, next_kernel, queues]
    exact honoured.aligned handle
  · intro handle
    rw [issuers, takers]
    by_cases here : handle = s.self label.thread
    · subst here
      rw [Function.update_self]
      exact mayTake
    · rw [Function.update_of_ne here]
      exact honoured.honourable handle
  · intro u handle delivering
    rw [next_kernel] at delivering
    rw [next_threadInstance step delivering, takers]
    by_cases own : u = label.thread
    · subst own
      rw [same, Function.update_self] at delivering
      obtain rfl := Option.some.inj delivering
      rw [Function.update_self]
      exact List.mem_cons_self ..
    · rw [same, Function.update_of_ne own] at delivering
      have claimed := honoured.claims u handle delivering
      by_cases here : handle = s.self label.thread
      · subst here
        rw [Function.update_self]
        exact List.mem_cons_of_mem _ claimed
      · rw [Function.update_of_ne here]
        exact claimed

/-- A thread on its way to take an entry finds one that it may have. -/
theorem ClaimsHonoured.exists_front (honoured : s.ClaimsHonoured) {t : ThreadId}
    (delivering : s.kernel.delivering t = some (s.self t)) :
    ∃ issuer rest, s.issuers (s.self t) = issuer :: rest ∧
      (∀ issued, issuer = some issued → s.threadInstance t = issued) ∧
      Honourable (fun taker issuer => ∀ issued, issuer = some issued → taker = issued) rest
        ((s.takers (s.self t)).erase (s.threadInstance t)) :=
  (honoured.honourable (s.self t)).serve (honoured.claims t _ delivering)

theorem ClaimsHonoured.deliver {t : ThreadId} {after : KernelState}
    (honoured : s.ClaimsHonoured) (was : s.kernel.delivering t = some (s.self t))
    (queues : after.apcQueues = Function.update s.kernel.apcQueues (s.self t)
      (s.kernel.apcQueues (s.self t)).tail)
    (same : after.delivering = Function.update s.kernel.delivering t none) :
    (s.next (.deliver t) after).ClaimsHonoured := by
  obtain ⟨issuer, rest, front, -, remaining⟩ := honoured.exists_front was
  constructor
  · intro handle
    dsimp only [next]
    rw [queues]
    by_cases here : handle = s.self t
    · subst here
      rw [Function.update_self, Function.update_self, List.length_tail, List.length_tail,
        honoured.aligned]
    · rw [Function.update_of_ne here, Function.update_of_ne here]
      exact honoured.aligned handle
  · intro handle
    dsimp only [next]
    by_cases here : handle = s.self t
    · subst here
      rw [Function.update_self, Function.update_self, front, List.tail_cons]
      exact remaining
    · rw [Function.update_of_ne here, Function.update_of_ne here]
      exact honoured.honourable handle
  · intro u handle delivering
    rw [next_kernel] at delivering
    dsimp only [next]
    by_cases own : u = t
    · subst own
      rw [same, Function.update_self] at delivering
      cases delivering
    · rw [same, Function.update_of_ne own] at delivering
      have claimed := honoured.claims u handle delivering
      by_cases here : handle = s.self t
      · subst here
        rw [Function.update_self]
        have different : s.threadInstance u ≠ s.threadInstance t :=
          fun equal => own (Prod.mk.inj equal).1
        exact (List.mem_erase_of_ne different).mpr claimed
      · rw [Function.update_of_ne here]
        exact claimed

theorem ClaimsHonoured.other {label : KernelLabel} {after : KernelState}
    (honoured : s.ClaimsHonoured) (step : KernelStep s.kernel label after)
    (was : s.kernel.delivering label.thread = none) (notWoken : label.wokenForApc = none)
    (event : s.kernel.apcEvent label = none) (queues : after.apcQueues = s.kernel.apcQueues)
    (same : after.delivering = s.kernel.delivering) :
    (s.next label after).ClaimsHonoured := by
  obtain ⟨issuers, takers⟩ := next_of_other step was notWoken event
  constructor
  · intro handle
    rw [issuers, next_kernel, queues]
    exact honoured.aligned handle
  · intro handle
    rw [issuers, takers]
    exact honoured.honourable handle
  · intro u handle delivering
    rw [next_kernel] at delivering
    rw [next_threadInstance step delivering, takers]
    rw [same] at delivering
    exact honoured.claims u handle delivering

theorem ClaimsHonoured.step {label : KernelLabel} {after : KernelState}
    (honoured : s.ClaimsHonoured) (claimsOwn : s.ClaimsOwn label)
    (step : KernelStep s.kernel label after) : (s.next label after).ClaimsHonoured := by
  cases step.apcStep with
  | queueApc was queues same => exact honoured.queueApc queues same
  | wakeForApc woken alertable pending was queues same =>
      have mayTake := claimsOwn.mayTake step woken alertable pending
      exact honoured.wakeForApc step woken mayTake queues same
  | deliver was queues same => exact honoured.deliver was queues same
  | other was notWoken event queues same =>
      exact honoured.other step was notWoken event queues same

theorem ClaimsHonoured.of_history {trace : List (KernelLabel × Option ApcOutcome)}
    (history : claimingOwnSystem.History trace s) : s.ClaimsHonoured := by
  apply history.invariant fun _ => ClaimsHonoured
  · exact fun boot => boot.claimsHonoured
  · rintro past before label after - honoured ⟨⟨step, next, -⟩, claimsOwn⟩
    rw [next]
    exact honoured.step claimsOwn step

/-- What a step starts or returns where all claims can be honoured. -/
theorem ClaimsHonoured.belongs (honoured : s.ClaimsHonoured) {label : KernelLabel}
    {after : KernelState} {outcome : ApcOutcome} (step : KernelStep s.kernel label after)
    (isOutcome : s.outcome label = some outcome) : outcome.Belongs := by
  cases step with
  | deliver t delivering =>
      obtain ⟨issuer, rest, front, own, -⟩ := honoured.exists_front (if_pos delivering)
      have aligned := honoured.aligned (s.self t)
      rw [OwnedState.outcome] at isOutcome
      cases queue : s.kernel.apcQueues (s.self t) with
      | nil =>
          rw [queue, front] at aligned
          cases aligned
      | cons apc others =>
          rw [queue, front] at isOutcome
          obtain rfl := Option.some.inj isOutcome
          exact own
  | returnUserApc t =>
      obtain rfl := Option.some.inj isOutcome
      exact iff_of_true rfl rfl
  | enter t call => exact WaitResult.belongs_of_status isOutcome
  | wake t call => exact WaitResult.belongs_of_status isOutcome
  | timeOut t call => exact WaitResult.belongs_of_status isOutcome
  | micro t op => cases op <;> cases isOutcome
  | _ => cases isOutcome

end OwnedState

/-- When every wait that goes to take an entry may take what it gets, routines run on the
thread that issued the read and only waits that ran one say so. -/
theorem apcs_belong {trace : List (KernelLabel × Option ApcOutcome)} {final : OwnedState}
    (history : claimingOwnSystem.History trace final) : ApcsBelong trace := by
  intro label outcome member
  obtain ⟨past, future, rfl⟩ := List.append_of_mem member
  obtain ⟨before, after, earlier, ⟨step, -, isOutcome⟩, -⟩ := history.exists_step
  exact (OwnedState.ClaimsHonoured.of_history earlier).belongs step isOutcome.symm

/-- A step of the kernel with what is recorded beside it. -/
theorem apcOwnerSystem_step {before : OwnedState} {label : KernelLabel} {after : KernelState}
    (step : KernelStep before.kernel label after) :
    apcOwnerSystem.step before (label, before.outcome label) (before.next label after) := by
  refine ⟨?_, ?_, rfl⟩
  · rw [OwnedState.next_kernel]
    exact step
  · rw [OwnedState.next_kernel]

/-- The main guest thread and the pump thread, neither of them created by the guest. -/
def mainAndPump : OwnedState where
  kernel :=
    { handleTable := fun _ => none
      nextHandle := firstHandle
      apcQueues := fun _ => []
      threads := fun t => ⟨0, if t < 2 then .running else .absent, 0⟩ }
  issuers _ := []
  takers _ := []
  reading _ := false
  incarnation _ := 0

theorem mainAndPump_isBoot : mainAndPump.IsBoot := by
  constructor
  · refine ⟨?_, rfl, rfl⟩
    intro t
    simp only [mainAndPump]
    split_ifs <;> simp
  · rfl
  · rfl
  · rfl

/-- The steps by which the main thread completes a read. -/
def completionTrace : List (KernelLabel × Option ApcOutcome) :=
  [(.create 0 (.ntCreateEvent true false) firstHandle, none),
    (.begin 0 completedRead, none),
    (.micro 0 (.queueApc 0 completionApc), none),
    (.micro 0 .notifyAll, none)]

def afterBegin : OwnedState :=
  let created := mainAndPump.next (.create 0 (.ntCreateEvent true false) firstHandle)
    (mainAndPump.kernel.create (.ntCreateEvent true false))
  created.next (.begin 0 completedRead)
    (created.kernel.setActivity 0 (.afterOps (microOps 0 completedRead)))

/-- After the read has returned. -/
def afterRead : OwnedState :=
  let queued := afterBegin.next (.micro 0 (.queueApc 0 completionApc))
    (afterBegin.kernel.applyOp 0 (.queueApc 0 completionApc) [.notifyAll])
  queued.next (.micro 0 .notifyAll) (queued.kernel.applyOp 0 .notifyAll [])

theorem afterRead_run :
    claimingOwnSystem.Run mainAndPump completionTrace afterRead := by
  have start : claimingOwnSystem.Run mainAndPump [] mainAndPump := .refl
  have created := start.tail
    ⟨apcOwnerSystem_step (.create 0 (.ntCreateEvent true false) rfl (by simp)), trivial⟩
  have begun := created.tail ⟨apcOwnerSystem_step (.begin 0 completedRead rfl), trivial⟩
  have queued := begun.tail
    ⟨apcOwnerSystem_step (.micro 0 (.queueApc 0 completionApc) rfl), trivial⟩
  exact queued.tail ⟨apcOwnerSystem_step (.micro 0 .notifyAll rfl), trivial⟩

def waitForEvent : WaitCall := ⟨firstHandle, true, false⟩

/-- The main thread waits, executes its completion and returns from the wait. -/
def ownWaitTrace : List (KernelLabel × Option ApcOutcome) :=
  [(.enter 0 waitForEvent .userApc, none),
    (.deliver 0, some (.executed (0, 0) (some (0, 0)))),
    (.returnUserApc 0, some (.returned kStatusUserApc 1))]

theorem apcs_belong_ownCompletion : ApcsBelong (completionTrace ++ ownWaitTrace) := by
  have mayTake : afterRead.MayTake 0 := by
    constructor
    · decide
    · decide
  have woken := afterRead_run.tail
    ⟨apcOwnerSystem_step (.enter 0 waitForEvent rfl), fun _ _ _ => mayTake⟩
  have delivered := woken.tail ⟨apcOwnerSystem_step (.deliver 0 rfl), trivial⟩
  have returned := delivered.tail
    ⟨apcOwnerSystem_step (.returnUserApc 0 rfl Nat.one_pos), trivial⟩
  exact apcs_belong ⟨mainAndPump, mainAndPump_isBoot, returned⟩

/-- The main thread's completion runs on the pump thread. -/
theorem completion_runsOnPump : ¬ (∀ trace final, apcOwnerSystem.History trace final →
    ApcsBelong trace) := by
  intro belongs
  have woken := afterRead_run.of_restrict.tail (apcOwnerSystem_step (.enter 1 waitForEvent rfl))
  have delivered := woken.tail (apcOwnerSystem_step (.deliver 1 rfl))
  have own := belongs _ _ ⟨mainAndPump, mainAndPump_isBoot, delivered⟩
    (.deliver 1) (.executed (1, 0) (some (0, 0)))
    (List.mem_append_right _ (List.mem_singleton.mpr rfl))
  exact absurd (own (0, 0) rfl) (by decide)

end BumpinHost.Kernel
