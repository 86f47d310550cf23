import BumpinHost.Kernel.TableSteps
import BumpinHost.Library.Ledger

/-!
# Signals are conserved

The flag of a mutant or an auto-reset event is a credit of at most one wait: a
signal sets it, and a successful wait takes it under the lock under which it was
seen.  A wait that ends in another way takes nothing.
-/

namespace BumpinHost.Kernel

variable {s after : KernelState} {label : KernelLabel} {init : KernelState → Prop}

namespace HandleObject

theorem consumesSignal_eq {obj other : HandleObject} (type : obj.type = other.type)
    (autoReset : obj.autoReset = other.autoReset) :
    obj.consumesSignal = other.consumesSignal := by
  rw [consumesSignal, consumesSignal, type, autoReset]

@[simp]
theorem consumeSignalOnAcquire_consumesSignal (obj : HandleObject) :
    obj.consumeSignalOnAcquire.consumesSignal = obj.consumesSignal :=
  consumesSignal_eq obj.consumeSignalOnAcquire_type obj.consumeSignalOnAcquire_autoReset

/-- Only a manual-reset event, or an object that is no event, keeps its signal. -/
theorem consumeSignalOnAcquire_of_not_consumes {obj : HandleObject}
    (keeps : obj.consumesSignal = false) : obj.consumeSignalOnAcquire = obj := by
  simp [consumeSignalOnAcquire, keeps]

end HandleObject

namespace KernelLabel

/-- A step of a wait that takes no signal: parking, a timeout, the delivery of a procedure
call or an invalid handle. -/
def waitsInVain : KernelLabel → Bool
  | .deliver _ => true
  | .enter _ _ result | .wake _ _ result | .timeOut _ _ result => result != .success
  | _ => false

end KernelLabel

theorem KernelStep.consumer_kept {handle : Word} {obj : HandleObject}
    (step : KernelStep s label after) (found : s.handleTable handle = some obj)
    (consumes : obj.consumesSignal = true) (kept : label.replaces handle = false) :
    ∃ obj, after.handleTable handle = some obj ∧ obj.consumesSignal = true := by
  obtain ⟨-, same⟩ | ⟨-, -, signaled⟩ | ⟨-, -, consumed⟩ := step.tableStep.object_eq found kept
  · exact ⟨obj, same, consumes⟩
  · exact ⟨_, signaled, consumes⟩
  · exact ⟨_, consumed, by simpa using consumes⟩

theorem KernelStep.signal_spent {handle : Word} {obj : HandleObject}
    (step : KernelStep s label after) (found : s.handleTable handle = some obj)
    (consumes : obj.consumesSignal = true) (kept : label.replaces handle = false) :
    (after.handleTable.isSignaled handle).toNat + (label.succeedsOn handle).toNat ≤
      (s.handleTable.isSignaled handle).toNat + (label.signals handle).toNat := by
  obtain ⟨silent, same⟩ | ⟨signals, silent, -⟩ | ⟨succeeds, signaled, consumed⟩ :=
    step.tableStep.object_eq found kept
  · rw [HandleTable.isSignaled, same, HandleTable.isSignaled, found, silent]
    simp
  · rw [signals, silent]
    have atMostOne := Bool.toNat_le (after.handleTable.isSignaled handle)
    simp only [Bool.toNat_false, Bool.toNat_true]
    omega
  · rw [HandleTable.isSignaled, consumed, HandleTable.isSignaled, found, succeeds]
    simp [HandleObject.consumeSignalOnAcquire_signaled, consumes, signaled]

/-- The signaled object of `handle` as a credit: an object that consumes its signal, along
steps that neither close nor replace it. -/
def signalLedger (init : KernelState → Prop) (handle : Word) :
    Transition.Ledger (kernelSystem init) where
  credit s := (s.handleTable.isSignaled handle).toNat
  earns := KernelLabel.signals handle
  spends := KernelLabel.succeedsOn handle
  good s := ∃ obj, s.handleTable handle = some obj ∧ obj.consumesSignal = true
  allowed label := label.replaces handle = false
  good_step := by
    rintro before after label ⟨obj, found, consumes⟩ step kept
    exact KernelStep.consumer_kept step found consumes kept
  credit_step := by
    rintro before after label ⟨obj, found, consumes⟩ step kept
    exact KernelStep.signal_spent step found consumes kept

/-- Taking no signal, a wait changes no flag. -/
theorem KernelStep.isSignaled_of_waitsInVain (step : KernelStep s label after)
    (inVain : label.waitsInVain = true) (handle : Word) :
    after.handleTable.isSignaled handle = s.handleTable.isSignaled handle := by
  have change := step.tableStep
  generalize after.handleTable = changed at change
  cases change with
  | same _ => rfl
  | signal _ _ _ => cases inVain
  | create => cases inVain
  | close => cases inVain
  | invalidHandle _ => rfl
  | unsuccessful _ _ _ => exact HandleTable.isSignaled_subscript ..
  | success outcome _ =>
      cases label with
      | enter | wake | timeOut =>
          obtain ⟨-, rfl⟩ := Prod.mk.inj (Option.some.inj outcome)
          cases inVain
      | _ => cases outcome

/-- An object that keeps its signal stays signaled. -/
theorem signaled_of_keepsSignal {start final : KernelState} {trace : List KernelLabel}
    {handle : Word} {obj : HandleObject} (run : (kernelSystem init).Run start trace final)
    (found : start.handleTable handle = some obj) (signaled : obj.signaled = true)
    (keeps : obj.consumesSignal = false)
    (kept : ∀ label ∈ trace, label.replaces handle = false) :
    final.handleTable handle = some obj := by
  induction run with
  | refl => exact found
  | tail _ step ih =>
      rw [List.forall_mem_append, List.forall_mem_singleton] at kept
      obtain ⟨-, same⟩ | ⟨-, -, set⟩ | ⟨-, -, consumed⟩ :=
        (KernelStep.tableStep step).object_eq (ih kept.1) kept.2
      · exact same
      · rw [set, ← signaled]
      · rw [consumed, HandleObject.consumeSignalOnAcquire_of_not_consumes keeps]

/-- Signals of an object after its creation are taken by at most one wait each, other waits
leave every flag alone, and an object that keeps its signal never loses it. -/
theorem signals_conserved (init : KernelState → Prop) :
    (∀ past future t call handle final,
      (kernelSystem init).History (past ++ .create t call handle :: future) final →
      (createdObject call).consumesSignal = true →
      (∀ label ∈ future, label.replaces handle = false) →
      (∀ before between later first second,
        future = before ++ first :: (between ++ second :: later) →
        first.succeedsOn handle = true → second.succeedsOn handle = true →
        ∃ label ∈ between, label.signals handle = true) ∧
      future.countP (KernelLabel.succeedsOn handle) ≤
        future.countP (KernelLabel.signals handle) + (createdObject call).signaled.toNat) ∧
    (∀ trace s label after,
      (kernelSystem init).History trace s → (kernelSystem init).step s label after →
      label.waitsInVain = true →
      ∀ handle, after.handleTable.isSignaled handle = s.handleTable.isSignaled handle) ∧
    (∀ trace s handle,
      (kernelSystem init).History trace s → s.handleTable handle = some ⟨.event, true, false⟩ →
      ∀ future final, (kernelSystem init).Run s future final →
        (∀ label ∈ future, label.replaces handle = false) →
        final.handleTable handle = some ⟨.event, true, false⟩) := by
  refine ⟨?_, ?_, ?_⟩
  · rintro past future t call handle final ⟨start, isInit, run⟩ consumes kept
    obtain ⟨before, -, rest⟩ := run.split
    obtain ⟨created, step, futureRun⟩ := rest.of_cons
    have found : created.handleTable handle = some (createdObject call) := by
      cases step with
      | create => exact HandleTable.insert_same ..
    have good : (signalLedger init handle).good created := ⟨_, found, consumes⟩
    constructor
    · rintro early between later first second rfl firstSucceeds secondSucceeds
      exact (signalLedger init handle).earned_between futureRun good kept
        (fun s => Bool.toNat_le _) (fun _ => KernelLabel.signals_of_succeedsOn)
        firstSucceeds secondSucceeds
    · have spent := (signalLedger init handle).countP_spends_le futureRun good kept
      have flag : (signalLedger init handle).credit created =
          (createdObject call).signaled.toNat := by
        simp [signalLedger, HandleTable.isSignaled, found]
      rw [flag] at spent
      exact (Nat.le_add_left ..).trans (spent.trans_eq (Nat.add_comm ..))
  · intro trace s label after _ step inVain handle
    exact KernelStep.isSignaled_of_waitsInVain step inVain handle
  · intro trace s handle _ found future final run kept
    exact signaled_of_keepsSignal run found rfl rfl kept

/-- An auto-reset event that is created signaled: a wait takes the signal, a second one takes
that of `NtSetEvent`, and a third one times out. -/
theorem signals_conserved_autoResetEvent :
    ∃ wait : WaitCall, ∃ s after : KernelState,
      (kernelSystem KernelState.IsBoot).History
        [.create 0 (.ntCreateEvent true true) firstHandle, .enter 1 wait .success,
          .begin 0 (.ntSetEvent firstHandle), .micro 0 (.signal firstHandle),
          .enter 1 wait .success, .enter 1 wait .parked] s ∧
      (∃ label ∈ ([.begin 0 (.ntSetEvent firstHandle), .micro 0 (.signal firstHandle)] :
        List KernelLabel), label.signals firstHandle = true) ∧
      (kernelSystem KernelState.IsBoot).step s (.timeOut 1 wait .timedOut) after ∧
      after.handleTable.isSignaled firstHandle = s.handleTable.isSignaled firstHandle := by
  let wait : WaitCall := ⟨firstHandle, false, true⟩
  let created := twoThreads.create (.ntCreateEvent true true)
  let taken := (created.enterWait 1 wait).1
  let setting := taken.setActivity 0 (.calling [.signal firstHandle, .notifyAll])
  let signaled := setting.applyOp 0 (.signal firstHandle) [.notifyAll]
  let takenAgain := (signaled.enterWait 1 wait).1
  let waiting := (takenAgain.enterWait 1 wait).1
  have history : (kernelSystem KernelState.IsBoot).History
      [.create 0 (.ntCreateEvent true true) firstHandle, .enter 1 wait .success,
        .begin 0 (.ntSetEvent firstHandle), .micro 0 (.signal firstHandle),
        .enter 1 wait .success, .enter 1 wait .parked] waiting :=
    ⟨twoThreads, twoThreads_isBoot,
      .head (.create 0 (.ntCreateEvent true true) rfl (by simp)) <|
        .head (.enter 1 wait rfl) <|
          .head (.begin 0 (.ntSetEvent firstHandle) rfl) <|
            .head (.micro 0 (.signal firstHandle) rfl) <|
              .head (.enter 1 wait rfl) <|
                .single (.enter 1 wait rfl)⟩
  have timeOut : (kernelSystem KernelState.IsBoot).step waiting (.timeOut 1 wait .timedOut)
      (waiting.timeOutWait 1 wait).1 :=
    .timeOut 1 wait rfl rfl
  obtain ⟨exclusive, -⟩ := (signals_conserved KernelState.IsBoot).1 [] _ 0
    (.ntCreateEvent true true) firstHandle waiting history rfl (by decide)
  have flags := (signals_conserved KernelState.IsBoot).2.1 _ waiting _ _ history timeOut rfl
  exact ⟨wait, waiting, (waiting.timeOutWait 1 wait).1, history,
    exclusive [] _ [.enter 1 wait .parked] _ _ rfl rfl rfl, timeOut, flags firstHandle⟩

end BumpinHost.Kernel
