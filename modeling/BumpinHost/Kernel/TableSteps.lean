import BumpinHost.Kernel.Threads

/-!
# What a step does to the handle table

Whatever the threads are doing, one step signals one object, inserts one, erases
one, or is a step of a wait; a wait that succeeds consumes the signal it has just
seen.
-/

namespace BumpinHost.Kernel

variable {s after : KernelState} {label : KernelLabel} {table changed : HandleTable}

/-- The object that the operation signals. -/
def MicroOp.signaledHandle : MicroOp → Option Word
  | .signal handle | .release handle | .signalAndNotify handle => some handle
  | _ => none

namespace KernelLabel

/-- The call and the result so far of a step of a wait. -/
def waitOutcome : KernelLabel → Option (WaitCall × WaitResult)
  | .enter _ call result | .wake _ call result | .timeOut _ call result => some (call, result)
  | _ => none

/-- The step signals the object of the handle. -/
def signals (handle : Word) : KernelLabel → Bool
  | .micro _ op => op.signaledHandle == some handle
  | _ => false

/-- The step is a wait on the handle returning `STATUS_SUCCESS`. -/
def succeedsOn (handle : Word) (label : KernelLabel) : Bool :=
  match label.waitOutcome with
  | some (call, .success) => call.handle == handle
  | _ => false

/-- Steps that do not touch the table. -/
def leavesTable : KernelLabel → Bool
  | .micro _ op => op.signaledHandle.isNone
  | .begin .. | .deliver _ | .returnUserApc _ => true
  | _ => false

/-- The step gives the handle a new object or takes its object away. -/
def replaces (handle : Word) : KernelLabel → Bool
  | .create _ _ created => created == handle
  | .close _ closed => closed == handle
  | _ => false

theorem succeedsOn_of_success {call : WaitCall}
    (outcome : label.waitOutcome = some (call, .success)) :
    label.succeedsOn call.handle = true := by
  simp [succeedsOn, outcome]

theorem succeedsOn_of_ne {call : WaitCall} {result : WaitResult} {handle : Word}
    (outcome : label.waitOutcome = some (call, result))
    (other : result ≠ .success ∨ handle ≠ call.handle) : label.succeedsOn handle = false := by
  rw [succeedsOn, outcome]
  split
  · rename_i found same
    obtain ⟨rfl, rfl⟩ := Prod.mk.inj (Option.some.inj same)
    rcases other with unfinished | different
    · exact absurd rfl unfinished
    · exact beq_false_of_ne (Ne.symm different)
  · rfl

theorem waitOutcome_of_leavesTable (leaves : label.leavesTable = true) :
    label.waitOutcome = none := by
  cases label with
  | enter | wake | timeOut => cases leaves
  | _ => rfl

/-- No step both signals and succeeds. -/
theorem signals_of_succeedsOn {handle other : Word} (succeeds : label.succeedsOn handle = true) :
    label.signals other = false := by
  cases label with
  | micro t op => cases succeeds
  | _ => rfl

end KernelLabel

/-- The steps of the handle table alone. -/
inductive TableStep (table : HandleTable) : KernelLabel → HandleTable → Prop
  | same {label : KernelLabel} : label.leavesTable = true → TableStep table label table
  | signal (t : ThreadId) (op : MicroOp) {handle : Word} :
      op.signaledHandle = some handle → TableStep table (.micro t op) (table.signal handle)
  | create {t : ThreadId} {call : CreateCall} {handle : Word} :
      TableStep table (.create t call handle) (table.insert handle (createdObject call))
  | close {t : ThreadId} {handle : Word} :
      TableStep table (.close t handle) (table.erase handle)
  | invalidHandle {label : KernelLabel} {call : WaitCall} :
      label.waitOutcome = some (call, .invalidHandle) → TableStep table label table
  | unsuccessful {label : KernelLabel} {call : WaitCall} {result : WaitResult} :
      label.waitOutcome = some (call, result) → result ≠ .success → result ≠ .invalidHandle →
      TableStep table label (table.subscript call.handle).2
  | success {label : KernelLabel} {call : WaitCall} :
      label.waitOutcome = some (call, .success) → table.isSignaled call.handle = true →
      TableStep table label ((table.subscript call.handle).2.consume call.handle)

/-- One evaluation of a wait's predicate, seen from the table. -/
theorem evaluateWait_tableStep {t : ThreadId} {call : WaitCall} {otherwise : Activity}
    {result : WaitResult} (unfinished : result ≠ .success) (valid : result ≠ .invalidHandle)
    (outcome : label.waitOutcome = some (call, (s.evaluateWait t call otherwise result).2)) :
    TableStep s.handleTable label (s.evaluateWait t call otherwise result).1.handleTable := by
  unfold KernelState.evaluateWait KernelState.finishWait at outcome ⊢
  dsimp only at outcome ⊢
  split_ifs at outcome ⊢ with awake apc
  · exact .unsuccessful outcome (by simp) (by simp)
  · refine .success outcome ?_
    -- no procedure call is pending, so the object itself is signaled
    rw [KernelState.wakePredicate_eq, Bool.or_eq_true] at awake
    exact awake.resolve_right apc
  · exact .unsuccessful outcome unfinished valid

theorem KernelStep.tableStep (step : KernelStep s label after) :
    TableStep s.handleTable label after.handleTable := by
  cases step with
  | begin t call running => exact .same rfl
  | micro t op calling =>
      cases op with
      | signal handle => exact .signal t (.signal handle) rfl
      | release handle => exact .signal t (.release handle) rfl
      | queueApc targetThreadHandle apc => exact .same rfl
      | notifyAll => exact .same rfl
      | signalAndNotify handle => exact .signal t (.signalAndNotify handle) rfl
      | exit => exact .same rfl
  | enter t call running =>
      cases found : s.handleTable call.handle with
      | none =>
          simp only [KernelState.enterWait, found]
          exact .invalidHandle rfl
      | some obj =>
          simp only [KernelState.enterWait, found]
          exact evaluateWait_tableStep (by simp) (by simp) rfl
  | wake t call parked => exact evaluateWait_tableStep (by simp) (by simp) rfl
  | timeOut t call parked timed => exact evaluateWait_tableStep (by simp) (by simp) rfl
  | deliver t delivering =>
      unfold KernelState.tryDeliverOneApc
      split <;> exact .same rfl
  | returnUserApc t running => exact .same rfl
  | create t call running absent => exact .create
  | close t handle running => exact .close

namespace TableStep

/-- What a step leaves of an object that it does not replace. -/
theorem object_eq (step : TableStep table label changed) {handle : Word} {obj : HandleObject}
    (found : table handle = some obj) (kept : label.replaces handle = false) :
    (label.succeedsOn handle = false ∧ changed handle = some obj) ∨
      (label.signals handle = true ∧ label.succeedsOn handle = false ∧
        changed handle = some { obj with signaled := true }) ∨
      (label.succeedsOn handle = true ∧ obj.signaled = true ∧
        changed handle = some obj.consumeSignalOnAcquire) := by
  cases step with
  | same leaves =>
      refine Or.inl ⟨?_, found⟩
      simp [KernelLabel.succeedsOn, KernelLabel.waitOutcome_of_leavesTable leaves]
  | signal t op isSignal =>
      rename_i signaled
      by_cases own : handle = signaled
      · subst own
        refine Or.inr (Or.inl ⟨?_, rfl, ?_⟩)
        · simp [KernelLabel.signals, isSignal]
        · rw [HandleTable.signal, found]
          exact HandleTable.insert_same ..
      · exact Or.inl ⟨rfl, (HandleTable.signal_of_ne _ _ own).trans found⟩
  | @create t call created =>
      have different : handle ≠ created := by
        rintro rfl
        simp [KernelLabel.replaces] at kept
      exact Or.inl ⟨rfl, (HandleTable.insert_of_ne _ _ _ different).trans found⟩
  | @close t closed =>
      have different : handle ≠ closed := by
        rintro rfl
        simp [KernelLabel.replaces] at kept
      exact Or.inl ⟨rfl, (HandleTable.erase_of_ne _ _ different).trans found⟩
  | invalidHandle outcome =>
      exact Or.inl ⟨KernelLabel.succeedsOn_of_ne outcome (Or.inl (by simp)), found⟩
  | @unsuccessful _ call result outcome unfinished _ =>
      refine Or.inl ⟨KernelLabel.succeedsOn_of_ne outcome (Or.inl unfinished), ?_⟩
      by_cases own : handle = call.handle
      · subst own
        rw [HandleTable.subscript_of_some found]
        exact found
      · exact (HandleTable.subscript_of_ne _ _ own).trans found
  | @success _ call outcome signaled =>
      by_cases own : handle = call.handle
      · subst own
        refine Or.inr (Or.inr ⟨KernelLabel.succeedsOn_of_success outcome, ?_, ?_⟩)
        · simpa [HandleTable.isSignaled, found] using signaled
        · rw [HandleTable.subscript_of_some found, HandleTable.consume_same,
            HandleTable.subscript_of_some found]
      · refine Or.inl ⟨KernelLabel.succeedsOn_of_ne outcome (Or.inr own), ?_⟩
        exact (HandleTable.consume_of_ne _ _ own).trans
          ((HandleTable.subscript_of_ne _ _ own).trans found)

end TableStep

end BumpinHost.Kernel
