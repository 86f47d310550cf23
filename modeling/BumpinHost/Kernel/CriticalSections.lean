import BumpinHost.Kernel.Threads
import BumpinHost.Library.LockOrder
import BumpinHost.Library.RecursiveMutex

/-!
# Critical sections

A critical section is the recursive mutex that belongs to its address.  A thread that enters
one while another thread is inside waits in the call until it gets it.  Titles nest critical
sections; if they nest them upwards in some order, a wait is never part of a deadlock.
-/

namespace BumpinHost.Kernel

open LockOrder

inductive CriticalSectionEvent
  | rtlInitializeCriticalSection
  /-- The call returns, or it begins to wait. -/
  | rtlEnterCriticalSection (returns : Bool)
  /-- A call that has waited returns. -/
  | granted
  | rtlLeaveCriticalSection
deriving DecidableEq, Repr

structure CriticalSectionLabel where
  thread : ThreadId
  csAddr : Word
  event : CriticalSectionEvent
deriving DecidableEq, Repr

structure CriticalSectionState where
  /-- `g_criticalSections`: an address that is used for the first time gets a free mutex. -/
  criticalSections : Word → RecursiveMutex ThreadId
  /-- The critical section that the thread waits for. -/
  waiting : ThreadId → Option Word

namespace CriticalSectionState

def initial : CriticalSectionState := ⟨fun _ => .free, fun _ => none⟩

variable (s : CriticalSectionState)

def setMutex (csAddr : Word) (mutex : RecursiveMutex ThreadId) : CriticalSectionState :=
  { s with criticalSections := Function.update s.criticalSections csAddr mutex }

def setWaiting (t : ThreadId) (csAddr : Option Word) : CriticalSectionState :=
  { s with waiting := Function.update s.waiting t csAddr }

def Holds (t : ThreadId) (csAddr : Word) : Prop :=
  0 < (s.criticalSections csAddr).acquisitions t

def Waits (t : ThreadId) (csAddr : Word) : Prop :=
  s.waiting t = some csAddr

end CriticalSectionState

/-- Threads leave only what they are inside; unlocking any other mutex is undefined. -/
inductive CriticalSectionStep (s : CriticalSectionState) :
    CriticalSectionLabel → CriticalSectionState → Prop
  -- a second initialization finds the mutex of the first
  | rtlInitializeCriticalSection (t : ThreadId) (csAddr : Word) :
      s.waiting t = none →
      CriticalSectionStep s ⟨t, csAddr, .rtlInitializeCriticalSection⟩ s
  | enter (t : ThreadId) (csAddr : Word) {mutex : RecursiveMutex ThreadId} :
      s.waiting t = none →
      (s.criticalSections csAddr).lock t = some mutex →
      CriticalSectionStep s ⟨t, csAddr, .rtlEnterCriticalSection true⟩ (s.setMutex csAddr mutex)
  | wait (t : ThreadId) (csAddr : Word) :
      s.waiting t = none →
      (s.criticalSections csAddr).lock t = none →
      CriticalSectionStep s ⟨t, csAddr, .rtlEnterCriticalSection false⟩
        (s.setWaiting t (some csAddr))
  | granted (t : ThreadId) (csAddr : Word) {mutex : RecursiveMutex ThreadId} :
      s.waiting t = some csAddr →
      (s.criticalSections csAddr).lock t = some mutex →
      CriticalSectionStep s ⟨t, csAddr, .granted⟩ ((s.setMutex csAddr mutex).setWaiting t none)
  | rtlLeaveCriticalSection (t : ThreadId) (csAddr : Word) {mutex : RecursiveMutex ThreadId} :
      s.waiting t = none →
      (s.criticalSections csAddr).unlock t = some mutex →
      CriticalSectionStep s ⟨t, csAddr, .rtlLeaveCriticalSection⟩ (s.setMutex csAddr mutex)

def criticalSectionSystem : Transition.System CriticalSectionState CriticalSectionLabel where
  init := (· = .initial)
  step := CriticalSectionStep

namespace CriticalSectionLabel

/-- The thread gets inside the critical section once more. -/
def enters (t : ThreadId) (csAddr : Word) (label : CriticalSectionLabel) : Bool :=
  label.thread = t ∧ label.csAddr = csAddr ∧
    (label.event = .rtlEnterCriticalSection true ∨ label.event = .granted)

def leaves (t : ThreadId) (csAddr : Word) (label : CriticalSectionLabel) : Bool :=
  label = ⟨t, csAddr, .rtlLeaveCriticalSection⟩

end CriticalSectionLabel

section Step

variable {s after : CriticalSectionState} {label : CriticalSectionLabel} {t u : ThreadId}
  {csAddr other : Word} {mutex : RecursiveMutex ThreadId}

theorem CriticalSectionState.setMutex_criticalSections :
    (s.setMutex csAddr mutex).criticalSections other =
      if other = csAddr then mutex else s.criticalSections other :=
  Function.update_apply ..

@[simp]
theorem CriticalSectionState.setWaiting_criticalSections {wanted : Option Word} :
    (s.setWaiting t wanted).criticalSections = s.criticalSections := rfl

/-- What a step changes in the counts. -/
theorem CriticalSectionStep.acquisitions (step : CriticalSectionStep s label after)
    (u : ThreadId) (other : Word) :
    (after.criticalSections other).acquisitions u + (label.leaves u other).toNat =
      (s.criticalSections other).acquisitions u + (label.enters u other).toNat := by
  cases step with
  | rtlInitializeCriticalSection t csAddr | wait t csAddr =>
      simp [CriticalSectionLabel.leaves, CriticalSectionLabel.enters]
  | enter t csAddr _ locked | granted t csAddr _ locked =>
      simp only [CriticalSectionState.setWaiting_criticalSections,
        CriticalSectionState.setMutex_criticalSections]
      by_cases same : other = csAddr
      · subst same
        rw [if_pos rfl, RecursiveMutex.acquisitions_lock locked]
        by_cases thread : t = u
        · subst thread
          simp [CriticalSectionLabel.leaves, CriticalSectionLabel.enters]
        · simp [CriticalSectionLabel.leaves, CriticalSectionLabel.enters, thread, Ne.symm thread]
      · simp [CriticalSectionLabel.leaves, CriticalSectionLabel.enters, same, Ne.symm same]
  | rtlLeaveCriticalSection t csAddr _ unlocked =>
      rw [CriticalSectionState.setMutex_criticalSections]
      by_cases same : other = csAddr
      · subst same
        rw [if_pos rfl, RecursiveMutex.acquisitions_unlock unlocked]
        by_cases thread : t = u
        · subst thread
          simp [CriticalSectionLabel.leaves, CriticalSectionLabel.enters]
        · simp [CriticalSectionLabel.leaves, CriticalSectionLabel.enters, thread, Ne.symm thread]
      · simp [CriticalSectionLabel.leaves, CriticalSectionLabel.enters, same, Ne.symm same]

/-- What a thread is inside of changes by its own steps only. -/
theorem CriticalSectionStep.holds_iff (step : CriticalSectionStep s label after)
    (different : u ≠ label.thread) : after.Holds u other ↔ s.Holds u other := by
  have counts := step.acquisitions u other
  have silent : label.enters u other = false := by
    simp [CriticalSectionLabel.enters, Ne.symm different]
  have kept : label.leaves u other = false := by
    rw [CriticalSectionLabel.leaves, decide_eq_false_iff_not]
    rintro rfl
    exact different rfl
  rw [silent, kept] at counts
  unfold CriticalSectionState.Holds
  rw [show (after.criticalSections other).acquisitions u =
    (s.criticalSections other).acquisitions u from counts]

/-- A wait goes on, or the thread has just begun it, and is not inside what it waits for. -/
theorem CriticalSectionStep.waits_cases (step : CriticalSectionStep s label after)
    (waits : after.Waits u other) :
    (s.Waits u other ∧ u ≠ label.thread) ∨
      (label = ⟨u, other, .rtlEnterCriticalSection false⟩ ∧
        (∀ held, after.Holds u held ↔ s.Holds u held) ∧ ¬ s.Holds u other) := by
  unfold CriticalSectionState.Waits at waits ⊢
  cases step with
  | rtlInitializeCriticalSection t csAddr running =>
      refine .inl ⟨waits, ?_⟩
      rintro rfl
      simp [running] at waits
  | enter t csAddr running | rtlLeaveCriticalSection t csAddr running =>
      refine .inl ⟨waits, ?_⟩
      rintro rfl
      simp [CriticalSectionState.setMutex, running] at waits
  | granted t csAddr =>
      have different : u ≠ t := by
        rintro rfl
        simp [CriticalSectionState.setWaiting] at waits
      refine .inl ⟨?_, different⟩
      simpa [CriticalSectionState.setWaiting, CriticalSectionState.setMutex, different]
        using waits
  | wait t csAddr running taken =>
      by_cases same : u = t
      · subst same
        obtain rfl : csAddr = other := by
          simpa [CriticalSectionState.setWaiting] using waits
        refine .inr ⟨rfl, fun held => Iff.rfl, ?_⟩
        intro holds
        obtain ⟨mutex, locked⟩ := RecursiveMutex.exists_lock holds
        rw [taken] at locked
        cases locked
      · refine .inl ⟨?_, same⟩
        simpa [CriticalSectionState.setWaiting, same] using waits

end Step

variable {Rank : Type*} [Preorder Rank]

/-- A thread enters only critical sections above all that it is inside, or one of these
again. -/
def EntersInOrder (rank : Word → Rank) (s : CriticalSectionState) (label : CriticalSectionLabel) :
    Prop :=
  ∀ returns, label.event = .rtlEnterCriticalSection returns →
    ∀ held, s.Holds label.thread held → held ≠ label.csAddr → InOrder rank held label.csAddr

structure CriticalSectionInvariant (rank : Word → Rank) (trace : List CriticalSectionLabel)
    (s : CriticalSectionState) : Prop where
  counts : ∀ t csAddr, (s.criticalSections csAddr).acquisitions t +
    trace.countP (CriticalSectionLabel.leaves t csAddr) =
      trace.countP (CriticalSectionLabel.enters t csAddr)
  ordered : Ordered rank s.Holds s.Waits
  listed : ∀ t csAddr, s.Waits t csAddr →
    (t, csAddr) ∈ trace.map fun label => (label.thread, label.csAddr)

variable {rank : Word → Rank}

theorem CriticalSectionInvariant.initial : CriticalSectionInvariant rank [] .initial where
  counts _ _ := rfl
  ordered _ _ _ _ waits := by cases waits
  listed _ _ waits := by cases waits

theorem CriticalSectionInvariant.step {s after : CriticalSectionState}
    {past : List CriticalSectionLabel} {label : CriticalSectionLabel}
    (invariant : CriticalSectionInvariant rank past s) (step : CriticalSectionStep s label after)
    (inOrder : EntersInOrder rank s label) :
    CriticalSectionInvariant rank (past ++ [label]) after := by
  constructor
  · intro t csAddr
    have before := invariant.counts t csAddr
    have change := step.acquisitions t csAddr
    have once : ∀ counted : CriticalSectionLabel → Bool,
        [label].countP counted = (counted label).toNat := by
      intro counted
      rw [List.countP_singleton]
      cases counted label <;> rfl
    rw [List.countP_append, List.countP_append, once, once]
    omega
  · intro t held wanted holds waits
    obtain ⟨waiting, different⟩ | ⟨rfl, same, outside⟩ := step.waits_cases waits
    · exact invariant.ordered ((step.holds_iff different).mp holds) waiting
    · have inside := (same held).mp holds
      refine inOrder false rfl held inside ?_
      rintro rfl
      exact outside inside
  · intro t csAddr waits
    rw [List.map_append]
    obtain ⟨waiting, -⟩ | ⟨rfl, -⟩ := step.waits_cases waits
    · exact List.mem_append_left _ (invariant.listed t csAddr waiting)
    · exact List.mem_append_right _ List.mem_cons_self

theorem CriticalSectionInvariant.of_history {trace : List CriticalSectionLabel}
    {s : CriticalSectionState}
    (history : (criticalSectionSystem.restrict (EntersInOrder rank)).History trace s) :
    CriticalSectionInvariant rank trace s := by
  apply history.invariant (CriticalSectionInvariant rank)
  · rintro start rfl
    exact .initial
  · intro past before label after _ invariant step
    exact invariant.step step.1 step.2

/-- In every interleaving in which each thread enters upwards in some order: the thread inside a
critical section is the only one, as often as it has entered and not left; no threads wait for
each other in a circle; and while somebody waits, some wait can end, or is for a critical
section whose owner does not wait. -/
theorem criticalSections_deadlockFree {trace : List CriticalSectionLabel}
    {s : CriticalSectionState}
    (history : (criticalSectionSystem.restrict (EntersInOrder rank)).History trace s) :
    (∀ t u csAddr, s.Holds t csAddr → s.Holds u csAddr → t = u) ∧
      (∀ t csAddr, (s.criticalSections csAddr).acquisitions t +
        trace.countP (CriticalSectionLabel.leaves t csAddr) =
          trace.countP (CriticalSectionLabel.enters t csAddr)) ∧
      (∀ t, ¬ Relation.TransGen (WaitsFor s.Holds s.Waits) t t) ∧
      ∀ t csAddr, s.Waits t csAddr → ∃ u wanted, s.Waits u wanted ∧
        ((∃ after, CriticalSectionStep s ⟨u, wanted, .granted⟩ after) ∨
          ∃ owner, s.Holds owner wanted ∧ s.waiting owner = none) := by
  have invariant := CriticalSectionInvariant.of_history history
  refine ⟨fun t u csAddr => RecursiveMutex.eq_of_acquisitions, invariant.counts,
    invariant.ordered.acyclic, ?_⟩
  intro t csAddr waits
  have finite : {wait : ThreadId × Word | s.Waits wait.1 wait.2}.Finite :=
    (List.finite_toSet _).subset fun wait waiting => invariant.listed wait.1 wait.2 waiting
  obtain ⟨u, wanted, topWaits, free⟩ := invariant.ordered.exists_top finite waits
  refine ⟨u, wanted, topWaits, ?_⟩
  cases mutex : s.criticalSections wanted with
  | free => exact .inl ⟨_, .granted u wanted topWaits (by rw [mutex]; rfl)⟩
  | held owner again =>
      have holds : s.Holds owner wanted := by
        simp [CriticalSectionState.Holds, mutex, RecursiveMutex.acquisitions]
      refine .inr ⟨owner, holds, ?_⟩
      rw [Option.eq_none_iff_forall_ne_some]
      exact free owner holds

theorem CriticalSectionState.holds_of_setMutex {s : CriticalSectionState} {csAddr held : Word}
    {owner t : ThreadId} {again : Nat}
    (holds : (s.setMutex csAddr (.held owner again)).Holds t held) :
    t = owner ∧ held = csAddr ∨ s.Holds t held := by
  rw [Holds, setMutex_criticalSections] at holds
  split at holds
  case isTrue same => exact .inl ⟨(RecursiveMutex.owner_eq_of_acquisitions holds).symm, same⟩
  case isFalse => exact .inr holds

/-- The first thread nests two critical sections.  The second waits for the outer one inside a
third, and another thread waits for that. -/
def nestedTrace : List CriticalSectionLabel :=
  [⟨0, 0x82000020, .rtlEnterCriticalSection true⟩,
    ⟨1, 0x82000000, .rtlEnterCriticalSection true⟩,
    ⟨0, 0x82000040, .rtlEnterCriticalSection true⟩,
    ⟨1, 0x82000020, .rtlEnterCriticalSection false⟩,
    ⟨2, 0x82000000, .rtlEnterCriticalSection false⟩]

def nested : CriticalSectionState :=
  ((((CriticalSectionState.initial.setMutex 0x82000020 (.held 0 0)).setMutex 0x82000000
    (.held 1 0)).setMutex 0x82000040 (.held 0 0)).setWaiting 1 (some 0x82000020)).setWaiting 2
      (some 0x82000000)

theorem nested_history :
    (criticalSectionSystem.restrict (EntersInOrder BitVec.toNat)).History nestedTrace nested := by
  let outer := CriticalSectionState.initial.setMutex 0x82000020 (.held 0 0)
  let third := outer.setMutex 0x82000000 (.held 1 0)
  let inner := third.setMutex 0x82000040 (.held 0 0)
  have ofOuter {t held} (holds : outer.Holds t held) : t = 0 ∧ held = 0x82000020 := by
    obtain first | none := CriticalSectionState.holds_of_setMutex holds
    · exact first
    · cases none
  have ofThird {t held} (holds : third.Holds t held) :
      t = 1 ∧ held = 0x82000000 ∨ t = 0 ∧ held = 0x82000020 :=
    (CriticalSectionState.holds_of_setMutex holds).imp_right ofOuter
  have ofInner {t held} (holds : inner.Holds t held) :
      t = 0 ∧ held = 0x82000040 ∨ t = 1 ∧ held = 0x82000000 ∨ t = 0 ∧ held = 0x82000020 :=
    (CriticalSectionState.holds_of_setMutex holds).imp_right ofThird
  refine ⟨.initial, rfl, .head ⟨.enter 0 0x82000020 rfl rfl, ?_⟩ <|
    .head ⟨.enter 1 0x82000000 rfl rfl, ?_⟩ <| .head ⟨.enter 0 0x82000040 rfl rfl, ?_⟩ <|
      .head ⟨.wait 1 0x82000020 rfl rfl, ?_⟩ <| .single ⟨.wait 2 0x82000000 rfl rfl, ?_⟩⟩
  · intro _ _ held inside
    cases inside
  · intro _ _ held inside
    cases (ofOuter inside).1
  · intro _ _ held inside _
    obtain ⟨⟨⟩, -⟩ | ⟨-, rfl⟩ := ofThird inside
    exact show (0x82000020 : Word).toNat < (0x82000040 : Word).toNat by decide
  · intro _ _ held inside _
    obtain ⟨⟨⟩, -⟩ | ⟨-, rfl⟩ | ⟨⟨⟩, -⟩ := ofInner inside
    exact show (0x82000000 : Word).toNat < (0x82000020 : Word).toNat by decide
  · intro _ _ held inside _
    obtain ⟨⟨⟩, -⟩ | ⟨⟨⟩, -⟩ | ⟨⟨⟩, -⟩ := ofInner inside

theorem criticalSections_deadlockFree_nested :
    nested.Holds 0 0x82000020 ∧ nested.Holds 0 0x82000040 ∧
      (∀ u, nested.Holds u 0x82000020 → 0 = u) ∧
      (∀ t, ¬ Relation.TransGen (WaitsFor nested.Holds nested.Waits) t t) ∧
      ∃ u wanted, nested.Waits u wanted ∧
        ((∃ after, CriticalSectionStep nested ⟨u, wanted, .granted⟩ after) ∨
          ∃ owner, nested.Holds owner wanted ∧ nested.waiting owner = none) := by
  have outer : nested.Holds 0 0x82000020 := Nat.one_pos
  have inner : nested.Holds 0 0x82000040 := Nat.one_pos
  obtain ⟨only, -, acyclic, progress⟩ := criticalSections_deadlockFree nested_history
  exact ⟨outer, inner, fun u => only 0 u _ outer, acyclic, progress 2 0x82000000 rfl⟩

end BumpinHost.Kernel
