import BumpinHost.Library.Transition
import Mathlib.Data.List.Count

/-!
# Credit along a run

Some labels earn one unit of a credit that the state holds and others spend one.
When every step accounts for the change, a run spends no more than what it started
with and has earned since; when the state never holds more than one unit,
two spending steps have an earning step between them.
-/

namespace BumpinHost.Transition

/-- Accounting of one credit, in states that are `good` and along labels that are
`allowed`. -/
structure Ledger {State Label : Type*} (system : System State Label) where
  credit : State → Nat
  earns : Label → Bool
  spends : Label → Bool
  good : State → Prop
  allowed : Label → Prop
  good_step {before after : State} {label : Label} :
    good before → system.step before label after → allowed label → good after
  credit_step {before after : State} {label : Label} :
    good before → system.step before label after → allowed label →
      credit after + (spends label).toNat ≤ credit before + (earns label).toNat

namespace Ledger

variable {State Label : Type*} {system : System State Label} (ledger : Ledger system)
  {start final : State} {trace : List Label}

theorem good_of_run (run : system.Run start trace final) (good : ledger.good start)
    (allowed : ∀ label ∈ trace, ledger.allowed label) : ledger.good final := by
  induction run with
  | refl => exact good
  | tail _ step ih =>
      rw [List.forall_mem_append, List.forall_mem_singleton] at allowed
      exact ledger.good_step (ih allowed.1) step allowed.2

/-- A run spends at most what it started with and has earned. -/
theorem countP_spends_le (run : system.Run start trace final) (good : ledger.good start)
    (allowed : ∀ label ∈ trace, ledger.allowed label) :
    ledger.credit final + trace.countP ledger.spends ≤
      ledger.credit start + trace.countP ledger.earns := by
  induction run with
  | refl => simp
  | @tail past middle after label previous step ih =>
      rw [List.forall_mem_append, List.forall_mem_singleton] at allowed
      have before := ih allowed.1
      have last := ledger.credit_step (ledger.good_of_run previous good allowed.1) step allowed.2
      have one : ∀ counted : Label → Bool, [label].countP counted = (counted label).toNat := by
        intro counted
        cases value : counted label <;> simp [value]
      rw [List.countP_append, List.countP_append, one, one]
      omega

/-- A credit of at most one unit is earned again between two labels that spend it. -/
theorem earned_between {past between future : List Label} {first second : Label}
    (run : system.Run start (past ++ first :: (between ++ second :: future)) final)
    (good : ledger.good start)
    (allowed : ∀ label ∈ past ++ first :: (between ++ second :: future), ledger.allowed label)
    (atMostOne : ∀ state, ledger.credit state ≤ 1)
    (spendsOnly : ∀ label, ledger.spends label = true → ledger.earns label = false)
    (firstSpends : ledger.spends first = true) (secondSpends : ledger.spends second = true) :
    ∃ label ∈ between, ledger.earns label = true := by
  simp only [List.forall_mem_append, List.forall_mem_cons] at allowed
  obtain ⟨pastAllowed, firstAllowed, betweenAllowed, secondAllowed, -⟩ := allowed
  obtain ⟨beforeFirst, pastRun, rest⟩ := run.split
  obtain ⟨afterFirst, firstStep, rest⟩ := rest.of_cons
  obtain ⟨beforeSecond, betweenRun, rest⟩ := rest.split
  obtain ⟨afterSecond, secondStep, -⟩ := rest.of_cons
  have goodFirst := ledger.good_of_run pastRun good pastAllowed
  have goodAfter := ledger.good_step goodFirst firstStep firstAllowed
  have goodSecond := ledger.good_of_run betweenRun goodAfter betweenAllowed
  have spentFirst := ledger.credit_step goodFirst firstStep firstAllowed
  have spentSecond := ledger.credit_step goodSecond secondStep secondAllowed
  have earned := ledger.countP_spends_le betweenRun goodAfter betweenAllowed
  have single := atMostOne beforeFirst
  rw [firstSpends, spendsOnly first firstSpends] at spentFirst
  rw [secondSpends, spendsOnly second secondSpends] at spentSecond
  simp only [Bool.toNat_true, Bool.toNat_false] at spentFirst spentSecond
  apply List.countP_pos_iff.mp
  omega

end Ledger

end BumpinHost.Transition
