import BumpinHost.Library.Transition

/-!
# Executions in which own steps cease

An execution goes on for ever, with pauses.  Some labels of a system are its own, the others
come from outside.  When every own step lowers a rank and no step raises it, an execution takes
own steps only for a while, however many steps from outside come between them.
-/

namespace BumpinHost.Transition.System

variable {State Label : Type*} {system : System State Label}

/-- States and labels for ever; where there is no label nothing happens. -/
structure Execution (system : System State Label) where
  state : Nat → State
  label : Nat → Option Label
  starts : system.init (state 0)
  steps : ∀ n l, label n = some l → system.step (state n) l (state (n + 1))
  pauses : ∀ n, label n = none → state (n + 1) = state n

/-- What no step ends lasts. -/
theorem Execution.lasts (execution : system.Execution) {holds : State → Prop}
    (kept : ∀ {before label after}, holds before → system.step before label after → holds after)
    {n m : Nat} (now : holds (execution.state n)) (le : n ≤ m) : holds (execution.state m) := by
  induction m, le using Nat.le_induction with
  | base => exact now
  | succ m _ ih =>
      cases label : execution.label m with
      | none =>
          rw [execution.pauses m label]
          exact ih
      | some l => exact kept ih (execution.steps m l label)

/-- The rank pays for each own step. -/
def Ranked (system : System State Label) (own : Label → Bool) (rank : State → Nat) : Prop :=
  ∀ ⦃before label after⦄, system.step before label after →
    rank after + (own label).toNat ≤ rank before

variable {own : Label → Bool} {rank : State → Nat}

theorem Ranked.le (ranked : system.Ranked own rank) (execution : system.Execution) {n m : Nat}
    (le : n ≤ m) : rank (execution.state m) ≤ rank (execution.state n) := by
  refine @Execution.lasts _ _ _ execution (fun s => rank s ≤ rank (execution.state n)) ?_ _ _
    le_rfl le
  intro before label after below step
  have falls := ranked step
  omega

/-- From some moment on no own step is taken. -/
theorem Ranked.ceases (ranked : system.Ranked own rank) (execution : system.Execution) :
    ∃ n, ∀ m l, n ≤ m → execution.label m = some l → own l = false := by
  suffices later : ∀ bound n, rank (execution.state n) ≤ bound →
      ∃ n, ∀ m l, n ≤ m → execution.label m = some l → own l = false from
    later _ 0 le_rfl
  intro bound
  induction bound with
  | zero =>
      intro n lowest
      refine ⟨n, fun m l le label => ?_⟩
      have falls := ranked (execution.steps m l label)
      have below := ranked.le execution le
      cases mine : own l with
      | false => rfl
      | true =>
          rw [mine, Bool.toNat_true] at falls
          omega
  | succ bound ih =>
      intro n atMost
      by_cases another : ∃ m l, n ≤ m ∧ execution.label m = some l ∧ own l = true
      · obtain ⟨m, l, le, label, mine⟩ := another
        have falls := ranked (execution.steps m l label)
        have below := ranked.le execution le
        rw [mine, Bool.toNat_true] at falls
        exact ih (m + 1) (by omega)
      · refine ⟨n, fun m l le label => ?_⟩
        rw [← Bool.not_eq_true]
        exact fun mine => another ⟨m, l, le, label, mine⟩

end BumpinHost.Transition.System
