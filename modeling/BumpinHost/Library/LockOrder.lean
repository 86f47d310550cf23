import Mathlib.Logic.Relation
import Mathlib.Order.Defs.LinearOrder
import Mathlib.Order.Preorder.Finite

/-!
# Lock orders with exceptions

Threads hold locks and wait for at most one.  If everybody waits only for locks
above those they hold, no threads wait for each other in a circle.  A wait that is
against the order, or for a lock that is held already, is an exception, and every
pair of threads that wait for each other contains one.
-/

namespace BumpinHost.LockOrder

variable {Thread Lock Rank : Type*} [Preorder Rank]

/-- Each of two threads holds a lock that the other is waiting for. -/
structure MutualWait (holds waits : Thread → Lock → Prop) (t u : Thread)
    (first second : Lock) : Prop where
  distinct : t ≠ u
  holds_first : holds t first
  waits_second : waits t second
  holds_second : holds u second
  waits_first : waits u first

/-- Different threads never hold the same lock. -/
def Exclusive (holds : Thread → Lock → Prop) : Prop :=
  ∀ {t u lock}, holds t lock → holds u lock → t = u

/-- The thread holds and waits for the locks in that order. -/
def InOrder (rank : Lock → Rank) (held wanted : Lock) : Prop := rank held < rank wanted

namespace MutualWait

variable {holds waits : Thread → Lock → Prop} {t u : Thread} {first second : Lock}

theorem symm (wait : MutualWait holds waits t u first second) :
    MutualWait holds waits u t second first :=
  ⟨wait.distinct.symm, wait.holds_second, wait.waits_first, wait.holds_first,
    wait.waits_second⟩

/-- Threads that wait for each other wait for different locks. -/
theorem ne (wait : MutualWait holds waits t u first second) (exclusive : Exclusive holds) :
    first ≠ second := by
  rintro rfl
  exact wait.distinct (exclusive wait.holds_first wait.holds_second)

/-- Up to exchanging the two threads, the first one waits against the order. -/
theorem exists_against (wait : MutualWait holds waits t u first second) (rank : Lock → Rank) :
    ∃ t u first second, MutualWait holds waits t u first second ∧
      ¬ InOrder rank first second := by
  by_cases ordered : InOrder rank first second
  · exact ⟨u, t, second, first, wait.symm, lt_asymm ordered⟩
  · exact ⟨t, u, first, second, wait, ordered⟩

end MutualWait

/-- The second thread holds a lock that the first is waiting for. -/
def WaitsFor (holds waits : Thread → Lock → Prop) (t u : Thread) : Prop :=
  ∃ lock, waits t lock ∧ holds u lock

/-- Everybody waits only for locks above all those they hold. -/
def Ordered (rank : Lock → Rank) (holds waits : Thread → Lock → Prop) : Prop :=
  ∀ ⦃t held wanted⦄, holds t held → waits t wanted → InOrder rank held wanted

namespace Ordered

variable {rank : Lock → Rank} {holds waits : Thread → Lock → Prop} {t u : Thread}

/-- Along waits the locks rise. -/
theorem exists_le (ordered : Ordered rank holds waits)
    (path : Relation.TransGen (WaitsFor holds waits) t u) :
    ∃ wanted held, waits t wanted ∧ holds u held ∧ rank wanted ≤ rank held := by
  induction path with
  | single edge =>
      obtain ⟨lock, waiting, holding⟩ := edge
      exact ⟨lock, lock, waiting, holding, le_rfl⟩
  | tail _ edge ih =>
      obtain ⟨wanted, held, waiting, holding, le⟩ := ih
      obtain ⟨next, nextWaiting, nextHolding⟩ := edge
      have rises : rank held < rank next := ordered holding nextWaiting
      exact ⟨wanted, next, waiting, nextHolding, le.trans rises.le⟩

theorem acyclic (ordered : Ordered rank holds waits) (t : Thread) :
    ¬ Relation.TransGen (WaitsFor holds waits) t t := by
  intro circle
  obtain ⟨wanted, held, waiting, holding, le⟩ := ordered.exists_le circle
  exact le.not_gt (ordered holding waiting)

/-- Where finitely many wait, one of them waits for a lock whose holders do not wait. -/
theorem exists_top (ordered : Ordered rank holds waits)
    (finite : {wait : Thread × Lock | waits wait.1 wait.2}.Finite) {lock : Lock}
    (waiting : waits t lock) :
    ∃ top wanted, waits top wanted ∧ ∀ u, holds u wanted → ∀ other, ¬ waits u other := by
  obtain ⟨⟨top, wanted⟩, topWaits, highest⟩ :=
    finite.exists_maximalFor (fun wait => rank wait.2) _ ⟨(t, lock), waiting⟩
  refine ⟨top, wanted, topWaits, ?_⟩
  intro u holding other alsoWaits
  have rises : rank wanted < rank other := ordered holding alsoWaits
  have below : rank other ≤ rank wanted := highest (j := (u, other)) alsoWaits rises.le
  exact below.not_gt rises

end Ordered

end BumpinHost.LockOrder
