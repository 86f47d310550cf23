import Mathlib.Logic.Function.Basic

/-!
# Recursive mutexes

A recursive mutex is free, or one thread has acquired it one or more times.
Locking waits while another thread has it.  Unlocking is defined for its owner
alone.
-/

namespace BumpinHost

inductive RecursiveMutex (Thread : Type*)
  | free
  /-- Acquired once, and `again` more times. -/
  | held (owner : Thread) (again : Nat)
deriving DecidableEq, Repr

namespace RecursiveMutex

variable {Thread : Type*} [DecidableEq Thread]

/-- The mutex with the thread inside, if the thread does not have to wait. -/
def lock (mutex : RecursiveMutex Thread) (t : Thread) : Option (RecursiveMutex Thread) :=
  match mutex with
  | .free => some (.held t 0)
  | .held owner again => if owner = t then some (.held owner (again + 1)) else none

/-- The mutex after its owner has given back one acquisition. -/
def unlock (mutex : RecursiveMutex Thread) (t : Thread) : Option (RecursiveMutex Thread) :=
  match mutex with
  | .free => none
  | .held owner 0 => if owner = t then some .free else none
  | .held owner (again + 1) => if owner = t then some (.held owner again) else none

/-- How often a thread has to unlock the mutex. -/
def acquisitions (mutex : RecursiveMutex Thread) (t : Thread) : Nat :=
  match mutex with
  | .free => 0
  | .held owner again => if owner = t then again + 1 else 0

variable {mutex after : RecursiveMutex Thread} {t u : Thread}

theorem owner_eq_of_acquisitions {owner : Thread} {again : Nat}
    (owned : 0 < (RecursiveMutex.held owner again).acquisitions t) : owner = t := by
  by_contra different
  simp [acquisitions, different] at owned

/-- At most one thread has acquisitions to give back. -/
theorem eq_of_acquisitions (first : 0 < mutex.acquisitions t)
    (second : 0 < mutex.acquisitions u) : t = u := by
  cases mutex with
  | free => simp [acquisitions] at first
  | held owner again =>
      exact (owner_eq_of_acquisitions first).symm.trans (owner_eq_of_acquisitions second)

theorem eq_free_of_acquisitions (none : ∀ t, mutex.acquisitions t = 0) : mutex = .free := by
  cases mutex with
  | free => rfl
  | held owner again =>
      have owned := none owner
      simp [acquisitions] at owned

theorem acquisitions_lock (locked : mutex.lock t = some after) (u : Thread) :
    after.acquisitions u = mutex.acquisitions u + if u = t then 1 else 0 := by
  cases mutex with
  | free =>
      obtain rfl : RecursiveMutex.held t 0 = after := by simpa [lock] using locked
      simp [acquisitions, eq_comm]
  | held owner again =>
      simp only [lock] at locked
      split at locked
      case isTrue same =>
          subst same
          obtain rfl : RecursiveMutex.held owner (again + 1) = after := by simpa using locked
          by_cases other : u = owner
          · simp [acquisitions, other]
          · simp [acquisitions, other, Ne.symm other]
      case isFalse => cases locked

theorem acquisitions_unlock (unlocked : mutex.unlock t = some after) (u : Thread) :
    mutex.acquisitions u = after.acquisitions u + if u = t then 1 else 0 := by
  cases mutex with
  | free => cases unlocked
  | held owner again =>
      cases again with
      | zero =>
          simp only [unlock] at unlocked
          split at unlocked
          case isTrue same =>
              subst same
              obtain rfl : RecursiveMutex.free = after := by simpa using unlocked
              simp [acquisitions, eq_comm]
          case isFalse => cases unlocked
      | succ again =>
          simp only [unlock] at unlocked
          split at unlocked
          case isTrue same =>
              subst same
              obtain rfl : RecursiveMutex.held owner again = after := by simpa using unlocked
              by_cases other : u = owner
              · simp [acquisitions, other]
              · simp [acquisitions, other, Ne.symm other]
          case isFalse => cases unlocked

/-- A thread that has the mutex can unlock it. -/
theorem exists_unlock (owned : 0 < mutex.acquisitions t) :
    ∃ after, mutex.unlock t = some after := by
  cases mutex with
  | free => simp [acquisitions] at owned
  | held owner again =>
      have same := owner_eq_of_acquisitions owned
      cases again with
      | zero => exact ⟨.free, by simp [unlock, same]⟩
      | succ again => exact ⟨.held owner again, by simp [unlock, same]⟩

/-- A thread that has the mutex does not wait for it. -/
theorem exists_lock (owned : 0 < mutex.acquisitions t) :
    ∃ after, mutex.lock t = some after := by
  cases mutex with
  | free => simp [acquisitions] at owned
  | held owner again =>
      have same := owner_eq_of_acquisitions owned
      exact ⟨.held owner (again + 1), by simp [lock, same]⟩

/-- While a thread has the mutex every other thread waits. -/
theorem lock_eq_none_of_other (owned : 0 < mutex.acquisitions t) (different : u ≠ t) :
    mutex.lock u = none := by
  cases mutex with
  | free => simp [acquisitions] at owned
  | held owner again =>
      obtain rfl := owner_eq_of_acquisitions owned
      simp [lock, Ne.symm different]

end RecursiveMutex

end BumpinHost
