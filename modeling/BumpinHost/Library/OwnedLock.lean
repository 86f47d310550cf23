import Mathlib.Data.List.Basic

/-!
# Locks that their owner gives back

The history of a lock is a list of acquires and releases, each by a thread.  A history is one
of a lock when a thread acquires it only while nobody has it, and only the thread that has it
releases it; then the event that follows a thread's acquire is that thread's own release.
-/

namespace BumpinHost.OwnedLock

variable {Thread : Type*}

inductive Event (Thread : Type*)
  | acquire (t : Thread)
  | release (t : Thread)
deriving DecidableEq, Repr

/-- Who has the lock after an event. -/
def Event.owner : Event Thread → Option Thread
  | acquire t => some t
  | release _ => none

/-- Who has the lock after a history, given who had it before. -/
def owner (start : Option Thread) (events : List (Event Thread)) : Option Thread :=
  events.foldl (fun _ event => event.owner) start

/-- What may happen next to a lock. -/
def Allowed : Option Thread → Event Thread → Prop
  | none, .acquire _ => True
  | some t, .release u => t = u
  | _, _ => False

/-- Every event of the history was allowed when it happened. -/
def LockHistory (start : Option Thread) (events : List (Event Thread)) : Prop :=
  ∀ before event after, events = before ++ event :: after → Allowed (owner start before) event

/-- Only the thread that has the lock releases it. -/
def ReleasesOwn (start : Option Thread) (events : List (Event Thread)) : Prop :=
  ∀ before t after, events = before ++ .release t :: after → owner start before = some t

variable {start : Option Thread} {events more : List (Event Thread)} {event : Event Thread}

@[simp]
theorem owner_nil : owner start ([] : List (Event Thread)) = start := rfl

@[simp]
theorem owner_concat : owner start (events ++ [event]) = event.owner := by
  simp [owner]

theorem LockHistory.nil : LockHistory start ([] : List (Event Thread)) := by
  intro before event after split
  exact absurd split.symm (List.append_ne_nil_of_right_ne_nil _ (List.cons_ne_nil _ _))

theorem LockHistory.concat (history : LockHistory start events)
    (allowed : Allowed (owner start events) event) : LockHistory start (events ++ [event]) := by
  intro before other after split
  rcases List.eq_nil_or_concat after with rfl | ⟨rest, last, rfl⟩
  · obtain ⟨rfl, same⟩ := List.append_inj' split rfl
    obtain rfl : event = other := by simpa using same
    exact allowed
  · rw [List.concat_eq_append, ← List.cons_append, ← List.append_assoc] at split
    exact history before other rest (List.append_inj' split rfl).1

theorem ReleasesOwn.of_append (own : ReleasesOwn start (events ++ more)) :
    ReleasesOwn start events := by
  intro before t after split
  apply own before t (after ++ more)
  rw [split, List.append_assoc, List.cons_append]

theorem ReleasesOwn.last {t : Thread} (own : ReleasesOwn start (events ++ [.release t])) :
    owner start events = some t :=
  own events t [] rfl

/-- Nobody comes between an acquire and the acquirer's own release. -/
theorem LockHistory.next_eq_release (history : LockHistory start events)
    {before after : List (Event Thread)} {t : Thread} {next : Event Thread}
    (split : events = before ++ .acquire t :: next :: after) : next = .release t := by
  have allowed := history (before ++ [.acquire t]) next after (by simp [split])
  rw [owner_concat] at allowed
  cases next with
  | acquire u => exact absurd allowed id
  | release u => exact congrArg Event.release (Eq.symm allowed)

end BumpinHost.OwnedLock
