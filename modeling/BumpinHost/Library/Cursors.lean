import BumpinHost.Library.Transition
import Mathlib.Algebra.GroupWithZero.Nat

/-!
# Independent cursors

Every open handle has the contents of its file and a position.  A read delivers what
lies at an offset, as far as the file reaches, and leaves the position behind it; the
offset is given, or it is the position.  Positions can also be set and asked for.
-/

namespace BumpinHost.Cursors

structure Cursor (Datum : Type*) where
  contents : List Datum
  position : Nat

/-- What lies at an offset, at most so much of it. -/
def slice {Datum : Type*} (contents : List Datum) (offset length : Nat) : List Datum :=
  (contents.drop offset).take length

inductive Event (Handle Datum : Type*)
  /-- `explicit` if the offset was given. -/
  | read (handle : Handle) (explicit : Bool) (offset length : Nat) (data : List Datum)
  | setPosition (handle : Handle) (position : Nat)
  | queryPosition (handle : Handle) (position : Nat)

variable {Handle Datum : Type*} [DecidableEq Handle]

inductive Step (cursors : Handle → Option (Cursor Datum)) :
    Event Handle Datum → (Handle → Option (Cursor Datum)) → Prop
  | read {handle : Handle} {cursor : Cursor Datum} (explicit : Bool) (offset length : Nat) :
      cursors handle = some cursor →
      (explicit = false → offset = cursor.position) →
      Step cursors (.read handle explicit offset length (slice cursor.contents offset length))
        (Function.update cursors handle (some { cursor with
          position := offset + (slice cursor.contents offset length).length }))
  | setPosition {handle : Handle} {cursor : Cursor Datum} (position : Nat) :
      cursors handle = some cursor →
      Step cursors (.setPosition handle position)
        (Function.update cursors handle (some { cursor with position := position }))
  | queryPosition {handle : Handle} {cursor : Cursor Datum} :
      cursors handle = some cursor →
      Step cursors (.queryPosition handle cursor.position) cursors

/-- Cursors that start in any positions. -/
def cursorSystem (Handle Datum : Type*) [DecidableEq Handle] :
    Transition.System (Handle → Option (Cursor Datum)) (Event Handle Datum) where
  init _ := True
  step := Step

theorem length_slice (contents : List Datum) (offset length : Nat) :
    (slice contents offset length).length = min length (contents.length - offset) := by
  rw [slice, List.length_take, List.length_drop]

/-- Two slices, one behind the other, are one. -/
theorem slice_append (contents : List Datum) (offset first second : Nat) :
    slice contents offset first ++
        slice contents (offset + (slice contents offset first).length) second =
      slice contents offset (first + second) := by
  rw [length_slice]
  unfold slice
  rw [List.take_add, List.drop_drop]
  by_cases inside : first ≤ contents.length - offset
  · rw [min_eq_left inside]
  · have past : contents.length ≤ offset + min first (contents.length - offset) := by omega
    have further : contents.length ≤ offset + first := by omega
    rw [List.drop_eq_nil_of_le past, List.drop_eq_nil_of_le further]

namespace Event

/-- The position after the event, if it moves the handle's cursor. -/
def moves (handle : Handle) : Event Handle Datum → Option Nat
  | .read other _ offset _ data => if other = handle then some (offset + data.length) else none
  | .setPosition other position => if other = handle then some position else none
  | .queryPosition _ _ => none

/-- The data that the event delivers on the handle. -/
def delivers (handle : Handle) : Event Handle Datum → List Datum
  | .read other _ _ _ data => if other = handle then data else []
  | _ => []

/-- How much the event asks for on the handle. -/
def asks (handle : Handle) : Event Handle Datum → Nat
  | .read other _ _ length _ => if other = handle then length else 0
  | _ => 0

/-- The event moves the handle's cursor by a read without an offset, or not at all. -/
def Sequential (handle : Handle) : Event Handle Datum → Prop
  | .read other explicit _ _ _ => other = handle → explicit = false
  | .setPosition other _ => other ≠ handle
  | .queryPosition _ _ => True

end Event

variable {before after : Handle → Option (Cursor Datum)} {event : Event Handle Datum}
  {handle : Handle}

/-- A step keeps the contents, and moves a cursor where the event says. -/
theorem Step.cursor_eq (step : Step before event after) (handle : Handle) :
    after handle = (before handle).map fun cursor =>
      { cursor with position := (event.moves handle).getD cursor.position } := by
  cases step with
  | @read other cursor explicit offset length found implicit =>
      by_cases same : other = handle
      · subst same
        simp [Event.moves, found]
      · rw [Function.update_of_ne (Ne.symm same)]
        simp [Event.moves, same]
  | @setPosition other cursor position found =>
      by_cases same : other = handle
      · subst same
        simp [Event.moves, found]
      · rw [Function.update_of_ne (Ne.symm same)]
        simp [Event.moves, same]
  | queryPosition found => simp [Event.moves]

/-- The last position that the events set or reached, or the one they started from. -/
def lastPosition (handle : Handle) (start : Nat) (events : List (Event Handle Datum)) : Nat :=
  ((events.filterMap (Event.moves handle)).getLast?).getD start

theorem lastPosition_concat (start : Nat) (events : List (Event Handle Datum))
    (event : Event Handle Datum) :
    lastPosition handle start (events ++ [event]) =
      (event.moves handle).getD (lastPosition handle start events) := by
  unfold lastPosition
  rw [List.filterMap_append]
  cases moved : event.moves handle with
  | none => simp [moved]
  | some position => simp [moved]

variable {start final : Handle → Option (Cursor Datum)} {events : List (Event Handle Datum)}

/-- Along a run a cursor keeps its contents and stands where it was last put. -/
theorem cursor_eq_of_run (run : (cursorSystem Handle Datum).Run start events final)
    (handle : Handle) :
    final handle = (start handle).map fun cursor =>
      { cursor with position := lastPosition handle cursor.position events } := by
  induction run with
  | refl =>
      cases start handle <;> rfl
  | @tail past before after event _ step ih =>
      rw [Step.cursor_eq step handle, ih, Option.map_map]
      congr 1
      funext cursor
      dsimp only [Function.comp]
      rw [lastPosition_concat]

def delivered (handle : Handle) (events : List (Event Handle Datum)) : List Datum :=
  events.flatMap (Event.delivers handle)

def asked (handle : Handle) (events : List (Event Handle Datum)) : Nat :=
  (events.map (Event.asks handle)).sum

/-- What a sequential step delivers on a handle lies at its position, which moves on by
as much. -/
theorem Step.sequential (step : Step before event after)
    (sequential : event.Sequential handle) {cursor : Cursor Datum}
    (found : before handle = some cursor) :
    event.delivers handle = slice cursor.contents cursor.position (event.asks handle) ∧
      (event.moves handle).getD cursor.position =
        cursor.position + (event.delivers handle).length := by
  cases step with
  | @read other otherCursor explicit offset length foundOther implicit =>
      by_cases same : other = handle
      · subst same
        obtain rfl : otherCursor = cursor := Option.some.inj (foundOther.symm.trans found)
        have here := implicit (sequential rfl)
        subst here
        simp [Event.delivers, Event.asks, Event.moves]
      · simp [Event.delivers, Event.asks, Event.moves, same, slice]
  | @setPosition other otherCursor position foundOther =>
      have different : other ≠ handle := sequential
      simp [Event.delivers, Event.asks, Event.moves, different, slice]
  | queryPosition _ => simp [Event.delivers, Event.asks, Event.moves, slice]

/-- Reads without offsets, however long each is and whatever happens on other handles
in between, deliver what one read of their whole length delivers. -/
theorem delivered_eq_slice (run : (cursorSystem Handle Datum).Run start events final)
    {cursor : Cursor Datum} (found : start handle = some cursor)
    (sequential : ∀ event ∈ events, event.Sequential handle) :
    delivered handle events = slice cursor.contents cursor.position (asked handle events) ∧
      lastPosition handle cursor.position events =
        cursor.position + (delivered handle events).length := by
  induction run with
  | refl => simp [delivered, asked, slice, lastPosition]
  | @tail past before after event previous step ih =>
      obtain ⟨sofar, reached⟩ :=
        ih fun earlier member => sequential earlier (List.mem_append_left _ member)
      have here := cursor_eq_of_run previous handle
      rw [found, Option.map_some] at here
      obtain ⟨delivers, moves⟩ := Step.sequential step
        (sequential event (List.mem_append_right _ (List.mem_singleton_self _))) here
      dsimp only at delivers moves
      have whole : delivered handle (past ++ [event]) =
          delivered handle past ++ event.delivers handle := by
        simp [delivered]
      have total : asked handle (past ++ [event]) =
          asked handle past + event.asks handle := by
        simp [asked]
      constructor
      · rw [whole, total, delivers, reached, sofar, slice_append]
      · rw [lastPosition_concat, moves, whole, reached, List.length_append, Nat.add_assoc]

end BumpinHost.Cursors
