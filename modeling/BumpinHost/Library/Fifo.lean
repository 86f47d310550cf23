import BumpinHost.Library.Transition

/-!
# First-in first-out queues

Items are put at the back of a queue and taken from its front.  What a queue held
and was given is what was taken from it and what it still holds, so the items taken
are the first of those put.
-/

namespace BumpinHost.Fifo

open Transition (System)

variable {Item : Type*}

inductive Event (Item : Type*)
  | put (item : Item)
  | take (item : Item)

def Event.putItem : Event Item → Option Item
  | put item => some item
  | take _ => none

def Event.takenItem : Event Item → Option Item
  | put _ => none
  | take item => some item

inductive Step : List Item → Event Item → List Item → Prop
  | put (queue : List Item) (item : Item) : Step queue (.put item) (queue ++ [item])
  | take (item : Item) (rest : List Item) : Step (item :: rest) (.take item) rest

def fifo (Item : Type*) : System (List Item) (Event Item) where
  init := (· = [])
  step := Step

/-- Nothing is lost, and the order is kept. -/
theorem conservation {start final : List Item} {events : List (Event Item)}
    (run : (fifo Item).Run start events final) :
    start ++ events.filterMap Event.putItem = events.filterMap Event.takenItem ++ final := by
  induction run with
  | refl => simp
  | tail _ step ih =>
      rw [List.filterMap_append, List.filterMap_append, ← List.append_assoc, ih]
      cases step with
      | put => simp [Event.putItem, Event.takenItem]
      | take => simp [Event.putItem, Event.takenItem]

theorem taken_prefix_put {final : List Item} {events : List (Event Item)}
    (run : (fifo Item).Run [] events final) :
    events.filterMap Event.takenItem <+: events.filterMap Event.putItem := by
  have conserved := conservation run
  rw [List.nil_append] at conserved
  rw [conserved]
  exact List.prefix_append ..

end BumpinHost.Fifo
