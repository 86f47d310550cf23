import BumpinHost.Library.Fifo

/-!
# Queues that are taken from selectively

Items are put at the back of a queue.  Who takes one may ask for the first item there is
or for the first of some kind, so items can overtake each other.  The items of one key
cannot: seen through a key the queue is first-in first-out.
-/

namespace BumpinHost.KeyedQueue

open Transition (System)
open Fifo (Event)

variable {Item Key : Type*} (key : Item → Key)

/-- An item is taken before all others of its key. -/
inductive Step : List Item → Event Item → List Item → Prop
  | put (queue : List Item) (item : Item) : Step queue (.put item) (queue ++ [item])
  | take (before : List Item) (item : Item) (after : List Item) :
      (∀ other ∈ before, key other ≠ key item) →
      Step (before ++ item :: after) (.take item) (before ++ after)

def keyedQueue : System (List Item) (Event Item) where
  init := (· = [])
  step := Step key

theorem Step.ne_nil {key : Item → Key} {queue rest : List Item} {item : Item}
    (step : Step key queue (.take item) rest) : queue ≠ [] := by
  cases step with
  | take before item after => simp

section OneKey

variable [DecidableEq Key] (k : Key)

/-- The items of a key. -/
def ofKey (items : List Item) : List Item := items.filter fun item => key item = k

/-- An event, if it is about an item of the key. -/
def eventOfKey : Event Item → Option (Event Item)
  | .put item => if key item = k then some (.put item) else none
  | .take item => if key item = k then some (.take item) else none

variable {key k}

theorem ofKey_append (first second : List Item) :
    ofKey key k (first ++ second) = ofKey key k first ++ ofKey key k second :=
  List.filter_append ..

theorem ofKey_eq_nil {items : List Item} (none : ∀ item ∈ items, key item ≠ k) :
    ofKey key k items = [] := by
  rw [ofKey, List.filter_eq_nil_iff]
  intro item member
  simpa using none item member

theorem ofKey_cons (item : Item) (items : List Item) :
    ofKey key k (item :: items) = (if key item = k then [item] else []) ++ ofKey key k items := by
  by_cases same : key item = k <;> simp [ofKey, same]

theorem Step.follows {before after : List Item} {event : Event Item}
    (step : Step key before event after) :
    (Fifo.fifo Item).Follows (ofKey key k) (eventOfKey key k) before event after := by
  cases step with
  | put queue item =>
      by_cases same : key item = k
      · refine .seen (.put item) (if_pos same) ?_
        rw [ofKey_append, ofKey_cons, if_pos same]
        exact .put ..
      · refine .unseen (if_neg same) ?_
        rw [ofKey_append, ofKey_cons, if_neg same]
        simp [ofKey]
  | take before item after first =>
      by_cases same : key item = k
      · refine .seen (.take item) (if_pos same) ?_
        have none : ofKey key k before = [] := ofKey_eq_nil (same ▸ first)
        rw [ofKey_append, ofKey_append, none, ofKey_cons, if_pos same]
        exact .take ..
      · refine .unseen (if_neg same) ?_
        rw [ofKey_append, ofKey_append, ofKey_cons, if_neg same]
        rfl

theorem putItem_eventOfKey (event : Event Item) :
    (eventOfKey key k event).bind Event.putItem =
      event.putItem.filter fun item => key item = k := by
  cases event with
  | put item =>
      by_cases same : key item = k <;>
        simp [eventOfKey, Event.putItem, Option.filter_some, same]
  | take item => by_cases same : key item = k <;> simp [eventOfKey, Event.putItem, same]

theorem takenItem_eventOfKey (event : Event Item) :
    (eventOfKey key k event).bind Event.takenItem =
      event.takenItem.filter fun item => key item = k := by
  cases event with
  | put item => by_cases same : key item = k <;> simp [eventOfKey, Event.takenItem, same]
  | take item =>
      by_cases same : key item = k <;>
        simp [eventOfKey, Event.takenItem, Option.filter_some, same]

/-- Of the items of a key, nothing is lost, and the order is kept. -/
theorem conservation {start final : List Item} {events : List (Event Item)}
    (run : (keyedQueue key).Run start events final) :
    ofKey key k start ++ ofKey key k (events.filterMap Event.putItem) =
      ofKey key k (events.filterMap Event.takenItem) ++ ofKey key k final := by
  have followed : (Fifo.fifo Item).Run (ofKey key k start) (events.filterMap (eventOfKey key k))
      (ofKey key k final) := run.follows Step.follows
  have seen := Fifo.conservation followed
  have puts : (events.filterMap (eventOfKey key k)).filterMap Event.putItem =
      ofKey key k (events.filterMap Event.putItem) := by
    rw [List.filterMap_filterMap, ofKey, List.filter_filterMap]
    simp only [putItem_eventOfKey]
  have takes : (events.filterMap (eventOfKey key k)).filterMap Event.takenItem =
      ofKey key k (events.filterMap Event.takenItem) := by
    rw [List.filterMap_filterMap, ofKey, List.filter_filterMap]
    simp only [takenItem_eventOfKey]
  rwa [puts, takes] at seen

end OneKey

/-- The first item that is wanted, and the queue without it. -/
def takeFirst (wanted : Item → Bool) (queue : List Item) : Option (Item × List Item) :=
  (queue.find? wanted).map fun item => (item, queue.eraseP wanted)

variable {key} {wanted : Item → Bool} {queue rest : List Item} {item : Item}

theorem wanted_of_takeFirst (took : takeFirst wanted queue = some (item, rest)) :
    wanted item = true := by
  obtain ⟨found, first, same⟩ := Option.map_eq_some_iff.mp took
  obtain ⟨rfl, -⟩ := Prod.mk.inj same
  exact List.find?_some first

/-- Wanting all items of a key, or more, keeps the order of each key. -/
theorem Step.of_takeFirst (took : takeFirst wanted queue = some (item, rest))
    (unwanted : ∀ other, wanted other = false → key other ≠ key item) :
    Step key queue (.take item) rest := by
  obtain ⟨found, first, same⟩ := Option.map_eq_some_iff.mp took
  obtain ⟨rfl, rfl⟩ := Prod.mk.inj same
  obtain ⟨isWanted, before, after, rfl, earlier⟩ := List.find?_eq_some_iff_append.mp first
  have refused : ∀ other ∈ before, wanted other = false := fun other member => by
    simpa using earlier other member
  have erased : (before ++ found :: after).eraseP wanted = before ++ after := by
    rw [List.eraseP_append_right _ fun other member => by simp [refused other member],
      List.eraseP_cons_of_pos isWanted]
  rw [erased]
  exact .take before found after fun other member => unwanted other (refused other member)

end BumpinHost.KeyedQueue
