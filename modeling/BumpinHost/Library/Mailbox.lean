import BumpinHost.Library.Transition

/-!
# One-place mailboxes

An item that is put replaces what the mailbox held, and taking empties it.  The
items got are among those put, in the same order, and an item that is not got by
the next take was replaced by a later one.
-/

namespace BumpinHost.Mailbox

open Transition (System)

variable {Item : Type*}

inductive Event (Item : Type*)
  | put (item : Item)
  | take (got : Option Item)

def Event.putItem : Event Item → Option Item
  | put item => some item
  | take _ => none

def Event.gotItem : Event Item → Option Item
  | put _ => none
  | take got => got

inductive Step (slot : Option Item) : Event Item → Option Item → Prop
  | put (item : Item) : Step slot (.put item) (some item)
  | take : Step slot (.take slot) none

def mailbox (Item : Type*) : System (Option Item) (Event Item) where
  init := (· = none)
  step := Step

/-- What was got and what the mailbox still holds were put in that order. -/
theorem got_sublist_put {final : Option Item} {events : List (Event Item)}
    (run : (mailbox Item).Run none events final) :
    (events.filterMap Event.gotItem ++ final.toList).Sublist
      (events.filterMap Event.putItem) := by
  induction run with
  | refl => exact .slnil
  | @tail past slot after event _ step ih =>
      rw [List.filterMap_append, List.filterMap_append]
      cases step with
      | put item =>
          have sofar := (List.sublist_append_left ..).trans ih
          simpa [List.filterMap_cons, Event.gotItem, Event.putItem] using sofar
      | take =>
          cases slot with
          | none => simpa [List.filterMap_cons, Event.gotItem, Event.putItem] using ih
          | some item => simpa [List.filterMap_cons, Event.gotItem, Event.putItem] using ih

/-- Until something is taken, the mailbox holds the last item put. -/
theorem holds_latest {start final : Option Item} {events : List (Event Item)}
    (run : (mailbox Item).Run start events final) (untaken : ∀ got, .take got ∉ events) :
    final = (events.filterMap Event.putItem).getLast?.or start := by
  induction run with
  | refl => rfl
  | @tail past slot after event _ step _ =>
      cases step with
      | put item => simp [Event.putItem]
      | take => exact absurd (List.mem_append_right _ List.mem_cons_self) (untaken slot)

/-- A take gets the last item put since the one before it. -/
theorem take_gets_latest {start final : Option Item} {past middle future : List (Event Item)}
    {item : Item} {got : Option Item}
    (run : (mailbox Item).Run start (past ++ .put item :: (middle ++ .take got :: future)) final)
    (untaken : ∀ other, .take other ∉ middle) :
    got = (middle.filterMap Event.putItem).getLast?.or (some item) := by
  obtain ⟨before, -, rest⟩ := run.split
  obtain ⟨after, stored, rest⟩ := rest.of_cons
  obtain ⟨slot, between, rest⟩ := rest.split
  obtain ⟨emptied, taken, -⟩ := rest.of_cons
  cases stored
  have latest := holds_latest between untaken
  cases taken
  exact latest

end BumpinHost.Mailbox
