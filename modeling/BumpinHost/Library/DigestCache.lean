import Mathlib.Data.List.Infix
import Mathlib.Logic.Function.Basic

/-!
# Caches that compare digests

A cache keeps, for each key, the result computed from the blob it was given
last, together with a digest of that blob.  A blob whose digest is the stored
one is taken for the blob that was stored, and the result is kept.  The cache
that always computes is its specification: the two agree along a whole sequence
exactly when no blob is mistaken for one with another result.
-/

namespace BumpinHost.DigestCache

structure Slot (Digest Result : Type*) where
  digest : Digest
  result : Result

variable {Key Item Digest Result : Type*} [DecidableEq Key] [DecidableEq Digest]

/-- What a cache computes from its items. -/
structure Scheme (Key Item Digest Result : Type*) where
  key : Item → Key
  digest : Item → Digest
  compute : Item → Result

namespace Scheme

variable (scheme : Scheme Key Item Digest Result)

def entry (item : Item) : Slot Digest Result :=
  ⟨scheme.digest item, scheme.compute item⟩

/-- Compute and store. -/
def store (slots : Key → Slot Digest Result) (item : Item) : Key → Slot Digest Result :=
  Function.update slots (scheme.key item) (scheme.entry item)

/-- Store only an item whose digest is new. -/
def load (slots : Key → Slot Digest Result) (item : Item) : Key → Slot Digest Result :=
  if scheme.digest item ≠ (slots (scheme.key item)).digest then scheme.store slots item
  else slots

def storeAll (slots : Key → Slot Digest Result) (items : List Item) :
    Key → Slot Digest Result :=
  items.foldl scheme.store slots

def loadAll (slots : Key → Slot Digest Result) (items : List Item) :
    Key → Slot Digest Result :=
  items.foldl scheme.load slots

/-- An item is not mistaken for one with another result. -/
def Distinguished (slot : Slot Digest Result) (item : Item) : Prop :=
  scheme.digest item = slot.digest → scheme.compute item = slot.result

variable {scheme} {slots : Key → Slot Digest Result} {item : Item}

omit [DecidableEq Digest] in
@[simp]
theorem store_key : scheme.store slots item (scheme.key item) = scheme.entry item :=
  Function.update_self ..

omit [DecidableEq Digest] in
theorem store_of_ne {key : Key} (different : key ≠ scheme.key item) :
    scheme.store slots item key = slots key :=
  Function.update_of_ne different ..

/-- Neither operation touches another key. -/
theorem load_of_ne {key : Key} (different : key ≠ scheme.key item) :
    scheme.load slots item key = slots key := by
  unfold load
  split
  · exact store_of_ne different
  · rfl

/-- The stored result is the item's own exactly when the item is distinguished
from what was there. -/
theorem load_result_iff :
    (scheme.load slots item (scheme.key item)).result = scheme.compute item ↔
      scheme.Distinguished (slots (scheme.key item)) item := by
  unfold load Distinguished
  split
  case isTrue new =>
      simp [new, entry]
  case isFalse same =>
      have same := not_not.mp same
      constructor
      · intro kept _
        exact kept.symm
      · intro distinguished
        exact (distinguished same).symm

theorem load_eq_store (distinguished : scheme.Distinguished (slots (scheme.key item)) item) :
    scheme.load slots item = scheme.store slots item := by
  unfold load
  split
  case isTrue new => rfl
  case isFalse same =>
      have same := not_not.mp same
      have kept : scheme.entry item = slots (scheme.key item) := by
        unfold entry
        rw [same, distinguished same]
      unfold store
      rw [kept, Function.update_eq_self]

variable (scheme slots)

omit [DecidableEq Digest] in
@[simp]
theorem storeAll_concat (items : List Item) (item : Item) :
    scheme.storeAll slots (items ++ [item]) = scheme.store (scheme.storeAll slots items) item := by
  simp [storeAll]

@[simp]
theorem loadAll_concat (items : List Item) (item : Item) :
    scheme.loadAll slots (items ++ [item]) = scheme.load (scheme.loadAll slots items) item := by
  simp [loadAll]

omit [DecidableEq Digest] in
/-- The entry for a key is that of the last item with the key, if there is one. -/
theorem storeAll_eq_last (items : List Item) (key : Key) :
    scheme.storeAll slots items key =
      match (items.filter fun item => scheme.key item = key).getLast? with
      | some last => scheme.entry last
      | none => slots key := by
  induction items using List.reverseRecOn with
  | nil => rfl
  | append_singleton items item ih =>
      rw [storeAll_concat]
      by_cases same : scheme.key item = key
      · subst same
        rw [store_key, List.filter_append]
        simp
      · rw [store_of_ne (Ne.symm same), ih, List.filter_append]
        simp [same]

/-- While every item so far was distinguished, the cache is the one that always
computes. -/
theorem loadAll_eq_storeAll {items : List Item}
    (distinguished : ∀ past item, past ++ [item] <+: items →
      scheme.Distinguished (scheme.storeAll slots past (scheme.key item)) item) :
    scheme.loadAll slots items = scheme.storeAll slots items := by
  induction items using List.reverseRecOn with
  | nil => rfl
  | append_singleton items item ih =>
      have sofar : scheme.loadAll slots items = scheme.storeAll slots items := by
        apply ih
        intro past earlier isPrefix
        exact distinguished past earlier (isPrefix.trans (List.prefix_append ..))
      rw [loadAll_concat, storeAll_concat, sofar]
      exact load_eq_store (distinguished items item List.prefix_rfl)

/-- After every item the cache holds that item's result exactly when every item is
distinguished from the last one before it with its key. -/
theorem loadAll_result_iff (items : List Item) :
    (∀ past item, past ++ [item] <+: items →
      (scheme.loadAll slots (past ++ [item]) (scheme.key item)).result = scheme.compute item) ↔
    ∀ past item, past ++ [item] <+: items →
      scheme.Distinguished (scheme.storeAll slots past (scheme.key item)) item := by
  constructor
  · intro reflects
    induction items using List.reverseRecOn with
    | nil =>
        intro past item isPrefix
        exact absurd (List.prefix_nil.mp isPrefix) (by simp)
    | append_singleton items last ih =>
        have before := ih fun past item isPrefix =>
          reflects past item (isPrefix.trans (List.prefix_append ..))
        intro past item isPrefix
        rcases List.prefix_concat_iff.mp isPrefix with whole | shorter
        · obtain ⟨rfl, same⟩ := List.append_inj' whole rfl
          obtain rfl : item = last := by simpa using same
          have result := reflects past item List.prefix_rfl
          rw [loadAll_concat, loadAll_eq_storeAll scheme slots before] at result
          exact load_result_iff.mp result
        · exact before past item shorter
  · intro distinguished past item isPrefix
    have sofar : scheme.loadAll slots past = scheme.storeAll slots past := by
      apply loadAll_eq_storeAll
      intro earlier middle shorter
      exact distinguished earlier middle
        (shorter.trans ((List.prefix_append ..).trans isPrefix))
    rw [loadAll_concat, sofar]
    exact load_result_iff.mpr (distinguished past item isPrefix)

end Scheme

end BumpinHost.DigestCache
