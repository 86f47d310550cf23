import Mathlib.Data.List.Nodup

/-!
# The first item under each key

A pass over a list that remembers the keys it has seen keeps the first item under each.
No key occurs twice in what it keeps, and an item is kept exactly if no item before it
has its key.
-/

namespace BumpinHost.FirstPerKey

variable {Item Key : Type*} [DecidableEq Key] (key : Item → Key)

/-- The first item under each key that has not been seen yet. -/
def firsts : List Key → List Item → List Item
  | _, [] => []
  | seen, item :: rest =>
      if key item ∈ seen then firsts seen rest else item :: firsts (key item :: seen) rest

variable {key} {seen : List Key} {item : Item} {items : List Item}

theorem firsts_of_mem (old : key item ∈ seen) :
    firsts key seen (item :: items) = firsts key seen items := by
  rw [firsts, if_pos old]

theorem firsts_of_not_mem (new : key item ∉ seen) :
    firsts key seen (item :: items) = item :: firsts key (key item :: seen) items := by
  rw [firsts, if_neg new]

/-- An item is kept if its key is not seen before it.  The induction is on the list. -/
theorem mem_firsts_iff :
    item ∈ firsts key seen items ↔
      ∃ before after, items = before ++ item :: after ∧ key item ∉ seen ∧
        ∀ earlier ∈ before, key earlier ≠ key item := by
  induction items generalizing seen with
  | nil => simp [firsts]
  | cons first rest ih =>
      by_cases old : key first ∈ seen
      · rw [firsts_of_mem old, ih]
        constructor
        · rintro ⟨before, after, rfl, new, none⟩
          refine ⟨first :: before, after, rfl, new, ?_⟩
          refine List.forall_mem_cons.mpr ⟨?_, none⟩
          intro same
          exact new (same ▸ old)
        · rintro ⟨before, after, split, new, none⟩
          cases before with
          | nil =>
              obtain ⟨rfl, -⟩ := List.cons.inj split
              exact absurd old new
          | cons head before =>
              obtain ⟨-, rest⟩ := List.cons.inj split
              exact ⟨before, after, rest, new, (List.forall_mem_cons.mp none).2⟩
      · rw [firsts_of_not_mem old, List.mem_cons, ih]
        constructor
        · rintro (rfl | ⟨before, after, rfl, new, none⟩)
          · exact ⟨[], rest, rfl, old, fun _ listed => absurd listed List.not_mem_nil⟩
          · refine ⟨first :: before, after, rfl, fun seenBefore =>
              new (List.mem_cons_of_mem _ seenBefore), ?_⟩
            refine List.forall_mem_cons.mpr ⟨?_, none⟩
            intro same
            exact new (same ▸ List.mem_cons_self)
        · rintro ⟨before, after, split, new, none⟩
          cases before with
          | nil => exact .inl (List.cons.inj split).1.symm
          | cons head before =>
              obtain ⟨rfl, rest⟩ := List.cons.inj split
              have tail := List.forall_mem_cons.mp none
              refine .inr ⟨before, after, rest, ?_, tail.2⟩
              rw [List.mem_cons, not_or]
              exact ⟨tail.1.symm, new⟩

theorem key_of_mem_firsts (kept : item ∈ firsts key seen items) : key item ∉ seen := by
  obtain ⟨-, -, -, new, -⟩ := mem_firsts_iff.mp kept
  exact new

/-- Each key is kept once. -/
theorem nodup_firsts : ((firsts key seen items).map key).Nodup := by
  induction items generalizing seen with
  | nil => exact List.nodup_nil
  | cons first rest ih =>
      by_cases old : key first ∈ seen
      · rw [firsts_of_mem old]
        exact ih
      · rw [firsts_of_not_mem old, List.map_cons, List.nodup_cons]
        refine ⟨?_, ih⟩
        intro again
        obtain ⟨later, kept, same⟩ := List.mem_map.mp again
        apply key_of_mem_firsts kept
        rw [same]
        exact List.mem_cons_self

/-- Every key that has not been seen is kept. -/
theorem mem_keys_firsts {k : Key} :
    k ∈ (firsts key seen items).map key ↔ k ∉ seen ∧ k ∈ items.map key := by
  induction items generalizing seen with
  | nil => exact iff_of_false List.not_mem_nil fun both => absurd both.2 List.not_mem_nil
  | cons first rest ih =>
      rw [List.map_cons, List.mem_cons]
      by_cases old : key first ∈ seen
      · rw [firsts_of_mem old, ih]
        refine and_congr_right fun new => ?_
        have other : k ≠ key first := fun same => new (same ▸ old)
        exact (or_iff_right other).symm
      · rw [firsts_of_not_mem old, List.map_cons, List.mem_cons, ih, List.mem_cons, not_or]
        by_cases own : k = key first
        · exact iff_of_true (.inl own) ⟨own ▸ old, .inl own⟩
        · rw [or_iff_right own, or_iff_right own]
          exact and_congr_left fun _ => and_iff_right own

end BumpinHost.FirstPerKey
