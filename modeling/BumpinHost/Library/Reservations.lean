import Mathlib.Data.List.Basic

/-!
# Claims on the front of a queue

A claimant first decides to take an item and takes the front of the queue later, when
other claimants may have taken before it.  Claims are safe when there is an item for
each of them and every claimant may have each of these items, so that it does not
matter in which order they are served.
-/

namespace BumpinHost.Reservations

variable {Claimant Item : Type*} {may : Claimant → Item → Prop} {items : List Item}
  {claimants : List Claimant}

/-- There is an item for each claimant, and each may have any of them. -/
def Honourable (may : Claimant → Item → Prop) (items : List Item)
    (claimants : List Claimant) : Prop :=
  claimants.length ≤ items.length ∧
    ∀ item ∈ items.take claimants.length, ∀ claimant ∈ claimants, may claimant item

theorem Honourable.unclaimed (may : Claimant → Item → Prop) (items : List Item) :
    Honourable may items [] := by
  constructor
  · exact Nat.zero_le _
  · intro item member
    cases member

/-- What is put behind the claimed items does not matter. -/
theorem Honourable.put (honourable : Honourable may items claimants) (item : Item) :
    Honourable may (items ++ [item]) claimants := by
  obtain ⟨enough, allowed⟩ := honourable
  constructor
  · rw [List.length_append]
    omega
  · rw [List.take_append_of_le_length enough]
    exact allowed

/-- A claimant is served from the front, and the other claims stay safe. -/
theorem Honourable.serve [BEq Claimant] [LawfulBEq Claimant]
    (honourable : Honourable may items claimants) {claimant : Claimant}
    (claims : claimant ∈ claimants) :
    ∃ item rest, items = item :: rest ∧ may claimant item ∧
      Honourable may rest (claimants.erase claimant) := by
  obtain ⟨enough, allowed⟩ := honourable
  have positive := List.length_pos_of_mem claims
  cases items with
  | nil => exact absurd (Nat.lt_of_lt_of_le positive enough) (Nat.lt_irrefl 0)
  | cons item rest =>
      obtain ⟨others, count⟩ : ∃ others, claimants.length = others + 1 :=
        ⟨claimants.length - 1, by omega⟩
      rw [count, List.take_succ_cons] at allowed
      have remaining : (claimants.erase claimant).length = others := by
        rw [List.length_erase_of_mem claims, count, Nat.add_sub_cancel]
      refine ⟨item, rest, rfl, allowed item (List.mem_cons_self ..) claimant claims, ?_, ?_⟩
      · rw [remaining]
        rw [count, List.length_cons] at enough
        omega
      · rw [remaining]
        intro other member another isClaimant
        exact allowed other (List.mem_cons_of_mem _ member) another
          (List.mem_of_mem_erase isClaimant)

end BumpinHost.Reservations
