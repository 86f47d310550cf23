import Mathlib.Data.List.Basic

/-!
# Patches laid over a memory

A patch gives values to some of the addresses.  When patches are laid one over the
other, an address has the value of the last of them that covers it.
-/

namespace BumpinHost.Patches

variable {Address Value : Type*}

/-- Values for some of the addresses. -/
abbrev Patch (Address Value : Type*) := Address → Option Value

/-- What is there after a patch has been laid over it. -/
def lay (under : Address → Value) (patch : Patch Address Value) : Address → Value :=
  fun address => (patch address).getD (under address)

/-- The patches of a list, the last one on top. -/
def layAll (under : Address → Value) (patches : List (Patch Address Value)) : Address → Value :=
  patches.foldl lay under

variable {under : Address → Value} {patches before after : List (Patch Address Value)}
  {patch : Patch Address Value} {address : Address} {value : Value}

theorem lay_of_covered (covered : patch address = some value) :
    lay under patch address = value := by
  rw [lay, covered, Option.getD_some]

theorem lay_of_bare (bare : patch address = none) : lay under patch address = under address := by
  rw [lay, bare, Option.getD_none]

@[simp]
theorem layAll_nil : layAll under [] = under := rfl

@[simp]
theorem layAll_cons : layAll under (patch :: patches) = layAll (lay under patch) patches := rfl

theorem layAll_append : layAll under (before ++ after) = layAll (layAll under before) after :=
  List.foldl_append

theorem layAll_of_bare (bare : ∀ patch ∈ patches, patch address = none) :
    layAll under patches address = under address := by
  induction patches generalizing under with
  | nil => rfl
  | cons patch patches ih =>
      rw [layAll_cons, ih fun later member => bare later (List.mem_cons_of_mem _ member),
        lay_of_bare (bare patch List.mem_cons_self)]

/-- The last patch that covers an address tells its value. -/
theorem layAll_of_last (covered : patch address = some value)
    (bare : ∀ later ∈ after, later address = none) :
    layAll under (before ++ patch :: after) address = value := by
  rw [layAll_append, layAll_cons, layAll_of_bare bare, lay_of_covered covered]

/-- Where at most one patch covers an address, its place among the patches is no matter. -/
theorem layAll_of_only (member : patch ∈ patches) (covered : patch address = some value)
    (only : patches.Pairwise fun first second => first address = none ∨ second address = none) :
    layAll under patches address = value := by
  obtain ⟨before, after, rfl⟩ := List.append_of_mem member
  apply layAll_of_last covered
  intro later listed
  have apart := (List.pairwise_cons.mp (List.pairwise_append.mp only).2.1).1 later listed
  rw [covered] at apart
  exact apart.resolve_left (by simp)

end BumpinHost.Patches
