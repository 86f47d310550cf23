import BumpinHost.Library.Fallible

/-!
# Simulation of one fold by another

A fold that may fail with an error is followed by a fold that may be undefined,
when every successful step of the first is a defined step of the second.
-/

namespace BumpinHost

variable {State Shadow Item Error : Type*}

/-- `shadow` follows every successful step of `step`, and keeps the relation. -/
def Simulates (related : State → Shadow → Prop)
    (step : State → Item → Except Error State)
    (shadow : Shadow → Item → Option Shadow) : Prop :=
  ∀ ⦃before mirror item after⦄, related before mirror → step before item = .ok after →
    ∃ mirror', shadow mirror item = some mirror' ∧ related after mirror'

/-- A simulation of single steps is a simulation of whole folds. -/
theorem Simulates.foldlM {related : State → Shadow → Prop}
    {step : State → Item → Except Error State}
    {shadow : Shadow → Item → Option Shadow}
    (simulates : Simulates related step shadow) (items : List Item)
    {before after : State} {mirror : Shadow} (start : related before mirror)
    (succeeds : items.foldlM step before = .ok after) :
    ∃ mirror', items.foldlM shadow mirror = some mirror' ∧ related after mirror' := by
  induction items generalizing before mirror with
  | nil =>
      cases succeeds
      exact ⟨mirror, rfl, start⟩
  | cons item items ih =>
      rw [List.foldlM_cons] at succeeds
      obtain ⟨middle, stepped, rest⟩ := Fallible.bind_eq_ok_iff.mp succeeds
      obtain ⟨middleMirror, shadowed, kept⟩ := simulates start stepped
      obtain ⟨mirror', folded, final⟩ := ih kept rest
      refine ⟨mirror', ?_, final⟩
      rw [List.foldlM_cons, shadowed]
      exact folded

end BumpinHost
