import BumpinHost.Library.Fallible
import Mathlib.Data.List.Infix

/-!
# Folds whose results grow

A fold that may fail shows some part of its state.  An idle input leaves the state as
it is, and every other input that is accepted makes what is shown larger.  Then a run
over more inputs shows the same as a run over fewer exactly when the inputs that only
one of them has are idle.
-/

namespace BumpinHost

variable {State Input Failure Shown : Type*}

/-- Idle inputs change nothing, and all other accepted inputs show. -/
structure Grows (step : State → Input → Except Failure State) (shown : State → Shown)
    (size : Shown → Nat) (Idle : Input → Prop) : Prop where
  idle : ∀ {input} (state : State), Idle input → step state input = .ok state
  larger : ∀ {input} {state next : State}, step state input = .ok next → ¬ Idle input →
    size (shown state) < size (shown next)

namespace Grows

variable {step : State → Input → Except Failure State} {shown : State → Shown}
  {size : Shown → Nat} {Idle : Input → Prop}

theorem foldlM_idle (grows : Grows step shown size Idle) {inputs : List Input}
    (idle : ∀ input ∈ inputs, Idle input) (state : State) :
    inputs.foldlM step state = .ok state := by
  induction inputs with
  | nil => rfl
  | cons input inputs ih =>
      rw [List.foldlM_cons, grows.idle state (idle input List.mem_cons_self)]
      exact ih fun later listed => idle later (List.mem_cons_of_mem input listed)

theorem size_le (grows : Grows step shown size Idle) {input : Input} {state next : State}
    (stepped : step state input = .ok next) : size (shown state) ≤ size (shown next) := by
  by_cases idle : Idle input
  · rw [grows.idle state idle] at stepped
    cases stepped
    exact le_refl _
  · exact (grows.larger stepped idle).le

/-- A run that succeeds never shows less, and it shows as little as before only when
all its inputs are idle. -/
theorem foldlM_size (grows : Grows step shown size Idle) {inputs : List Input}
    {state final : State} (folded : inputs.foldlM step state = .ok final) :
    size (shown state) ≤ size (shown final) ∧
      (size (shown final) ≤ size (shown state) → ∀ input ∈ inputs, Idle input) := by
  induction inputs generalizing state with
  | nil =>
      cases folded
      exact ⟨le_refl _, fun _ input listed => absurd listed List.not_mem_nil⟩
  | cons input inputs ih =>
      rw [List.foldlM_cons] at folded
      obtain ⟨next, stepped, rest⟩ := Fallible.bind_eq_ok_iff.mp folded
      obtain ⟨later, laterIdle⟩ := ih rest
      have first := grows.size_le stepped
      refine ⟨first.trans later, fun same => List.forall_mem_cons.mpr ⟨?_, ?_⟩⟩
      · by_contra busy
        have := grows.larger stepped busy
        omega
      · exact laterIdle (same.trans first)

/-- A longer run shows the same exactly when what it has in addition is idle. -/
theorem foldlM_append_shown_iff (grows : Grows step shown size Idle)
    {inputs : List Input} (more : List Input) {state final : State}
    (folded : inputs.foldlM step state = .ok final) :
    ((inputs ++ more).foldlM step state).toOption.map shown = some (shown final) ↔
      ∀ input ∈ more, Idle input := by
  rw [List.foldlM_append, folded]
  change (more.foldlM step final).toOption.map shown = _ ↔ _
  constructor
  · intro same
    cases continued : more.foldlM step final with
    | error reason =>
        rw [continued] at same
        cases same
    | ok last =>
        rw [continued] at same
        have shownSame : shown last = shown final := Option.some.inj same
        apply (grows.foldlM_size continued).2
        rw [shownSame]
  · intro idle
    rw [grows.foldlM_idle idle]
    rfl

/-- Of two runs of which one has the first inputs of the other, the one that is known
to succeed shows the same as the other exactly when the inputs they do not share are
idle. -/
theorem foldlM_shown_iff (grows : Grows step shown size Idle) {inputs others : List Input}
    (comparable : inputs <+: others ∨ others <+: inputs) {state final : State}
    (folded : inputs.foldlM step state = .ok final) :
    (others.foldlM step state).toOption.map shown = some (shown final) ↔
      (∀ input ∈ inputs.drop others.length, Idle input) ∧
        ∀ input ∈ others.drop inputs.length, Idle input := by
  have noneLeft : ∀ l more : List Input, l.drop (l ++ more).length = [] := fun l more =>
    List.drop_eq_nil_of_le (by simp)
  rcases comparable with ⟨more, rfl⟩ | ⟨more, rfl⟩
  · rw [grows.foldlM_append_shown_iff more folded, noneLeft, List.drop_left]
    simp
  · -- the shorter run succeeds too, with some state that the rest may change
    rw [List.foldlM_append] at folded
    obtain ⟨middle, shorter, continued⟩ := Fallible.bind_eq_ok_iff.mp folded
    have idleIff : shown middle = shown final ↔ ∀ input ∈ more, Idle input := by
      constructor
      · intro same
        apply (grows.foldlM_size continued).2
        rw [same]
      · intro idle
        rw [grows.foldlM_idle idle] at continued
        cases continued
        rfl
    rw [noneLeft, List.drop_left, shorter]
    simp [Except.toOption, idleIff]

end Grows

end BumpinHost
