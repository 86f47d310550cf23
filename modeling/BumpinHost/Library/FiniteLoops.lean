import Mathlib.Computability.StateTransition
import Mathlib.Data.Finset.Card

/-!
# Loops over finitely many states

A loop goes on from one state to the next until there is none.  When it can go on from
finitely many states only, it ends exactly when it never comes back to a state, and then
it takes no more rounds than there are such states.
-/

namespace BumpinHost

open StateTransition Relation

variable {State : Type*} {next : State → Option State}

/-- The loop ends in fewer than `rounds` steps. -/
def EndsWithin (next : State → Option State) : Nat → State → Prop
  | 0, _ => False
  | rounds + 1, state => ∀ later ∈ next state, EndsWithin next rounds later

/-- No state that the loop comes to is one that it comes to again. -/
def Acyclic (next : State → Option State) (start : State) : Prop :=
  ∀ state, Reaches next start state → ¬ Reaches₁ next state state

namespace EndsWithin

theorem mono {rounds : Nat} {state : State} (ends : EndsWithin next rounds state)
    {more : Nat} (enough : rounds ≤ more) : EndsWithin next more state := by
  induction rounds generalizing state more with
  | zero => exact absurd ends id
  | succ rounds ih =>
      cases more with
      | zero => exact absurd enough (Nat.not_succ_le_zero rounds)
      | succ more => exact fun later goesOn => ih (ends later goesOn) (Nat.le_of_succ_le_succ enough)

/-- A loop that ends does so from every state that it comes to. -/
theorem of_reaches {rounds : Nat} {start state : State}
    (ends : EndsWithin next rounds start) (reaches : Reaches next start state) :
    EndsWithin next rounds state := by
  induction reaches with
  | refl => exact ends
  | tail _ step ih =>
      cases rounds with
      | zero => exact absurd ih id
      | succ rounds => exact (ih _ step).mono (Nat.le_succ rounds)

/-- A state that the loop comes back to is one from which it does not end.  The
induction is on the rounds; the state after it on the cycle comes back to itself,
too. -/
theorem not_of_cycle {rounds : Nat} {state : State} (cycle : Reaches₁ next state state) :
    ¬ EndsWithin next rounds state := by
  induction rounds generalizing state with
  | zero => exact id
  | succ rounds ih =>
      intro ends
      obtain ⟨later, step, back⟩ := TransGen.head'_iff.mp cycle
      exact ih (TransGen.tail' back step) (ends later step)

theorem acyclic {rounds : Nat} {start : State} (ends : EndsWithin next rounds start) :
    Acyclic next start :=
  fun _ reaches cycle => not_of_cycle cycle (ends.of_reaches reaches)

end EndsWithin

theorem Acyclic.of_step {start later : State} (acyclic : Acyclic next start)
    (step : later ∈ next start) : Acyclic next later :=
  fun state reaches => acyclic state (reaches.head step)

/-- A loop without a cycle leaves one of its finitely many states behind in each round.
The induction is on their number. -/
theorem Acyclic.endsWithin {start : State} (acyclic : Acyclic next start)
    {live : Finset State}
    (goesOn : ∀ state, Reaches next start state → (next state).isSome → state ∈ live) :
    EndsWithin next (live.card + 1) start := by
  classical
  induction count : live.card generalizing start live with
  | zero =>
      intro later step
      have alive := goesOn start .refl (Option.isSome_of_mem step)
      rw [Finset.card_eq_zero.mp count] at alive
      exact absurd alive (Finset.notMem_empty start)
  | succ count' ih =>
      intro later step
      have alive := goesOn start .refl (Option.isSome_of_mem step)
      have fewer : (live.erase start).card = count' := by
        rw [Finset.card_erase_of_mem alive, count]
        rfl
      refine ih (acyclic.of_step step) ?_ fewer
      intro state reaches continues
      refine Finset.mem_erase.mpr ⟨?_, goesOn state (reaches.head step) continues⟩
      rintro rfl
      exact acyclic state .refl (TransGen.head' step reaches)

/-- With finitely many states to go on from, a loop ends exactly when it has no cycle. -/
theorem ends_iff_acyclic {start : State} {live : Finset State}
    (goesOn : ∀ state, Reaches next start state → (next state).isSome → state ∈ live) :
    (∃ rounds, EndsWithin next rounds start) ↔ Acyclic next start :=
  ⟨fun ⟨_, ends⟩ => ends.acyclic, fun acyclic => ⟨_, acyclic.endsWithin goesOn⟩⟩

/-- A loop that ends at all ends before it has taken more rounds than there are states
to go on from. -/
theorem endsWithin_of_ends {start : State} {live : Finset State}
    (goesOn : ∀ state, Reaches next start state → (next state).isSome → state ∈ live)
    {rounds : Nat} (enough : live.card < rounds) (ends : ∃ rounds, EndsWithin next rounds start) :
    EndsWithin next rounds start :=
  (((ends_iff_acyclic goesOn).mp ends).endsWithin goesOn).mono enough

variable {Result : Type*} {result : State → Result}

/-- The result at the state in which the loop ends, unless the rounds run out. -/
def runLoop (next : State → Option State) (result : State → Result) :
    Nat → State → Option Result
  | 0, _ => none
  | rounds + 1, state =>
      match next state with
      | none => some (result state)
      | some later => runLoop next result rounds later

theorem isSome_runLoop_iff (rounds : Nat) (state : State) :
    (runLoop next result rounds state).isSome ↔ EndsWithin next rounds state := by
  induction rounds generalizing state with
  | zero => exact iff_of_false Bool.false_ne_true id
  | succ rounds ih =>
      unfold runLoop EndsWithin
      cases step : next state with
      | none => simp
      | some later => simp [ih]

/-- The result is that of the one state that the loop comes to and ends in. -/
theorem exists_of_runLoop {rounds : Nat} {state : State} {value : Result}
    (ran : runLoop next result rounds state = some value) :
    ∃ final, Reaches next state final ∧ next final = none ∧ result final = value := by
  induction rounds generalizing state with
  | zero => cases ran
  | succ rounds ih =>
      unfold runLoop at ran
      cases step : next state with
      | none =>
          rw [step] at ran
          exact ⟨state, .refl, step, Option.some.inj ran⟩
      | some later =>
          rw [step] at ran
          obtain ⟨final, reaches, ended, same⟩ := ih ran
          exact ⟨final, reaches.head step, ended, same⟩

/-- A loop ends in one state. -/
theorem final_unique {start final other : State} (reaches : Reaches next start final)
    (ended : next final = none) (reachesOther : Reaches next start other)
    (endedOther : next other = none) : final = other := by
  have first := mem_eval.mpr ⟨reaches, ended⟩
  have second := mem_eval.mpr ⟨reachesOther, endedOther⟩
  exact Part.mem_unique first second

/-- More rounds do not change the result. -/
theorem runLoop_unique {rounds more : Nat} {start : State} {value value' : Result}
    (ran : runLoop next result rounds start = some value)
    (ranMore : runLoop next result more start = some value') : value = value' := by
  obtain ⟨final, reaches, ended, rfl⟩ := exists_of_runLoop ran
  obtain ⟨other, reachesOther, endedOther, rfl⟩ := exists_of_runLoop ranMore
  rw [final_unique reaches ended reachesOther endedOther]

end BumpinHost
