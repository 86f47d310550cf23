import BumpinHost.Library.Traced

/-!
# Loops that leave a trace

A loop runs its rounds until one of them gives a result.  What an invariant says of the
events of each round holds of the events of all rounds, however many there are and
whether or not the loop ends.
-/

namespace BumpinHost.Traced

universe u

variable {Event Error : Type*} {Value Result State : Type u} {Item : Type*}

/-- All events are of a kind. -/
def Keeps (kept : Event → Prop) (computation : Traced Event Error Value) : Prop :=
  ∀ event ∈ computation.events, kept event

variable {kept : Event → Prop}

theorem Keeps.lift (result : Except Error Value) :
    Keeps kept (Traced.lift result : Traced Event Error Value) :=
  fun _ listed => absurd listed List.not_mem_nil

theorem Keeps.pure (value : Value) :
    Keeps kept (Pure.pure value : Traced Event Error Value) :=
  Keeps.lift (.ok value)

theorem Keeps.log {event : Event} (keeps : kept event) :
    Keeps kept (Traced.log event : Traced Event Error PUnit.{u + 1}) := by
  intro other listed
  rw [List.mem_singleton.mp listed]
  exact keeps

/-- In a sequence, what follows has to keep to the kind only for a value that the first
part can have. -/
theorem Keeps.bind {first : Traced Event Error Value}
    {next : Value → Traced Event Error Result} (keeps : Keeps kept first)
    (nextKeeps : ∀ value, first.result = .ok value → Keeps kept (next value)) :
    Keeps kept (first >>= next) := by
  unfold Keeps
  cases ended : first.result with
  | error reason =>
      rw [bind_of_error ended]
      exact keeps
  | ok value =>
      rw [bind_of_ok ended]
      exact List.forall_mem_append.mpr ⟨keeps, nextKeeps value ended⟩

theorem Keeps.foldlM {step : State → Item → Traced Event Error State} {items : List Item}
    (stepKeeps : ∀ item ∈ items, ∀ state, Keeps kept (step state item)) (state : State) :
    Keeps kept (items.foldlM step state) := by
  induction items generalizing state with
  | nil => exact Keeps.pure state
  | cons item items ih =>
      rw [List.foldlM_cons]
      refine Keeps.bind (stepKeeps item List.mem_cons_self state) fun next _ => ?_
      exact ih (fun later listed => stepKeeps later (List.mem_cons_of_mem item listed)) next

/-- The result of the round that has one, unless the rounds run out. -/
def loop (round : State → Traced Event Error (State ⊕ Result)) :
    Nat → State → Traced Event Error (Option Result)
  | 0, _ => return none
  | rounds + 1, state => do
      match ← round state with
      | .inl next => loop round rounds next
      | .inr result => return some result

theorem loop_succ (round : State → Traced Event Error (State ⊕ Result)) (rounds : Nat)
    (state : State) :
    loop round (rounds + 1) state = round state >>= fun
      | .inl next => loop round rounds next
      | .inr result => return some result :=
  rfl

/-- The rule for loops.  The induction is on the rounds. -/
theorem Keeps.loop {round : State → Traced Event Error (State ⊕ Result)}
    {inv : State → Prop} (roundKeeps : ∀ state, inv state → Keeps kept (round state))
    (invariant : ∀ state next, inv state → (round state).result = .ok (.inl next) → inv next)
    (rounds : Nat) {state : State} (holds : inv state) :
    Keeps kept (Traced.loop round rounds state) := by
  induction rounds generalizing state with
  | zero => exact Keeps.pure none
  | succ rounds ih =>
      rw [loop_succ]
      refine Keeps.bind (roundKeeps state holds) fun ended same => ?_
      cases ended with
      | inl next => exact ih (invariant state next holds same)
      | inr result => exact Keeps.pure (some result)

end BumpinHost.Traced
