import BumpinHost.Library.Fallible
import Mathlib.Data.List.Infix

/-!
# Computations that leave a trace

A computation that may fail lists what it has done so far, also when it fails.
Forgetting the list gives back the computation without it.
-/

namespace BumpinHost

/-- What was done, and how it ended. -/
structure Traced (Event Error Value : Type*) where
  events : List Event
  result : Except Error Value

namespace Traced

universe u

variable {Event Error : Type*} {Value Result State : Type u} {Item : Type*}

/-- One event. -/
def log (event : Event) : Traced Event Error PUnit.{u + 1} :=
  ⟨[event], .ok ⟨⟩⟩

/-- A computation without events. -/
def lift (result : Except Error Value) : Traced Event Error Value :=
  ⟨[], result⟩

/-- What follows a failure is not done. -/
def andThen (first : Traced Event Error Value)
    (next : Value → Traced Event Error Result) : Traced Event Error Result :=
  match first.result with
  | .error reason => ⟨first.events, .error reason⟩
  | .ok value => ⟨first.events ++ (next value).events, (next value).result⟩

instance : Monad (Traced Event Error) where
  pure value := lift (.ok value)
  bind := andThen

@[simp]
theorem result_log (event : Event) :
    (log event : Traced Event Error PUnit.{u + 1}).result = .ok ⟨⟩ :=
  rfl

@[simp]
theorem result_lift (result : Except Error Value) :
    (lift result : Traced Event Error Value).result = result :=
  rfl

@[simp]
theorem result_pure (value : Value) :
    (pure value : Traced Event Error Value).result = .ok value :=
  rfl

/-- Forgetting the events of a sequence gives the sequence of what remains. -/
@[simp]
theorem result_bind (first : Traced Event Error Value)
    (next : Value → Traced Event Error Result) :
    (first >>= next).result = first.result >>= fun value => (next value).result := by
  change (andThen first next).result = _
  unfold andThen
  cases first.result with
  | error reason => rfl
  | ok value => rfl

theorem pure_eq (value : Value) : (pure value : Traced Event Error Value) = ⟨[], .ok value⟩ :=
  rfl

/-- What follows a computation whose events and value are known. -/
theorem mk_bind (events : List Event) (value : Value)
    (next : Value → Traced Event Error Result) :
    ((⟨events, .ok value⟩ : Traced Event Error Value) >>= next) =
      ⟨events ++ (next value).events, (next value).result⟩ :=
  rfl

theorem bind_of_ok {first : Traced Event Error Value} {value : Value}
    (succeeds : first.result = .ok value) (next : Value → Traced Event Error Result) :
    (first >>= next).events = first.events ++ (next value).events := by
  change (andThen first next).events = _
  unfold andThen
  rw [succeeds]

theorem bind_of_error {first : Traced Event Error Value} {reason : Error}
    (fails : first.result = .error reason) (next : Value → Traced Event Error Result) :
    (first >>= next).events = first.events := by
  change (andThen first next).events = _
  unfold andThen
  rw [fails]

/-- A fold without its events is the fold of the steps without theirs. -/
theorem result_foldlM (step : State → Item → Traced Event Error State) (items : List Item)
    (state : State) :
    (items.foldlM step state).result =
      items.foldlM (fun state item => (step state item).result) state := by
  induction items generalizing state with
  | nil => rfl
  | cons item items ih =>
      rw [List.foldlM_cons, List.foldlM_cons, result_bind]
      exact congrArg _ (funext ih)

/-- A fold that succeeds has done what its steps do. -/
theorem events_foldlM {step : State → Item → Traced Event Error State}
    {does : Item → List Event}
    (stepDoes : ∀ {state item next}, (step state item).result = .ok next →
      (step state item).events = does item)
    {items : List Item} {state final : State}
    (succeeds : (items.foldlM step state).result = .ok final) :
    (items.foldlM step state).events = items.flatMap does := by
  induction items generalizing state with
  | nil => rfl
  | cons item items ih =>
      rw [List.foldlM_cons, result_bind] at succeeds
      obtain ⟨middle, stepped, rest⟩ := Fallible.bind_eq_ok_iff.mp succeeds
      rw [List.foldlM_cons, bind_of_ok stepped, stepDoes stepped, ih rest, List.flatMap_cons]

/-- Events of a kind that no step has are not in a fold either. -/
theorem forall_foldlM {step : State → Item → Traced Event Error State} {kept : Event → Prop}
    (stepKeeps : ∀ state item, ∀ event ∈ (step state item).events, kept event)
    (items : List Item) (state : State) :
    ∀ event ∈ (items.foldlM step state).events, kept event := by
  induction items generalizing state with
  | nil =>
      intro event listed
      cases listed
  | cons item items ih =>
      rw [List.foldlM_cons]
      cases stepped : (step state item).result with
      | error reason =>
          rw [bind_of_error stepped]
          exact stepKeeps state item
      | ok next =>
          rw [bind_of_ok stepped]
          exact List.forall_mem_append.mpr ⟨stepKeeps state item, ih next⟩

end Traced

end BumpinHost
