import Mathlib.Data.List.Infix
import Mathlib.Logic.Relation

/-!
# Labelled transition systems and their runs

A system has initial states and labelled steps.  A run records the labels of
its steps in order, so that a property of histories ("between any two of these
there is one of those") is a property of the label list.  The induction over a
run is stated once, for invariants that relate the history so far to the state
it reached; restricting the steps of a system by a side condition again gives
a system.
-/

namespace BumpinHost.Transition

/-- A labelled transition system. -/
structure System (State Label : Type*) where
  init : State → Prop
  step : State → Label → State → Prop

namespace System

variable {State Label : Type*}

/-- `system.Run start trace final`: the labels in `trace`, taken in order,
lead from `start` to `final`. -/
inductive Run (system : System State Label) (start : State) :
    List Label → State → Prop
  | refl : Run system start [] start
  | tail {trace : List Label} {middle final : State} {label : Label} :
      Run system start trace middle → system.step middle label final →
        Run system start (trace ++ [label]) final

/-- A history of the system: a run from some initial state. -/
def History (system : System State Label) (trace : List Label)
    (final : State) : Prop :=
  ∃ start, system.init start ∧ system.Run start trace final

/-- A state that some run from an initial state reaches. -/
def Reachable (system : System State Label) (state : State) : Prop :=
  ∃ trace, system.History trace state

/-- The system whose steps are those that meet a condition on the state before
the step and on its label. -/
def restrict (system : System State Label)
    (allowed : State → Label → Prop) : System State Label where
  init := system.init
  step before label after := system.step before label after ∧ allowed before label

variable {system : System State Label}

/-- What holds of the empty history and is preserved by one step holds of
every run. -/
theorem Run.invariant {start final : State} {trace : List Label}
    (invariant : List Label → State → Prop)
    (run : system.Run start trace final)
    (initially : invariant [] start)
    (preserved : ∀ {past before label after}, system.Run start past before →
      invariant past before → system.step before label after →
        invariant (past ++ [label]) after) :
    invariant trace final := by
  induction run with
  | refl => exact initially
  | tail previous step ih => exact preserved previous ih step

/-- The invariant rule for histories. -/
theorem History.invariant {trace : List Label} {final : State}
    (invariant : List Label → State → Prop)
    (history : system.History trace final)
    (initially : ∀ {start}, system.init start → invariant [] start)
    (preserved : ∀ {past before label after}, system.History past before →
      invariant past before → system.step before label after →
        invariant (past ++ [label]) after) :
    invariant trace final := by
  obtain ⟨start, isInit, run⟩ := history
  refine run.invariant invariant (initially isInit) ?_
  intro past before label after previous holds step
  exact preserved ⟨start, isInit, previous⟩ holds step

/-- The invariant rule for properties of the state alone. -/
theorem Reachable.invariant {state : State} (invariant : State → Prop)
    (reachable : system.Reachable state)
    (initially : ∀ {start}, system.init start → invariant start)
    (preserved : ∀ {before label after}, invariant before →
      system.step before label after → invariant after) :
    invariant state := by
  obtain ⟨trace, history⟩ := reachable
  exact history.invariant (fun _ => invariant) initially
    (fun _ holds step => preserved holds step)

theorem Run.trans {start middle final : State} {first second : List Label}
    (left : system.Run start first middle)
    (right : system.Run middle second final) :
    system.Run start (first ++ second) final := by
  induction right with
  | refl => simpa using left
  | tail _ step ih =>
      rw [← List.append_assoc]
      exact ih.tail step

theorem Run.single {before after : State} {label : Label}
    (step : system.step before label after) :
    system.Run before [label] after :=
  Run.refl.tail step

/-- Extend a run at its front. -/
theorem Run.head {start middle final : State} {label : Label}
    {trace : List Label} (step : system.step start label middle)
    (rest : system.Run middle trace final) :
    system.Run start (label :: trace) final :=
  (Run.single step).trans rest

/-- A run can be cut at any point of its trace. -/
theorem Run.split {start final : State} {first second : List Label}
    (run : system.Run start (first ++ second) final) :
    ∃ middle, system.Run start first middle ∧
      system.Run middle second final := by
  generalize whole : first ++ second = trace at run
  induction run generalizing second with
  | refl =>
      obtain ⟨rfl, rfl⟩ := List.append_eq_nil_iff.mp whole
      exact ⟨start, .refl, .refl⟩
  | @tail past before after label previous step ih =>
      rcases List.eq_nil_or_concat second with rfl | ⟨rest, last, rfl⟩
      · rw [List.append_nil] at whole
        subst whole
        exact ⟨after, previous.tail step, .refl⟩
      · rw [List.concat_eq_append, ← List.append_assoc] at whole
        obtain ⟨restEq, lastEq⟩ := List.append_inj' whole rfl
        obtain ⟨middle, left, right⟩ := ih restEq
        obtain rfl : last = label := by simpa using lastEq
        exact ⟨middle, left, by
          rw [List.concat_eq_append]
          exact right.tail step⟩

theorem Run.eq_of_nil {start final : State} (run : system.Run start [] final) :
    final = start := by
  generalize none : ([] : List Label) = trace at run
  cases run with
  | refl => rfl
  | tail => exact absurd none.symm (List.append_ne_nil_of_right_ne_nil _ (by simp))

/-- The first step of a run. -/
theorem Run.of_cons {start final : State} {label : Label} {trace : List Label}
    (run : system.Run start (label :: trace) final) :
    ∃ middle, system.step start label middle ∧ system.Run middle trace final := by
  obtain ⟨middle, first, rest⟩ := Run.split (show system.Run start ([label] ++ trace) final
    from run)
  refine ⟨middle, ?_, rest⟩
  generalize single : [label] = labels at first
  cases first with
  | refl => cases single
  | @tail past before _ last previous step =>
      obtain ⟨pastEq, lastEq⟩ := List.append_inj' (show [] ++ [label] = past ++ [last]
        from single) rfl
      subst pastEq
      obtain rfl := previous.eq_of_nil
      obtain rfl : label = last := by simpa using lastEq
      exact step

/-- A run of a restricted system is a run of the system itself. -/
theorem Run.of_restrict {allowed : State → Label → Prop} {start final : State}
    {trace : List Label} (run : (system.restrict allowed).Run start trace final) :
    system.Run start trace final := by
  induction run with
  | refl => exact .refl
  | tail _ step ih => exact ih.tail step.1

theorem History.of_restrict {allowed : State → Label → Prop} {final : State}
    {trace : List Label} (history : (system.restrict allowed).History trace final) :
    system.History trace final := by
  obtain ⟨start, isInit, run⟩ := history
  exact ⟨start, isInit, run.of_restrict⟩

/-- A step of the system is seen as a step of another one, or not seen at all. -/
def Follows {View Event : Type*} (abstract : System View Event) (view : State → View)
    (event : Label → Option Event) (before : State) (label : Label) (after : State) : Prop :=
  match event label with
  | some seen => abstract.step (view before) seen (view after)
  | none => view after = view before

section Follows

variable {View Event : Type*} {abstract : System View Event} {view : State → View}
  {event : Label → Option Event} {before after : State} {label : Label}

theorem Follows.seen (seen : Event) (observed : event label = some seen)
    (step : abstract.step (view before) seen (view after)) :
    abstract.Follows view event before label after := by
  rw [Follows, observed]
  exact step

theorem Follows.unseen (observed : event label = none) (same : view after = view before) :
    abstract.Follows view event before label after := by
  rw [Follows, observed]
  exact same

end Follows

/-- If every step from an invariant keeps it and is followed, so is a whole run. -/
theorem Run.refines {View Event : Type*} {abstract : System View Event} {view : State → View}
    {event : Label → Option Event} {invariant : State → Prop} {start final : State}
    {trace : List Label} (run : system.Run start trace final) (initially : invariant start)
    (follows : ∀ {before label after}, invariant before → system.step before label after →
      invariant after ∧ abstract.Follows view event before label after) :
    invariant final ∧ abstract.Run (view start) (trace.filterMap event) (view final) := by
  induction run with
  | refl => exact ⟨initially, .refl⟩
  | @tail past before after label _ step ih =>
      obtain ⟨holds, seen⟩ := ih
      obtain ⟨kept, followed⟩ := follows holds step
      refine ⟨kept, ?_⟩
      unfold Follows at followed
      rw [List.filterMap_append]
      cases observed : event label with
      | none =>
          rw [observed] at followed
          rw [List.filterMap_cons_none observed, List.filterMap_nil, List.append_nil, followed]
          exact seen
      | some eventSeen =>
          rw [observed] at followed
          rw [List.filterMap_cons_some observed, List.filterMap_nil]
          exact seen.tail followed

/-- A run all of whose steps are followed. -/
theorem Run.follows {View Event : Type*} {abstract : System View Event} {view : State → View}
    {event : Label → Option Event} {start final : State} {trace : List Label}
    (run : system.Run start trace final)
    (follows : ∀ {before label after}, system.step before label after →
      abstract.Follows view event before label after) :
    abstract.Run (view start) (trace.filterMap event) (view final) := by
  have both : True ∧ abstract.Run (view start) (trace.filterMap event) (view final) :=
    run.refines trivial fun _ step => ⟨trivial, follows step⟩
  exact both.2

/-- The step of a history at some point of its trace. -/
theorem History.exists_step {final : State} {past future : List Label} {label : Label}
    (history : system.History (past ++ label :: future) final) :
    ∃ before after, system.History past before ∧ system.step before label after := by
  obtain ⟨start, isInit, run⟩ := history
  obtain ⟨before, earlier, later⟩ := run.split
  obtain ⟨after, step, -⟩ := later.of_cons
  exact ⟨before, after, ⟨start, isInit, earlier⟩, step⟩

end System

end BumpinHost.Transition
