import BumpinHost.Library.Mailbox
import BumpinHost.Renderer.Pipeline
import Mathlib.Data.List.DropRight
import Mathlib.Data.List.Flatten

/-!
# Whole frames from the pump to the render thread

The pump adds commands, a swap closes a batch of them, and the render thread takes
what is ready.  The ready list is a mailbox of batches that are not empty.
-/

namespace BumpinHost.Renderer

open BumpinHost.Gpu

variable {Command : Type}

/-- The calls on a frame list: a command, the building list that a swap finds, and the
list that a take returns. -/
inductive HandoverLabel (Command : Type)
  | addDrawCommand (cmd : Command)
  | swapReady (batch : List Command)
  | takeReady (result : List Command)
deriving DecidableEq

inductive HandoverStep (list : FrameDrawList Command) :
    HandoverLabel Command → FrameDrawList Command → Prop
  | addDrawCommand (cmd : Command) :
      HandoverStep list (.addDrawCommand cmd) (list.addDrawCommand cmd)
  | swapReady : HandoverStep list (.swapReady list.building) list.swapReady
  | takeReady : HandoverStep list (.takeReady list.takeReady.1) list.takeReady.2

def handoverSystem (Command : Type) :
    Transition.System (FrameDrawList Command) (HandoverLabel Command) where
  init := (· = .empty)
  step := HandoverStep

/-- A list that is not empty. -/
def filled (batch : List Command) : Option (List Command) :=
  if batch.isEmpty then none else some batch

namespace HandoverLabel

def isSwapReady : HandoverLabel Command → Bool
  | swapReady _ => true
  | _ => false

def added : HandoverLabel Command → Option Command
  | addDrawCommand cmd => some cmd
  | _ => none

def batch : HandoverLabel Command → Option (List Command)
  | swapReady batch => filled batch
  | _ => none

def result : HandoverLabel Command → Option (List Command)
  | takeReady result => filled result
  | _ => none

/-- What a call does to the ready list. -/
def event : HandoverLabel Command → Option (Mailbox.Event (List Command))
  | addDrawCommand _ => none
  | swapReady batch => (filled batch).map .put
  | takeReady result => some (.take (filled result))

end HandoverLabel

/-- The commands added since the last swap, in the order added. -/
def addedSinceSwap (trace : List (HandoverLabel Command)) : List Command :=
  (trace.rtakeWhile fun label => !label.isSwapReady).filterMap HandoverLabel.added

/-- What the render thread is given in a trace of calls. -/
structure HandsOverWholeFrames (trace : List (HandoverLabel Command)) : Prop where
  /-- A batch is what was added between two swaps. -/
  whole : ∀ past batch future, trace = past ++ .swapReady batch :: future →
    batch = addedSinceSwap past
  /-- The results that are not empty are batches, each later than the one before. -/
  later : (trace.filterMap HandoverLabel.result).Sublist
    (trace.filterMap HandoverLabel.batch)
  /-- No added command is returned twice. -/
  once : (trace.filterMap HandoverLabel.result).flatten.Sublist
    (trace.filterMap HandoverLabel.added)
  /-- The next take returns a batch unless another one replaced it. -/
  replaced : ∀ past batch middle result future,
    trace = past ++ .swapReady batch :: (middle ++ .takeReady result :: future) →
    batch ≠ [] → (∀ other, .takeReady other ∉ middle) →
    result = batch ∨
      ∃ between other rest, middle = between ++ .swapReady other :: rest ∧ other ≠ []

theorem filled_of_ne_nil {batch : List Command} (some : batch ≠ []) :
    filled batch = .some batch := by
  unfold filled
  rw [if_neg (by simpa using some)]

theorem ne_nil_of_filled {batch result : List Command} (isFilled : filled batch = some result) :
    batch ≠ [] ∧ result = batch := by
  unfold filled at isFilled
  split at isFilled
  · cases isFilled
  · rename_i notEmpty
    cases isFilled
    exact ⟨by simpa using notEmpty, rfl⟩

/-- Every call is seen by the mailbox as its event. -/
theorem handover_follows {before after : FrameDrawList Command} {label : HandoverLabel Command}
    (step : HandoverStep before label after) :
    (Mailbox.mailbox (List Command)).Follows (fun list => filled list.ready)
      HandoverLabel.event before label after := by
  cases step with
  | addDrawCommand cmd => exact .unseen rfl rfl
  | takeReady => exact .seen (.take (filled before.ready)) rfl .take
  | swapReady =>
      by_cases empty : before.building = []
      · apply Transition.System.Follows.unseen
        · simp [HandoverLabel.event, filled, empty]
        · simp [FrameDrawList.swapReady, empty]
      · have batch := filled_of_ne_nil empty
        apply Transition.System.Follows.seen (.put before.building)
        · simp [HandoverLabel.event, batch]
        · have ready : before.swapReady.ready = before.building := by
            simp [FrameDrawList.swapReady, empty]
          rw [ready, batch]
          exact .put _

theorem mailbox_run {trace : List (HandoverLabel Command)} {list : FrameDrawList Command}
    (history : (handoverSystem Command).History trace list) :
    (Mailbox.mailbox (List Command)).Run none (trace.filterMap HandoverLabel.event)
      (filled list.ready) := by
  obtain ⟨_, rfl, run⟩ := history
  exact run.follows handover_follows

/-- The batches are what is put, and the results what is got. -/
theorem event_items (trace : List (HandoverLabel Command)) :
    (trace.filterMap HandoverLabel.event).filterMap Mailbox.Event.putItem =
        trace.filterMap HandoverLabel.batch ∧
      (trace.filterMap HandoverLabel.event).filterMap Mailbox.Event.gotItem =
        trace.filterMap HandoverLabel.result := by
  rw [List.filterMap_filterMap, List.filterMap_filterMap]
  constructor
  · congr
    ext1 label
    cases label with
    | swapReady batch =>
        cases filling : filled batch <;>
          simp [HandoverLabel.event, HandoverLabel.batch, filling, Mailbox.Event.putItem]
    | _ => rfl
  · congr
    ext1 label
    cases label with
    | swapReady batch =>
        cases filling : filled batch <;>
          simp [HandoverLabel.event, HandoverLabel.result, filling, Mailbox.Event.gotItem]
    | _ => rfl

theorem addedSinceSwap_concat (trace : List (HandoverLabel Command))
    (label : HandoverLabel Command) :
    addedSinceSwap (trace ++ [label]) =
      if label.isSwapReady then [] else addedSinceSwap trace ++ label.added.toList := by
  unfold addedSinceSwap
  rw [List.rtakeWhile_concat]
  cases label <;> simp [HandoverLabel.isSwapReady, HandoverLabel.added]

theorem building_eq {trace : List (HandoverLabel Command)} {list : FrameDrawList Command}
    (history : (handoverSystem Command).History trace list) :
    list.building = addedSinceSwap trace := by
  apply history.invariant fun past state => state.building = addedSinceSwap past
  · rintro _ rfl
    rfl
  · intro past before label after _ building step
    rw [addedSinceSwap_concat, ← building]
    cases step <;> simp [HandoverLabel.isSwapReady, HandoverLabel.added,
      FrameDrawList.addDrawCommand, FrameDrawList.swapReady, FrameDrawList.takeReady]

/-- What is added goes into the batches and the building list. -/
theorem batches_flatten {trace : List (HandoverLabel Command)} {list : FrameDrawList Command}
    (history : (handoverSystem Command).History trace list) :
    (trace.filterMap HandoverLabel.batch).flatten ++ list.building =
      trace.filterMap HandoverLabel.added := by
  apply history.invariant fun past state =>
    (past.filterMap HandoverLabel.batch).flatten ++ state.building =
      past.filterMap HandoverLabel.added
  · rintro _ rfl
    rfl
  · intro past before label after _ conserved step
    rw [List.filterMap_append, List.filterMap_append, List.flatten_append, ← conserved]
    cases step with
    | addDrawCommand cmd =>
        simp [HandoverLabel.batch, HandoverLabel.added, FrameDrawList.addDrawCommand]
    | takeReady =>
        simp [List.filterMap_cons, HandoverLabel.batch, HandoverLabel.added,
          FrameDrawList.takeReady]
    | swapReady =>
        by_cases empty : before.building = [] <;>
          simp [HandoverLabel.batch, HandoverLabel.added, FrameDrawList.swapReady, filled, empty]

/-- A result that is not empty is the last batch that was closed before it. -/
theorem result_latest {past middle future : List (HandoverLabel Command)}
    {batch result : List Command} {list : FrameDrawList Command}
    (history : (handoverSystem Command).History
      (past ++ .swapReady batch :: (middle ++ .takeReady result :: future)) list)
    (some : batch ≠ []) (untaken : ∀ other, .takeReady other ∉ middle) :
    filled result = (middle.filterMap HandoverLabel.batch).getLast?.or (.some batch) := by
  have run := mailbox_run history
  have swapped : HandoverLabel.event (.swapReady batch) = .some (.put batch) := by
    simp [HandoverLabel.event, filled_of_ne_nil some]
  have taken : HandoverLabel.event (.takeReady result) = .some (.take (filled result)) := rfl
  rw [List.filterMap_append, List.filterMap_cons_some swapped, List.filterMap_append,
    List.filterMap_cons_some taken] at run
  have noTake : ∀ other, .take other ∉ middle.filterMap HandoverLabel.event := by
    intro other member
    obtain ⟨label, listed, seen⟩ := List.mem_filterMap.mp member
    cases label with
    | addDrawCommand cmd => cases seen
    | swapReady later =>
        obtain ⟨_, _, different⟩ := Option.map_eq_some_iff.mp seen
        cases different
    | takeReady earlier => exact untaken earlier listed
  rw [Mailbox.take_gets_latest run noTake, (event_items middle).1]

/-- Whatever the order of the three threads' calls, the render thread is given whole
batches, each at most once and in order, and a batch is lost only to a later one. -/
theorem frameDrawList_handsOverWholeFrames {trace : List (HandoverLabel Command)}
    {list : FrameDrawList Command} (history : (handoverSystem Command).History trace list) :
    HandsOverWholeFrames trace := by
  have later : (trace.filterMap HandoverLabel.result).Sublist
      (trace.filterMap HandoverLabel.batch) := by
    have inOrder := Mailbox.got_sublist_put (mailbox_run history)
    rw [(event_items trace).1, (event_items trace).2] at inOrder
    exact (List.sublist_append_left ..).trans inOrder
  constructor
  case later => exact later
  case once =>
      have added := List.sublist_append_left
        (trace.filterMap HandoverLabel.batch).flatten list.building
      rw [batches_flatten history] at added
      exact later.flatten.trans added
  case whole =>
      rintro past batch future rfl
      obtain ⟨before, after, earlier, step⟩ := history.exists_step
      cases step
      exact building_eq earlier
  case replaced =>
      rintro past batch middle result future rfl some untaken
      have latest := result_latest history some untaken
      cases last : (middle.filterMap HandoverLabel.batch).getLast? with
      | none =>
          left
          rw [last] at latest
          exact ((ne_nil_of_filled latest).2).symm
      | some other =>
          right
          obtain ⟨label, listed, closed⟩ :=
            List.mem_filterMap.mp (List.mem_of_getLast? last)
          cases label with
          | swapReady other =>
              obtain ⟨between, rest, split⟩ := List.append_of_mem listed
              exact ⟨between, other, rest, split, (ne_nil_of_filled closed).1⟩
          | _ => cases closed

theorem frameDrawList_handsOverWholeFrames_replaced :
    HandsOverWholeFrames
      [HandoverLabel.addDrawCommand 1, .swapReady [1], .addDrawCommand 2, .addDrawCommand 3,
        .swapReady [2, 3], .swapReady [], .takeReady [2, 3], .takeReady []] := by
  have history : (handoverSystem Nat).History
      [.addDrawCommand 1, .swapReady [1], .addDrawCommand 2, .addDrawCommand 3,
        .swapReady [2, 3], .swapReady [], .takeReady [2, 3], .takeReady []] .empty :=
    ⟨.empty, rfl, .head (.addDrawCommand 1) <| .head .swapReady <|
    .head (.addDrawCommand 2) <| .head (.addDrawCommand 3) <| .head .swapReady <|
      .head .swapReady <| .head .takeReady <| .single .takeReady⟩
  exact frameDrawList_handsOverWholeFrames history

/-- The frame list of the host only changes by these calls. -/
theorem hostSystem_handover {Guest : Type} (env : Env Guest) {s : HostState Guest}
    (reachable : (hostSystem env).Reachable s) :
    ∃ trace, (handoverSystem DrawCommand).History trace s.machine.frameDrawList := by
  apply reachable.invariant fun state =>
    ∃ trace, (handoverSystem DrawCommand).History trace state.machine.frameDrawList
  · rintro start ⟨empty, -⟩
    exact ⟨[], .empty, rfl, by rw [empty]; exact .refl⟩
  · rintro before label after ⟨trace, start, isInit, run⟩ step
    cases step with
    | swapReady => exact ⟨_, start, isInit, run.tail .swapReady⟩
    | takeReady idle => exact ⟨_, start, isInit, run.tail .takeReady⟩
    | elsewhere _ same =>
        refine ⟨trace, start, isInit, ?_⟩
        rw [same]
        exact run
    | drawIndx2 bufferAddr offsetBytes count =>
        rw [drawIndx2_frameDrawList]
        split
        · exact ⟨trace, start, isInit, run⟩
        · exact ⟨_, start, isInit, run.tail (.addDrawCommand _)⟩
    | _ => exact ⟨trace, start, isInit, run⟩

end BumpinHost.Renderer
