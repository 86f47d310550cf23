import BumpinHost.Library.Ranking
import Mathlib.Data.List.TakeWhile

/-!
# Shutting down with a window

The guest runs on a thread of its own, a watchdog waits for it, and the main thread runs the
event loop of the application.  The loop is AppKit's: it may call back, serve the main queue and
return at any time.  Closing the window, a draw callback after a request and the watchdog's block
on the main queue stop it.  The draw callback may stop coming at any time, as it does for a hidden
window.
-/

namespace BumpinHost.Renderer

inductive FutureStatus
  | ready
  | timeout
deriving DecidableEq, Repr

/-- What the watchdog stores. -/
def FutureStatus.result : FutureStatus → Int
  | .timeout => 2
  | .ready => 0

/-- Where the watchdog is: in `wait_for`, or before its next store or call. -/
inductive WatchdogThread
  | waitFor
  | storeResult (status : FutureStatus)
  | storeShutdownRequested
  | dispatchStop
  | finished
deriving DecidableEq, Repr

inductive MainThread
  | runEventLoop
  | wasClosedByUser
  | joinWatchdog
  | exited (code : Int)
deriving DecidableEq, Repr

structure WindowedApp where
  guestReturned : Bool
  watchdog : WatchdogThread
  watchdogResult : Int
  main : MainThread
  g_shutdownRequested : Bool
  g_closedByUser : Bool
  g_drawnFrameCount : Nat
  /-- Calls of `StopApplication`: `[NSApp stop:nil]`, and an event posted after it. -/
  stops : Nat
  /-- Calls of `dispatch_async` with the block that stops the application. -/
  dispatched : Nat
deriving DecidableEq, Repr

namespace WindowedApp

def initial : WindowedApp where
  guestReturned := false
  watchdog := .waitFor
  watchdogResult := -1
  main := .runEventLoop
  g_shutdownRequested := false
  g_closedByUser := false
  g_drawnFrameCount := 0
  stops := 0
  dispatched := 0

def stopApplication (app : WindowedApp) : WindowedApp :=
  { app with stops := app.stops + 1 }

/-- The draw callback; without a drawable it draws nothing. -/
def drawInMTKView (app : WindowedApp) (drawable : Bool) : WindowedApp :=
  if app.g_shutdownRequested then app.stopApplication
  else if drawable then { app with g_drawnFrameCount := app.g_drawnFrameCount + 1 }
  else app

def windowWillClose (app : WindowedApp) : WindowedApp :=
  { app with g_closedByUser := true, g_shutdownRequested := true }.stopApplication

end WindowedApp

inductive ShutdownLabel
  | guestReturns
  | windowWillClose
  | drawInMTKView (drawable : Bool)
  | waitFor (status : FutureStatus)
  | storeResult
  | storeShutdownRequested
  | dispatchStop
  /-- The loop runs the block from the main queue. -/
  | stopBlock
  /-- `[NSApp run]` returns. -/
  | runReturns
  | wasClosedByUser
  | joinWatchdog
deriving DecidableEq, Repr

/-- The event loop runs callbacks one at a time, and nothing runs in a process that exited. -/
inductive ShutdownStep : WindowedApp → ShutdownLabel → WindowedApp → Prop
  | guestReturns {app : WindowedApp} (runs : ∀ code, app.main ≠ .exited code) :
      ShutdownStep app .guestReturns { app with guestReturned := true }
  | windowWillClose {app : WindowedApp} (loops : app.main = .runEventLoop) :
      ShutdownStep app .windowWillClose app.windowWillClose
  | drawInMTKView {app : WindowedApp} (loops : app.main = .runEventLoop) (drawable : Bool) :
      ShutdownStep app (.drawInMTKView drawable) (app.drawInMTKView drawable)
  | waitReady {app : WindowedApp} (runs : ∀ code, app.main ≠ .exited code)
      (waits : app.watchdog = .waitFor) (returned : app.guestReturned = true) :
      ShutdownStep app (.waitFor .ready) { app with watchdog := .storeResult .ready }
  | waitTimeout {app : WindowedApp} (runs : ∀ code, app.main ≠ .exited code)
      (waits : app.watchdog = .waitFor) (returned : app.guestReturned = false) :
      ShutdownStep app (.waitFor .timeout) { app with watchdog := .storeResult .timeout }
  | storeResult {app : WindowedApp} {status : FutureStatus}
      (runs : ∀ code, app.main ≠ .exited code) (at_store : app.watchdog = .storeResult status) :
      ShutdownStep app .storeResult
        { app with watchdog := .storeShutdownRequested, watchdogResult := status.result }
  | storeShutdownRequested {app : WindowedApp} (runs : ∀ code, app.main ≠ .exited code)
      (at_store : app.watchdog = .storeShutdownRequested) :
      ShutdownStep app .storeShutdownRequested
        { app with watchdog := .dispatchStop, g_shutdownRequested := true }
  | dispatchStop {app : WindowedApp} (runs : ∀ code, app.main ≠ .exited code)
      (at_call : app.watchdog = .dispatchStop) :
      ShutdownStep app .dispatchStop
        { app with watchdog := .finished, dispatched := app.dispatched + 1 }
  | stopBlock {app : WindowedApp} (loops : app.main = .runEventLoop) :
      ShutdownStep app .stopBlock app.stopApplication
  | runReturns {app : WindowedApp} (loops : app.main = .runEventLoop) :
      ShutdownStep app .runReturns { app with main := .wasClosedByUser }
  | wasClosedByUser {app : WindowedApp} (at_check : app.main = .wasClosedByUser) :
      ShutdownStep app .wasClosedByUser
        { app with main := if app.g_closedByUser then .exited 3 else .joinWatchdog }
  | joinWatchdog {app : WindowedApp} (joins : app.main = .joinWatchdog)
      (ended : app.watchdog = .finished) :
      ShutdownStep app .joinWatchdog
        { app with main := .exited (if app.watchdogResult = 2 then 2 else 0) }

def shutdownSystem : Transition.System WindowedApp ShutdownLabel where
  init := (· = .initial)
  step := ShutdownStep

/-- What the watchdog's wait returned, as far as it has. -/
def WindowedApp.verdict (app : WindowedApp) : Option FutureStatus :=
  match app.watchdog with
  | .waitFor => none
  | .storeResult status => some status
  | _ => some (if app.watchdogResult = 2 then .timeout else .ready)

/-- The labels that ask for the shutdown. -/
def ShutdownLabel.requests : ShutdownLabel → Bool
  | .windowWillClose | .storeShutdownRequested => true
  | _ => false

/-- The draw callbacks with a drawable that came before every request. -/
def framesBeforeRequest (trace : List ShutdownLabel) : Nat :=
  (trace.takeWhile fun label => !label.requests).count (.drawInMTKView true)

/-- What an exit code says of the state. -/
def ExitsBy (app : WindowedApp) (code : Int) : Prop :=
  app.g_closedByUser = true ∧ code = 3 ∨
    app.g_closedByUser = false ∧ app.verdict = some .timeout ∧ code = 2 ∨
    app.g_closedByUser = false ∧ app.verdict = some .ready ∧ code = 0

/-- What the state of the application tells of its past. -/
structure TellsPast (past : List ShutdownLabel) (app : WindowedApp) : Prop where
  closed : app.g_closedByUser = true ↔ .windowWillClose ∈ past
  requested : app.g_shutdownRequested = past.any ShutdownLabel.requests
  verdict : ∀ status, app.verdict = some status ↔ .waitFor status ∈ past
  returned : app.verdict = some .ready → app.guestReturned = true
  joins : app.main = .joinWatchdog → app.g_closedByUser = false
  exited : ∀ code, app.main = .exited code → ExitsBy app code
  drawn : app.g_drawnFrameCount = framesBeforeRequest past

theorem TellsPast.initial : TellsPast [] .initial where
  closed := by simp [WindowedApp.initial]
  requested := rfl
  verdict := by simp [WindowedApp.initial, WindowedApp.verdict]
  returned := by simp [WindowedApp.initial, WindowedApp.verdict]
  joins := fun joins => by cases joins
  exited := fun code exits => by cases exits
  drawn := rfl

/-- One more label counts when it draws and nothing has asked for the shutdown. -/
theorem framesBeforeRequest_append (past : List ShutdownLabel) (label : ShutdownLabel) :
    framesBeforeRequest (past ++ [label]) = framesBeforeRequest past +
      if past.any ShutdownLabel.requests = false ∧ label = .drawInMTKView true then 1 else 0 := by
  unfold framesBeforeRequest
  by_cases asked : past.any ShutdownLabel.requests = false
  · have earlier : ∀ label ∈ past, (!label.requests) = true := by
      simpa [List.any_eq_false] using asked
    rw [List.takeWhile_append_of_pos earlier, List.takeWhile_eq_self_iff.mpr earlier,
      List.count_append]
    congr 1
    cases label with
    | drawInMTKView drawable => cases drawable <;> simp [asked, ShutdownLabel.requests]
    | _ => simp [ShutdownLabel.requests]
  · have shorter : (past.takeWhile fun label => !label.requests).length ≠ past.length := by
      intro whole
      have all := (List.takeWhile_prefix _).eq_of_length whole
      rw [List.takeWhile_eq_self_iff] at all
      exact asked (by simpa [List.any_eq_false] using all)
    rw [List.takeWhile_append, if_neg shorter, if_neg fun both => asked both.1, Nat.add_zero]

/-- A step that neither waits nor asks for the shutdown. -/
theorem TellsPast.quiet {past : List ShutdownLabel} {before after : WindowedApp}
    {label : ShutdownLabel} (tells : TellsPast past before)
    (noWait : ∀ status, label ≠ .waitFor status) (noRequest : label.requests = false)
    (sameFlags : after.g_closedByUser = before.g_closedByUser ∧
      after.g_shutdownRequested = before.g_shutdownRequested)
    (sameVerdict : after.verdict = before.verdict)
    (guest : before.guestReturned = true → after.guestReturned = true)
    (joins : after.main = .joinWatchdog → before.g_closedByUser = false)
    (exited : ∀ code, after.main = .exited code → ExitsBy before code)
    (drawn : after.g_drawnFrameCount = before.g_drawnFrameCount +
      if before.g_shutdownRequested = false ∧ label = .drawInMTKView true then 1 else 0) :
    TellsPast (past ++ [label]) after where
  closed := by
    have other : label ≠ .windowWillClose := by
      rintro rfl
      cases noRequest
    rw [sameFlags.1, tells.closed, List.mem_append, List.mem_singleton]
    exact ⟨.inl, fun either => either.resolve_right fun same => other same.symm⟩
  requested := by
    rw [sameFlags.2, tells.requested, List.any_append]
    simp [noRequest]
  verdict := by
    intro status
    rw [sameVerdict, tells.verdict, List.mem_append, List.mem_singleton]
    exact ⟨.inl, fun either => either.resolve_right fun same => noWait status same.symm⟩
  returned := fun ready => guest (tells.returned (sameVerdict ▸ ready))
  joins := fun isJoin => sameFlags.1.trans (joins isJoin)
  exited := by
    intro code isExit
    rw [ExitsBy, sameFlags.1, sameVerdict]
    exact exited code isExit
  drawn := by
    rw [framesBeforeRequest_append, drawn, tells.drawn, tells.requested]

theorem TellsPast.drawInMTKView {past : List ShutdownLabel} {before : WindowedApp}
    (tells : TellsPast past before) (drawable : Bool) :
    TellsPast (past ++ [.drawInMTKView drawable]) (before.drawInMTKView drawable) := by
  unfold WindowedApp.drawInMTKView
  by_cases requested : before.g_shutdownRequested = true
  · rw [if_pos requested]
    exact tells.quiet nofun rfl ⟨rfl, rfl⟩ rfl id tells.joins tells.exited
      (by simp [WindowedApp.stopApplication, requested])
  · rw [if_neg requested]
    cases drawable with
    | true =>
        exact tells.quiet nofun rfl ⟨rfl, rfl⟩ rfl id tells.joins tells.exited (by simp [requested])
    | false => exact tells.quiet nofun rfl ⟨rfl, rfl⟩ rfl id tells.joins tells.exited (by simp)

/-- What a past tells when it ends with a request. -/
theorem requested_of_request (past : List ShutdownLabel) {label : ShutdownLabel}
    (request : label.requests = true) :
    true = (past ++ [label]).any ShutdownLabel.requests := by
  simp [request]

theorem framesBeforeRequest_request (past : List ShutdownLabel) {label : ShutdownLabel}
    (request : label.requests = true) :
    framesBeforeRequest (past ++ [label]) = framesBeforeRequest past := by
  have noDraw : label ≠ .drawInMTKView true := by
    rintro rfl
    cases request
  rw [framesBeforeRequest_append, if_neg fun both => noDraw both.2, Nat.add_zero]

/-- The first wait of the watchdog is its last. -/
theorem TellsPast.waitFor {past : List ShutdownLabel} {before : WindowedApp}
    {status : FutureStatus} (tells : TellsPast past before) (waits : before.watchdog = .waitFor)
    (runs : ∀ code, before.main ≠ .exited code)
    (returned : status = .ready → before.guestReturned = true) :
    TellsPast (past ++ [.waitFor status]) { before with watchdog := .storeResult status } where
  closed := by simpa using tells.closed
  requested := by simpa [ShutdownLabel.requests] using tells.requested
  verdict := by
    intro other
    have none : before.verdict = none := by rw [WindowedApp.verdict, waits]
    have fresh := tells.verdict other
    rw [none] at fresh
    have absent : ShutdownLabel.waitFor other ∉ past := fun listed => nomatch fresh.mpr listed
    rw [List.mem_append, List.mem_singleton, or_iff_right absent, ShutdownLabel.waitFor.injEq,
      WindowedApp.verdict, Option.some.injEq]
    exact eq_comm
  returned := fun ready => returned (Option.some.inj ready)
  joins := tells.joins
  exited := fun code isExit => absurd isExit (runs code)
  drawn := by
    rw [framesBeforeRequest_append, if_neg (by simp), Nat.add_zero]
    exact tells.drawn

theorem TellsPast.windowWillClose {past : List ShutdownLabel} {before : WindowedApp}
    (tells : TellsPast past before) (loops : before.main = .runEventLoop) :
    TellsPast (past ++ [.windowWillClose]) before.windowWillClose where
  closed := by simp [WindowedApp.windowWillClose, WindowedApp.stopApplication]
  requested := requested_of_request past rfl
  verdict := by
    intro status
    have same : before.windowWillClose.verdict = before.verdict := rfl
    rw [same]
    simpa using tells.verdict status
  returned := tells.returned
  joins := fun isJoin => nomatch loops.symm.trans isJoin
  exited := fun code isExit => nomatch loops.symm.trans isExit
  drawn := by
    rw [framesBeforeRequest_request past rfl]
    exact tells.drawn

theorem TellsPast.storeShutdownRequested {past : List ShutdownLabel} {before : WindowedApp}
    (tells : TellsPast past before) (runs : ∀ code, before.main ≠ .exited code)
    (at_store : before.watchdog = .storeShutdownRequested) :
    TellsPast (past ++ [.storeShutdownRequested])
      { before with watchdog := .dispatchStop, g_shutdownRequested := true } where
  closed := by simpa using tells.closed
  requested := requested_of_request past rfl
  verdict := by
    intro status
    have same := tells.verdict status
    rw [WindowedApp.verdict, at_store] at same
    simpa [WindowedApp.verdict] using same
  returned := by
    have same := tells.returned
    rw [WindowedApp.verdict, at_store] at same
    exact same
  joins := tells.joins
  exited := fun code isExit => absurd isExit (runs code)
  drawn := by
    rw [framesBeforeRequest_request past rfl]
    exact tells.drawn

theorem TellsPast.step {past : List ShutdownLabel} {before after : WindowedApp}
    {label : ShutdownLabel} (tells : TellsPast past before)
    (step : ShutdownStep before label after) : TellsPast (past ++ [label]) after := by
  cases step with
  | guestReturns runs =>
      exact tells.quiet nofun rfl ⟨rfl, rfl⟩ rfl (fun _ => rfl) tells.joins tells.exited (by simp)
  | windowWillClose loops => exact tells.windowWillClose loops
  | drawInMTKView loops drawable => exact tells.drawInMTKView drawable
  | waitReady runs waits returned => exact tells.waitFor waits runs fun _ => returned
  | waitTimeout runs waits returned => exact tells.waitFor waits runs nofun
  | storeResult runs at_store =>
      refine tells.quiet nofun rfl ⟨rfl, rfl⟩ ?_ id tells.joins tells.exited (by simp)
      simp only [WindowedApp.verdict, at_store]
      rename_i status
      cases status <;> rfl
  | storeShutdownRequested runs at_store => exact tells.storeShutdownRequested runs at_store
  | dispatchStop runs at_call =>
      refine tells.quiet nofun rfl ⟨rfl, rfl⟩ ?_ id tells.joins tells.exited (by simp)
      simp only [WindowedApp.verdict, at_call]
  | stopBlock loops =>
      exact tells.quiet nofun rfl ⟨rfl, rfl⟩ rfl id tells.joins tells.exited
        (by simp [WindowedApp.stopApplication])
  | runReturns loops => exact tells.quiet nofun rfl ⟨rfl, rfl⟩ rfl id nofun nofun (by simp)
  | wasClosedByUser at_check =>
      cases closed : before.g_closedByUser with
      | true =>
          refine tells.quiet nofun rfl ⟨closed.symm, rfl⟩ rfl id nofun ?_ (by simp)
          rintro code ⟨⟩
          exact .inl ⟨closed, rfl⟩
      | false =>
          exact tells.quiet nofun rfl ⟨closed.symm, rfl⟩ rfl id (fun _ => closed) nofun (by simp)
  | joinWatchdog joins ended =>
      refine tells.quiet nofun rfl ⟨rfl, rfl⟩ rfl id nofun ?_ (by simp)
      rintro code ⟨⟩
      have open_ := tells.joins joins
      have verdict : before.verdict =
          some (if before.watchdogResult = 2 then .timeout else .ready) := by
        rw [WindowedApp.verdict, ended]
      by_cases two : before.watchdogResult = 2
      · rw [if_pos two] at verdict ⊢
        exact .inr (.inl ⟨open_, verdict, rfl⟩)
      · rw [if_neg two] at verdict ⊢
        exact .inr (.inr ⟨open_, verdict, rfl⟩)

theorem tellsPast {trace : List ShutdownLabel} {app : WindowedApp}
    (history : shutdownSystem.History trace app) : TellsPast trace app :=
  history.invariant TellsPast (fun isInit => isInit ▸ TellsPast.initial)
    fun _ tells step => tells.step step

/-- What the program and the event loop do to each other at a moment. -/
structure LoopMoment where
  /-- A block is put on the main queue. -/
  dispatched : Bool
  ranBlock : Bool
  /-- The application is stopped, and an event is posted. -/
  stopped : Bool
  returned : Bool
deriving DecidableEq, Repr

/-- An event loop with its main queue, as the courses that it can take. -/
structure EventLoop where
  admits : (Nat → LoopMoment) → Prop

/-- What AppKit and the main queue promise. -/
structure EventLoop.Documented (loop : EventLoop) : Prop where
  /-- Until it returns the loop serves the main queue. -/
  servesMainQueue : ∀ moments, loop.admits moments → ∀ n, (moments n).dispatched = true →
    (∃ m, n < m ∧ (moments m).ranBlock = true) ∨ ∃ m, (moments m).returned = true
  /-- A loop that is stopped returns after the next event, and one has been posted. -/
  returnsOnceStopped : ∀ moments, loop.admits moments → ∀ n, (moments n).stopped = true →
    ∃ m, n < m ∧ (moments m).returned = true

/-- The steps of the watchdog. -/
def ShutdownLabel.ofWatchdog : ShutdownLabel → Bool
  | .waitFor _ | .storeResult | .storeShutdownRequested | .dispatchStop => true
  | _ => false

/-- The steps that bring the process nearer to its end. -/
def ShutdownLabel.advances : ShutdownLabel → Bool
  | .runReturns | .wasClosedByUser | .joinWatchdog => true
  | label => label.ofWatchdog

theorem ShutdownLabel.advances_of_ofWatchdog {label : ShutdownLabel}
    (watchdogs : label.ofWatchdog = true) : label.advances = true := by
  cases label <;> first | rfl | exact watchdogs

def WatchdogThread.remaining : WatchdogThread → Nat
  | .waitFor => 4
  | .storeResult _ => 3
  | .storeShutdownRequested => 2
  | .dispatchStop => 1
  | .finished => 0

def MainThread.remaining : MainThread → Nat
  | .runEventLoop => 3
  | .wasClosedByUser => 2
  | .joinWatchdog => 1
  | .exited _ => 0

/-- The steps that are left to the watchdog and the main thread. -/
def WindowedApp.remaining (app : WindowedApp) : Nat :=
  app.watchdog.remaining + app.main.remaining

/-- A draw callback moves neither thread. -/
theorem WindowedApp.drawInMTKView_threads (app : WindowedApp) (drawable : Bool) :
    (app.drawInMTKView drawable).watchdog = app.watchdog ∧
      (app.drawInMTKView drawable).main = app.main := by
  unfold drawInMTKView
  split
  · exact ⟨rfl, rfl⟩
  · split <;> exact ⟨rfl, rfl⟩

theorem ranked_shutdown :
    shutdownSystem.Ranked ShutdownLabel.advances WindowedApp.remaining := by
  intro before label after step
  cases step with
  | guestReturns | windowWillClose | stopBlock => exact Nat.le_refl _
  | drawInMTKView loops drawable =>
      obtain ⟨watchdog, main⟩ := before.drawInMTKView_threads drawable
      rw [WindowedApp.remaining, watchdog, main]
      exact Nat.le_refl _
  | waitReady runs at_step | waitTimeout runs at_step | storeResult runs at_step
  | storeShutdownRequested runs at_step | dispatchStop runs at_step =>
      unfold WindowedApp.remaining
      rw [at_step]
      simp only [WatchdogThread.remaining, ShutdownLabel.advances, ShutdownLabel.ofWatchdog,
        Bool.toNat_true]
      omega
  | runReturns at_step | joinWatchdog at_step =>
      unfold WindowedApp.remaining
      rw [at_step]
      simp only [MainThread.remaining, ShutdownLabel.advances, Bool.toNat_true]
      omega
  | wasClosedByUser at_check =>
      unfold WindowedApp.remaining
      rw [at_check]
      cases before.g_closedByUser <;>
        simp only [MainThread.remaining, ShutdownLabel.advances, Bool.toNat_true, if_true,
          Bool.false_eq_true, if_false] <;> omega

theorem finished_kept {before after : WindowedApp} {label : ShutdownLabel}
    (finished : before.watchdog = .finished) (step : ShutdownStep before label after) :
    after.watchdog = .finished := by
  cases step with
  | waitReady runs at_step | waitTimeout runs at_step | storeResult runs at_step
  | storeShutdownRequested runs at_step => cases finished.symm.trans at_step
  | dispatchStop => rfl
  | drawInMTKView loops drawable =>
      exact (before.drawInMTKView_threads drawable).1.trans finished
  | _ => exact finished

/-- The main thread does not come back into the loop. -/
theorem left_kept {before after : WindowedApp} {label : ShutdownLabel}
    (left : before.main ≠ .runEventLoop) (step : ShutdownStep before label after) :
    after.main ≠ .runEventLoop := by
  cases step with
  | windowWillClose loops | drawInMTKView loops | stopBlock loops | runReturns loops =>
      exact absurd loops left
  | wasClosedByUser =>
      dsimp only
      split <;> nofun
  | joinWatchdog => nofun
  | _ => exact left

/-- Only the watchdog's last step finishes it. -/
theorem watchdog_finishes {before after : WindowedApp} {label : ShutdownLabel}
    (unfinished : before.watchdog ≠ .finished) (step : ShutdownStep before label after)
    (finished : after.watchdog = .finished) : before.dispatched < after.dispatched := by
  cases step with
  | waitReady | waitTimeout | storeResult | storeShutdownRequested => cases finished
  | dispatchStop => exact Nat.lt_succ_self _
  | drawInMTKView loops drawable =>
      rw [(before.drawInMTKView_threads drawable).1] at finished
      exact absurd finished unfinished
  | _ => exact absurd finished unfinished

section Executions

open Transition.System

variable (execution : shutdownSystem.Execution)

/-- The calls between the program and the loop at a moment. -/
def loopMoment (n : Nat) : LoopMoment where
  dispatched := (execution.state n).dispatched < (execution.state (n + 1)).dispatched
  ranBlock := execution.label n = some .stopBlock
  stopped := (execution.state n).stops < (execution.state (n + 1)).stops
  returned := execution.label n = some .runReturns

/-- The threads of the process that are not blocked go on.  The watchdog never is for long: its
wait ends after ten seconds. -/
structure ThreadsGoOn : Prop where
  watchdog : ∀ n, (execution.state n).watchdog ≠ .finished →
    (∃ m l, n ≤ m ∧ execution.label m = some l ∧ l.ofWatchdog = true) ∨
      ∃ m code, (execution.state m).main = .exited code
  check : ∀ n, (execution.state n).main = .wasClosedByUser →
    ∃ m, n ≤ m ∧ execution.label m = some .wasClosedByUser
  join : ∀ n, (execution.state n).main = .joinWatchdog →
    (execution.state n).watchdog = .finished →
      ∃ m, n ≤ m ∧ execution.label m = some .joinWatchdog

variable {execution}

/-- A watchdog that has finished has put its block on the main queue. -/
theorem exists_dispatched {n : Nat} (finished : (execution.state n).watchdog = .finished) :
    ∃ k, (loopMoment execution k).dispatched = true := by
  induction n with
  | zero =>
      have start : execution.state 0 = .initial := execution.starts
      rw [start] at finished
      cases finished
  | succ n ih =>
      by_cases already : (execution.state n).watchdog = .finished
      · exact ih already
      · cases label : execution.label n with
        | none =>
            rw [execution.pauses n label] at finished
            exact absurd finished already
        | some l =>
            have grows := watchdog_finishes already (execution.steps n l label) finished
            exact ⟨n, decide_eq_true grows⟩

/-- The block stops the application. -/
theorem stopped_of_ranBlock {n : Nat} (ran : (loopMoment execution n).ranBlock = true) :
    (loopMoment execution n).stopped = true := by
  have step := execution.steps n _ (of_decide_eq_true ran)
  generalize before : execution.state n = app at step
  generalize after : execution.state (n + 1) = next at step
  cases step with
  | stopBlock => simp [loopMoment, before, after, WindowedApp.stopApplication]

theorem left_of_returned {n : Nat} (returned : (loopMoment execution n).returned = true) :
    (execution.state (n + 1)).main ≠ .runEventLoop := by
  have step := execution.steps n _ (of_decide_eq_true returned)
  generalize execution.state (n + 1) = next at step
  cases step with
  | runReturns => nofun

/-- Even if the draw callback never comes again, the process ends: every event loop that keeps
its promises returns once the watchdog has asked for it, and then the threads end. -/
theorem shutdown_completes {loop : EventLoop} (documented : loop.Documented)
    (admitted : loop.admits (loopMoment execution)) (goesOn : ThreadsGoOn execution) :
    ∃ n code, (execution.state n).main = .exited code := by
  by_contra runs
  obtain ⟨quiet, ceases⟩ := ranked_shutdown.ceases execution
  have finished : (execution.state quiet).watchdog = .finished := by
    by_contra unfinished
    rcases goesOn.watchdog quiet unfinished with ⟨m, l, le, label, watchdogs⟩ | exits
    · have idle := ceases m l le label
      rw [ShutdownLabel.advances_of_ofWatchdog watchdogs] at idle
      cases idle
    · exact runs exits
  obtain ⟨k, dispatched⟩ := exists_dispatched finished
  obtain ⟨m, returned⟩ : ∃ m, (loopMoment execution m).returned = true := by
    rcases documented.servesMainQueue _ admitted k dispatched with ⟨m, -, ran⟩ | returns
    · obtain ⟨later, -, returned⟩ :=
        documented.returnsOnceStopped _ admitted m (stopped_of_ranBlock ran)
      exact ⟨later, returned⟩
    · exact returns
  have left := execution.lasts left_kept (left_of_returned returned)
    (le_max_right quiet (m + 1))
  have ended := execution.lasts finished_kept finished (le_max_left quiet (m + 1))
  cases main : (execution.state (max quiet (m + 1))).main with
  | runEventLoop => exact left main
  | wasClosedByUser =>
      obtain ⟨next, le, label⟩ := goesOn.check _ main
      exact Bool.true_eq_false.mp (ceases next _ ((le_max_left _ _).trans le) label)
  | joinWatchdog =>
      obtain ⟨next, le, label⟩ := goesOn.join _ main ended
      exact Bool.true_eq_false.mp (ceases next _ ((le_max_left _ _).trans le) label)
  | exited code => exact runs ⟨_, code, main⟩

/-- A loop that runs a block of the main queue at the next moment, and returns at the next moment
once it is stopped. -/
def promptLoop : EventLoop where
  admits moments := ∀ n,
    ((moments n).dispatched = true → (moments (n + 1)).ranBlock = true) ∧
      ((moments n).stopped = true → (moments (n + 1)).returned = true)

theorem promptLoop_documented : promptLoop.Documented where
  servesMainQueue _ admitted n dispatched :=
    .inl ⟨n + 1, Nat.lt_succ_self n, (admitted n).1 dispatched⟩
  returnsOnceStopped _ admitted n stopped := ⟨n + 1, Nat.lt_succ_self n, (admitted n).2 stopped⟩

/-- The guest does not return, and the window is hidden. -/
def hiddenLabels : List ShutdownLabel :=
  [.waitFor .timeout, .storeResult, .storeShutdownRequested, .dispatchStop, .stopBlock,
    .runReturns, .wasClosedByUser, .joinWatchdog]

def hiddenApp : Nat → WindowedApp
  | 0 => .initial
  | 1 => ⟨false, .storeResult .timeout, -1, .runEventLoop, false, false, 0, 0, 0⟩
  | 2 => ⟨false, .storeShutdownRequested, 2, .runEventLoop, false, false, 0, 0, 0⟩
  | 3 => ⟨false, .dispatchStop, 2, .runEventLoop, true, false, 0, 0, 0⟩
  | 4 => ⟨false, .finished, 2, .runEventLoop, true, false, 0, 0, 1⟩
  | 5 => ⟨false, .finished, 2, .runEventLoop, true, false, 0, 1, 1⟩
  | 6 => ⟨false, .finished, 2, .wasClosedByUser, true, false, 0, 1, 1⟩
  | 7 => ⟨false, .finished, 2, .joinWatchdog, true, false, 0, 1, 1⟩
  | _ => ⟨false, .finished, 2, .exited 2, true, false, 0, 1, 1⟩

def hiddenExecution : shutdownSystem.Execution where
  state := hiddenApp
  label n := hiddenLabels[n]?
  starts := show hiddenApp 0 = .initial from rfl
  steps := by
    intro n l label
    match n with
    | 0 =>
        obtain rfl := Option.some.inj label
        exact .waitTimeout nofun rfl rfl
    | 1 =>
        obtain rfl := Option.some.inj label
        have at_store : (hiddenApp 1).watchdog = .storeResult .timeout := rfl
        have runs : ∀ code, (hiddenApp 1).main ≠ .exited code := nofun
        exact .storeResult runs at_store
    | 2 =>
        obtain rfl := Option.some.inj label
        exact .storeShutdownRequested nofun rfl
    | 3 =>
        obtain rfl := Option.some.inj label
        exact .dispatchStop nofun rfl
    | 4 =>
        obtain rfl := Option.some.inj label
        exact .stopBlock rfl
    | 5 =>
        obtain rfl := Option.some.inj label
        exact .runReturns rfl
    | 6 =>
        obtain rfl := Option.some.inj label
        exact .wasClosedByUser rfl
    | 7 =>
        obtain rfl := Option.some.inj label
        exact .joinWatchdog rfl rfl
    | n + 8 => simp [hiddenLabels] at label
  pauses := by
    intro n none
    match n with
    | 0 | 1 | 2 | 3 | 4 | 5 | 6 | 7 => cases none
    | n + 8 => rfl

/-- The watchdog ends the process of a hidden window. -/
theorem shutdown_completes_hidden :
    (∀ drawable, ∀ n, hiddenExecution.label n ≠ some (.drawInMTKView drawable)) ∧
      ∃ n code, (hiddenExecution.state n).main = .exited code := by
  have admitted : promptLoop.admits (loopMoment hiddenExecution) := by
    intro n
    match n with
    | 0 | 1 | 2 | 3 | 4 | 5 | 6 | 7 => decide
    | n + 8 => exact ⟨nofun, nofun⟩
  have goesOn : ThreadsGoOn hiddenExecution := by
    refine ⟨fun n _ => .inr ⟨8, 2, rfl⟩, fun n at_check => ?_, fun n joins _ => ?_⟩
    · refine ⟨6, ?_, rfl⟩
      match n with
      | 0 | 1 | 2 | 3 | 4 | 5 | 6 => decide
      | 7 => cases at_check
      | n + 8 => cases at_check
    · refine ⟨7, ?_, rfl⟩
      match n with
      | 0 | 1 | 2 | 3 | 4 | 5 | 6 | 7 => decide
      | n + 8 => cases joins
  refine ⟨?_, shutdown_completes promptLoop_documented admitted goesOn⟩
  intro drawable n draws
  have listed : ShutdownLabel.drawInMTKView drawable ∈ hiddenLabels := List.mem_of_getElem? draws
  revert listed
  cases drawable <;> decide

end Executions

end BumpinHost.Renderer
