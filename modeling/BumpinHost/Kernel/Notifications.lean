import BumpinHost.Kernel.Objects
import BumpinHost.Library.KeyedQueue

/-!
# Notification listeners

A listener is a handle with a queue of notifications.  The first listener that asks for
system notifications, and no other, starts with those of the startup.  A title takes them
one by one, the oldest first or the oldest with an id it names.
-/

namespace BumpinHost.Kernel

open Memory KeyedQueue

/-- An id and its data. -/
abbrev Notification := Word × Word

structure NotifyListener where
  mask : BitVec 64
  queue : List Notification
deriving DecidableEq, Repr

/-- What the title finds queued when it starts to listen. -/
def startupNotifications : List Notification :=
  [(0x00000009, 1), (0x00000009, 0), (0x0000000A, 1), (0x0000000A, 1),
    (0x00000012, 0), (0x00000012, 0), (0x00000013, 0), (0x00000013, 0)]

structure NotifyState where
  handleTable : HandleTable
  nextHandle : Word
  /-- `g_notifyListeners`: an entry stays when its handle is closed. -/
  notifyListeners : Word → Option NotifyListener
  notifiedStartup : Bool

/-- The mask of a listener that is sent system notifications. -/
def wantsStartup (mask : BitVec 64) : Bool := mask &&& 0x1 != 0

/-- What a listener asks for and gets from its queue. -/
def dequeue (queue : List Notification) (matchId : Word) :
    Option (Notification × List Notification) :=
  if matchId ≠ 0 then takeFirst (fun entry => entry.1 == matchId) queue
  else takeFirst (fun _ => true) queue

namespace NotifyState

variable (s : NotifyState)

def queue (handle : Word) : List Notification :=
  ((s.notifyListeners handle).map NotifyListener.queue).getD []

def xamNotifyCreateListener (mask : BitVec 64) : NotifyState × Word :=
  let startup := !s.notifiedStartup && wantsStartup mask
  ({ handleTable := s.handleTable.insert s.nextHandle ⟨.generic, false, false⟩
     nextHandle := s.nextHandle + 1
     notifyListeners := Function.update s.notifyListeners s.nextHandle
       (some ⟨mask, if startup then startupNotifications else []⟩)
     notifiedStartup := s.notifiedStartup || startup }, s.nextHandle)

/-- The part of `XNotifyGetNext` under the lock. -/
def nextNotification (handle matchId : Word) : NotifyState × Option Notification :=
  match s.handleTable handle, s.notifyListeners handle with
  | some _, some listener =>
      match dequeue listener.queue matchId with
      | some (entry, rest) =>
          ({ s with notifyListeners :=
              Function.update s.notifyListeners handle (some ⟨listener.mask, rest⟩) }, some entry)
      | none => (s, none)
  | _, _ => (s, none)

/-- The state, memory and result of the call. -/
def xNotifyGetNext (mem : Memory) (handle matchId idPtr paramPtr : Word) :
    NotifyState × Memory × Word :=
  let cleared := if paramPtr ≠ 0 then storeU32 mem paramPtr 0 else mem
  if idPtr = 0 then (s, cleared, 0)
  else
    let cleared := storeU32 cleared idPtr 0
    match s.nextNotification handle matchId with
    | (after, some (id, data)) =>
        let stored := storeU32 cleared idPtr id
        (after, if paramPtr ≠ 0 then storeU32 stored paramPtr data else stored, 1)
    | (after, none) => (after, cleared, 0)

end NotifyState

inductive NotifyLabel
  | createListener (mask : BitVec 64) (handle : Word)
  | getNext (handle matchId : Word) (got : Option Notification)
  | otherCode
deriving DecidableEq, Repr

/-- A call under the lock.  Other exports create, close and signal handles, and leave the
listeners alone. -/
inductive NotifyStep (s : NotifyState) : NotifyLabel → NotifyState → Prop
  | createListener (mask : BitVec 64) :
      NotifyStep s (.createListener mask (s.xamNotifyCreateListener mask).2)
        (s.xamNotifyCreateListener mask).1
  | getNext (handle matchId : Word) :
      NotifyStep s (.getNext handle matchId (s.nextNotification handle matchId).2)
        (s.nextNotification handle matchId).1
  | otherCode (handleTable : HandleTable) (nextHandle : Word) :
      NotifyStep s .otherCode { s with handleTable := handleTable, nextHandle := nextHandle }

/-- No listener has been made. -/
def NotifyState.IsInitial (s : NotifyState) : Prop :=
  s.notifyListeners = (fun _ => none) ∧ s.notifiedStartup = false

def notifySystem : Transition.System NotifyState NotifyLabel where
  init := NotifyState.IsInitial
  step := NotifyStep

/-- The handle and the notification of a call that got one. -/
def NotifyLabel.delivery : NotifyLabel → Option (Word × Notification)
  | .getNext handle _ (some entry) => some (handle, entry)
  | _ => none

/-- What was delivered, in order. -/
def deliveries (trace : List NotifyLabel) : List (Word × Notification) :=
  trace.filterMap NotifyLabel.delivery

/-- A listener that asks for system notifications is made. -/
def NotifyLabel.asksForStartup : NotifyLabel → Bool
  | .createListener mask _ => wantsStartup mask
  | _ => false

/-- A call keeps the order of the notifications of each id. -/
theorem step_of_dequeue {queue rest : List Notification} {matchId : Word}
    {entry : Notification} (took : dequeue queue matchId = some (entry, rest)) :
    KeyedQueue.Step Prod.fst queue (.take entry) rest := by
  unfold dequeue at took
  split at took
  · have matched : entry.1 = matchId := by simpa using wanted_of_takeFirst took
    refine .of_takeFirst took fun other refused => ?_
    rw [matched]
    simpa using refused
  · exact .of_takeFirst took fun other refused => absurd refused (by simp)

namespace NotifyState

variable {s : NotifyState}

/-- A call takes an entry from the queue of its handle, or does nothing. -/
theorem nextNotification_cases (s : NotifyState) (handle matchId : Word) :
    s.nextNotification handle matchId = (s, none) ∨
      ∃ entry after, s.nextNotification handle matchId = (after, some entry) ∧
        after.notifiedStartup = s.notifiedStartup ∧
        KeyedQueue.Step Prod.fst (s.queue handle) (.take entry) (after.queue handle) ∧
        ∀ other, other ≠ handle → after.queue other = s.queue other := by
  unfold nextNotification
  split
  case h_2 => exact .inl rfl
  case h_1 opened listener _ found =>
      split
      case h_2 => exact .inl rfl
      case h_1 entry rest took =>
          refine .inr ⟨entry, _, rfl, rfl, ?_, ?_⟩
          · have step := step_of_dequeue took
            simpa [queue, found] using step
          · intro other different
            simp [queue, Function.update_of_ne different]

/-- Without an entry in the queue, a call gets nothing. -/
theorem nextNotification_of_empty {handle : Word} (empty : s.queue handle = [])
    (matchId : Word) : s.nextNotification handle matchId = (s, none) := by
  obtain nothing | ⟨entry, after, -, -, step, -⟩ := s.nextNotification_cases handle matchId
  · exact nothing
  · exact absurd empty step.ne_nil

theorem queue_create (mask : BitVec 64) (handle : Word) :
    (s.xamNotifyCreateListener mask).1.queue handle =
      if handle = s.nextHandle then
        if !s.notifiedStartup && wantsStartup mask then startupNotifications else []
      else s.queue handle := by
  unfold xamNotifyCreateListener queue
  by_cases same : handle = s.nextHandle
  · subst same
    simp
  · simp [same]

end NotifyState

/-- A call with a place for the id is a call of the system, and tells the title what it
took: 1 and the entry, or 0 and zeros. -/
theorem NotifyState.xNotifyGetNext_reports (s : NotifyState) (mem : Memory)
    (handle matchId : Word) {idPtr paramPtr : Word} (hasId : idPtr ≠ 0)
    (hasParam : paramPtr ≠ 0) (apart : Apart idPtr paramPtr) :
    let taken := s.nextNotification handle matchId
    let report := s.xNotifyGetNext mem handle matchId idPtr paramPtr
    report.1 = taken.1 ∧ report.2.2 = (if taken.2.isSome then 1 else 0) ∧
      loadU32 report.2.1 idPtr = (taken.2.map Prod.fst).getD 0 ∧
      loadU32 report.2.1 paramPtr = (taken.2.map Prod.snd).getD 0 := by
  simp only [xNotifyGetNext, if_neg hasId, if_pos hasParam]
  cases taken : s.nextNotification handle matchId with
  | mk after got =>
      cases got with
      | none => simp [loadU32_storeU32_apart _ apart]
      | some entry => simp [loadU32_storeU32_apart _ apart.symm]

theorem deliveries_append (first second : List NotifyLabel) :
    deliveries (first ++ second) = deliveries first ++ deliveries second :=
  List.filterMap_append ..

/-- Before a listener asks for them there are no notifications. -/
theorem nothing_before {trace : List NotifyLabel} {s : NotifyState}
    (history : notifySystem.History trace s)
    (unasked : ∀ label ∈ trace, label.asksForStartup = false) :
    deliveries trace = [] ∧ s.notifiedStartup = false ∧ ∀ handle, s.queue handle = [] := by
  obtain ⟨start, ⟨none, unnotified⟩, run⟩ := history
  induction run with
  | refl => exact ⟨rfl, unnotified, fun handle => by simp [NotifyState.queue, none]⟩
  | @tail past before after label _ step ih =>
      rw [List.forall_mem_append, List.forall_mem_singleton] at unasked
      obtain ⟨undelivered, unnotified, empty⟩ := ih unasked.1
      rw [deliveries_append, undelivered]
      cases step with
      | createListener mask =>
          have asked : wantsStartup mask = false := unasked.2
          refine ⟨rfl, ?_, fun handle => ?_⟩
          · simp [NotifyState.xamNotifyCreateListener, unnotified, asked]
          · rw [NotifyState.queue_create, asked, empty]
            simp
      | getNext handle matchId =>
          rw [NotifyState.nextNotification_of_empty (empty handle)]
          exact ⟨rfl, unnotified, empty⟩
      | otherCode => exact ⟨rfl, unnotified, empty⟩

/-- From then on only one queue holds anything, and each delivery takes from it. -/
theorem taken_after {start final : NotifyState} {future : List NotifyLabel} {owner : Word}
    (run : notifySystem.Run start future final)
    (kept : ∀ mask, .createListener mask owner ∉ future)
    (notified : start.notifiedStartup = true)
    (empty : ∀ other, other ≠ owner → start.queue other = []) :
    final.notifiedStartup = true ∧ (∀ other, other ≠ owner → final.queue other = []) ∧
      (∀ delivery ∈ deliveries future, delivery.1 = owner) ∧
      (keyedQueue Prod.fst).Run (start.queue owner)
        ((deliveries future).map fun delivery => .take delivery.2) (final.queue owner) := by
  induction run with
  | refl => exact ⟨notified, empty, by simp [deliveries], .refl⟩
  | @tail past before after label _ step ih =>
      obtain ⟨notified, empty, owned, taken⟩ :=
        ih fun mask member => kept mask (List.mem_append_left _ member)
      rw [deliveries_append]
      cases step with
      | createListener mask =>
          have fresh : before.nextHandle ≠ owner := by
            rintro rfl
            exact kept mask (List.mem_append_right _ List.mem_cons_self)
          have created : ∀ handle, handle ≠ before.nextHandle →
              (before.xamNotifyCreateListener mask).1.queue handle = before.queue handle := by
            intro handle different
            rw [NotifyState.queue_create, if_neg different]
          have none : deliveries
              [.createListener mask (before.xamNotifyCreateListener mask).2] = [] := rfl
          rw [none, List.append_nil]
          refine ⟨?_, ?_, owned, ?_⟩
          · simp [NotifyState.xamNotifyCreateListener, notified]
          · intro other different
            by_cases same : other = before.nextHandle
            · rw [NotifyState.queue_create, if_pos same, notified]
              rfl
            · rw [created other same, empty other different]
          · rwa [created owner fresh.symm]
      | getNext handle matchId =>
          obtain nothing | ⟨entry, later, took, same, step, others⟩ :=
            before.nextNotification_cases handle matchId
          · rw [nothing]
            have none : deliveries [.getNext handle matchId none] = [] := rfl
            rw [none, List.append_nil]
            exact ⟨notified, empty, owned, taken⟩
          · rw [took]
            have one : deliveries [.getNext handle matchId (some entry)] =
                [(handle, entry)] := rfl
            have isOwner : handle = owner := by
              by_contra different
              exact step.ne_nil (empty handle different)
            subst isOwner
            rw [one, List.map_append]
            refine ⟨same.trans notified, ?_, ?_, taken.tail step⟩
            · intro other different
              rw [others other different, empty other different]
            · rw [List.forall_mem_append, List.forall_mem_singleton]
              exact ⟨owned, rfl⟩
      | otherCode =>
          have none : deliveries [.otherCode] = [] := rfl
          rw [none, List.append_nil]
          exact ⟨notified, empty, owned, taken⟩

/-- The startup notifications go to the first listener that asks for system notifications:
before it is made no call gets anything, after it only calls with its handle do, and of each
id they have got, in order, all that its queue no longer holds. -/
theorem startup_deliveredOnce {past future : List NotifyLabel} {mask : BitVec 64}
    {owner : Word} {s : NotifyState}
    (history : notifySystem.History (past ++ .createListener mask owner :: future) s)
    (unasked : ∀ label ∈ past, label.asksForStartup = false)
    (asked : wantsStartup mask = true)
    (kept : ∀ other, .createListener other owner ∉ future) :
    deliveries past = [] ∧ (∀ delivery ∈ deliveries future, delivery.1 = owner) ∧
      ∀ id, ofKey Prod.fst id startupNotifications =
        ofKey Prod.fst id ((deliveries future).map Prod.snd) ++
          ofKey Prod.fst id (s.queue owner) := by
  obtain ⟨start, isInitial, run⟩ := history
  obtain ⟨before, earlier, rest⟩ := run.split
  obtain ⟨created, step, later⟩ := rest.of_cons
  obtain ⟨undelivered, unnotified, empty⟩ :=
    nothing_before ⟨start, isInitial, earlier⟩ unasked
  generalize made : NotifyLabel.createListener mask owner = label at step
  cases step with
  | getNext => cases made
  | otherCode => cases made
  | createListener =>
      obtain ⟨rfl, rfl⟩ := NotifyLabel.createListener.inj made
      have queued : (before.xamNotifyCreateListener mask).1.queue
          (before.xamNotifyCreateListener mask).2 = startupNotifications := by
        rw [NotifyState.queue_create, unnotified, asked]
        exact if_pos rfl
      obtain ⟨-, -, owned, taken⟩ := taken_after later kept
        (by simp [NotifyState.xamNotifyCreateListener, asked])
        fun other different => by
          have different : other ≠ before.nextHandle := different
          rw [NotifyState.queue_create, if_neg different, empty]
      refine ⟨undelivered, owned, fun id => ?_⟩
      have conserved := KeyedQueue.conservation (k := id) taken
      rw [queued] at conserved
      simpa [Fifo.Event.putItem, Fifo.Event.takenItem, Function.comp_def, ofKey] using conserved

/-- A title makes a listener, asks it for a change of the signed-in users and then for
whatever is oldest. -/
def signInTrace : List NotifyLabel :=
  [.createListener 0x2 0x1000, .createListener 0x1 0x1001,
    .getNext 0x1001 0x0000000A (some (0x0000000A, 1)),
    .getNext 0x1000 0 none,
    .getNext 0x1001 0 (some (0x00000009, 1))]

theorem startup_deliveredOnce_signIn :
    ∃ s, notifySystem.History signInTrace s ∧
      ofKey Prod.fst 0x0000000A startupNotifications =
        ofKey Prod.fst 0x0000000A [(0x0000000A, 1), (0x00000009, 1)] ++
          ofKey Prod.fst 0x0000000A (s.queue 0x1001) := by
  let start : NotifyState := ⟨fun _ => none, firstHandle, fun _ => none, false⟩
  let first := (start.xamNotifyCreateListener 0x2).1
  let second := (first.xamNotifyCreateListener 0x1).1
  let third := (second.nextNotification 0x1001 0x0000000A).1
  let fourth := (third.nextNotification 0x1000 0).1
  have signedIn : (second.nextNotification 0x1001 0x0000000A).2 = some (0x0000000A, 1) := by
    decide
  have unnotified : (third.nextNotification 0x1000 0).2 = none := by decide
  have oldest : (fourth.nextNotification 0x1001 0).2 = some (0x00000009, 1) := by decide
  have unnotifiable : notifySystem.Run start (signInTrace.take 1) first :=
    Transition.System.Run.refl.tail (NotifyStep.createListener 0x2)
  have created : notifySystem.Run start (signInTrace.take 2) second :=
    unnotifiable.tail (NotifyStep.createListener 0x1)
  have asked : notifySystem.Run start (signInTrace.take 3) third :=
    created.tail (signedIn ▸ NotifyStep.getNext 0x1001 0x0000000A)
  have refused : notifySystem.Run start (signInTrace.take 4) fourth :=
    asked.tail (unnotified ▸ NotifyStep.getNext 0x1000 0)
  have run : notifySystem.Run start signInTrace (fourth.nextNotification 0x1001 0).1 :=
    refused.tail (oldest ▸ NotifyStep.getNext 0x1001 0)
  have history : notifySystem.History
      ([.createListener 0x2 0x1000] ++ .createListener 0x1 0x1001 :: signInTrace.drop 2)
      (fourth.nextNotification 0x1001 0).1 :=
    ⟨start, ⟨rfl, rfl⟩, run⟩
  have once := startup_deliveredOnce history
    (by simp [NotifyLabel.asksForStartup, wantsStartup]) (by decide) (by simp [signInTrace])
  exact ⟨_, history, once.2.2 0x0000000A⟩

end BumpinHost.Kernel
