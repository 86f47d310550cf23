import BumpinHost.Kernel.Threads
import BumpinHost.Library.Cells

/-!
# Thread-local storage

Slot numbers are shared by all threads and given out once; freeing one does nothing.
Slot values are each thread's own, and zero when the thread starts.
-/

namespace BumpinHost.Kernel

open Cells (Access lastWritten)

/-- `TLS_OUT_OF_INDEXES`. -/
def tlsOutOfIndexes : BitVec 64 := 0xFFFFFFFF

structure TlsState where
  tlsNextSlot : Nat
  tlsSlots : ThreadId × Fin 64 → BitVec 64

namespace TlsState

variable (s : TlsState)

def keTlsAlloc : TlsState × BitVec 64 :=
  if 64 ≤ s.tlsNextSlot then (s, tlsOutOfIndexes)
  else ({ s with tlsNextSlot := s.tlsNextSlot + 1 }, BitVec.ofNat 64 s.tlsNextSlot)

def keTlsSetValue (t : ThreadId) (index : Word) (value : BitVec 64) : TlsState :=
  if inside : index.toNat < 64 then
    { s with tlsSlots := Function.update s.tlsSlots (t, ⟨index.toNat, inside⟩) value }
  else s

def keTlsGetValue (t : ThreadId) (index : Word) : BitVec 64 :=
  if inside : index.toNat < 64 then s.tlsSlots (t, ⟨index.toNat, inside⟩) else 0

end TlsState

inductive TlsLabel
  | keTlsAlloc (t : ThreadId) (result : BitVec 64)
  | keTlsFree (t : ThreadId) (index : Word)
  | keTlsSetValue (t : ThreadId) (index : Word) (value : BitVec 64)
  | keTlsGetValue (t : ThreadId) (index : Word) (result : BitVec 64)
deriving DecidableEq, Repr

inductive TlsStep (s : TlsState) : TlsLabel → TlsState → Prop
  | keTlsAlloc (t : ThreadId) : TlsStep s (.keTlsAlloc t s.keTlsAlloc.2) s.keTlsAlloc.1
  | keTlsFree (t : ThreadId) (index : Word) : TlsStep s (.keTlsFree t index) s
  | keTlsSetValue (t : ThreadId) (index : Word) (value : BitVec 64) :
      TlsStep s (.keTlsSetValue t index value) (s.keTlsSetValue t index value)
  | keTlsGetValue (t : ThreadId) (index : Word) :
      TlsStep s (.keTlsGetValue t index (s.keTlsGetValue t index)) s

def tlsSystem : Transition.System TlsState TlsLabel where
  init := (· = ⟨0, fun _ => 0⟩)
  step := TlsStep

/-- The access of a call to a slot, if its index is one. -/
def TlsLabel.access : TlsLabel → Option (Access (ThreadId × Fin 64) (BitVec 64))
  | .keTlsSetValue t index value =>
      if inside : index.toNat < 64 then some (.write (t, ⟨index.toNat, inside⟩) value) else none
  | .keTlsGetValue t index result =>
      if inside : index.toNat < 64 then some (.read (t, ⟨index.toNat, inside⟩) result) else none
  | _ => none

/-- What `KeTlsAlloc` returned. -/
def TlsLabel.allocated : TlsLabel → Option (BitVec 64)
  | .keTlsAlloc _ result => some result
  | _ => none

/-- The answers to so many calls of `KeTlsAlloc`. -/
def tlsAllocations (calls : Nat) : List (BitVec 64) :=
  (List.range calls).map fun call => if call < 64 then BitVec.ofNat 64 call else tlsOutOfIndexes

/-- The value a thread last stored at an index. -/
def lastStored (past : List TlsLabel) (t : ThreadId) (index : Word) : BitVec 64 :=
  if inside : index.toNat < 64 then
    lastWritten 0 (t, ⟨index.toNat, inside⟩) (past.filterMap TlsLabel.access)
  else 0

/-- Slot numbers count up to 64, and a thread reads back what it stored. -/
structure TlsSound (trace : List TlsLabel) : Prop where
  allocations : ∃ calls, trace.filterMap TlsLabel.allocated = tlsAllocations calls
  reads : ∀ past t index result future, trace = past ++ .keTlsGetValue t index result :: future →
    result = lastStored past t index

theorem TlsStep.follows {before after : TlsState} {label : TlsLabel}
    (step : TlsStep before label after) :
    (Cells.cells (0 : BitVec 64)).Follows TlsState.tlsSlots TlsLabel.access
      before label after := by
  cases step with
  | keTlsAlloc t =>
      refine .unseen rfl ?_
      unfold TlsState.keTlsAlloc
      split <;> rfl
  | keTlsFree => exact .unseen rfl rfl
  | keTlsSetValue t index value =>
      by_cases inside : index.toNat < 64
      · refine .seen (.write (t, ⟨index.toNat, inside⟩) value) (dif_pos inside) ?_
        rw [TlsState.keTlsSetValue, dif_pos inside]
        exact .write ..
      · refine .unseen (dif_neg inside) ?_
        rw [TlsState.keTlsSetValue, dif_neg inside]
  | keTlsGetValue t index =>
      by_cases inside : index.toNat < 64
      · refine .seen _ (dif_pos inside) ?_
        rw [TlsState.keTlsGetValue, dif_pos inside]
        exact .read ..
      · exact .unseen (dif_neg inside) rfl

/-- The counter is the number of calls until it reaches its limit. -/
theorem TlsStep.allocations {before after : TlsState} {label : TlsLabel} {past : List TlsLabel}
    {calls : Nat} (step : TlsStep before label after)
    (earlier : past.filterMap TlsLabel.allocated = tlsAllocations calls)
    (counter : before.tlsNextSlot = min calls 64) :
    ∃ calls, (past ++ [label]).filterMap TlsLabel.allocated = tlsAllocations calls ∧
      after.tlsNextSlot = min calls 64 := by
  rw [List.filterMap_append, earlier]
  cases step with
  | keTlsAlloc t =>
      refine ⟨calls + 1, ?_, ?_⟩
      · have answer : before.keTlsAlloc.2 =
            if calls < 64 then BitVec.ofNat 64 calls else tlsOutOfIndexes := by
          unfold TlsState.keTlsAlloc
          rw [counter]
          by_cases free : calls < 64
          · rw [if_neg (by omega), if_pos free, Nat.min_eq_left free.le]
          · rw [if_pos (by omega), if_neg free]
        rw [tlsAllocations, tlsAllocations, List.range_succ, List.map_append, List.map_singleton,
          ← answer]
        rfl
      · unfold TlsState.keTlsAlloc
        split <;> simp only <;> omega
  | keTlsFree => exact ⟨calls, List.append_nil _, counter⟩
  | keTlsSetValue t index value =>
      refine ⟨calls, List.append_nil _, ?_⟩
      unfold TlsState.keTlsSetValue
      split <;> exact counter
  | keTlsGetValue => exact ⟨calls, List.append_nil _, counter⟩

theorem tlsNextSlot_eq {trace : List TlsLabel} {s : TlsState}
    (history : tlsSystem.History trace s) :
    ∃ calls, trace.filterMap TlsLabel.allocated = tlsAllocations calls ∧
      s.tlsNextSlot = min calls 64 := by
  refine history.invariant (fun trace s => ∃ calls,
    trace.filterMap TlsLabel.allocated = tlsAllocations calls ∧ s.tlsNextSlot = min calls 64) ?_ ?_
  · rintro start rfl
    exact ⟨0, rfl, rfl⟩
  · rintro past before label after - ⟨calls, earlier, counter⟩ step
    exact step.allocations earlier counter

theorem keTlsGetValue_eq {past future : List TlsLabel} {t : ThreadId} {index : Word}
    {result : BitVec 64} {s : TlsState}
    (history : tlsSystem.History (past ++ .keTlsGetValue t index result :: future) s) :
    result = lastStored past t index := by
  unfold lastStored
  split
  case isTrue inside =>
      obtain ⟨start, rfl, run⟩ := history
      have accesses := run.follows TlsStep.follows
      have isRead : TlsLabel.access (.keTlsGetValue t index result) =
          some (.read (t, ⟨index.toNat, inside⟩) result) := dif_pos inside
      rw [List.filterMap_append, List.filterMap_cons_some isRead] at accesses
      exact Cells.read_eq accesses
  case isFalse outside =>
      obtain ⟨before, after, -, step⟩ := history.exists_step
      generalize isGet : TlsLabel.keTlsGetValue t index result = label at step
      cases step with
      | keTlsGetValue =>
          obtain ⟨rfl, rfl, rfl⟩ := TlsLabel.keTlsGetValue.inj isGet
          exact dif_neg outside
      | _ => cases isGet

/-- In every interleaving the first 64 allocations give the slots in turn and all later
ones fail, and a thread reads at an index what it stored there last itself: zero before it
has stored anything, and always zero at an index that is no slot. -/
theorem tls_sound {trace : List TlsLabel} {s : TlsState}
    (history : tlsSystem.History trace s) : TlsSound trace where
  allocations := by
    obtain ⟨calls, allocations, -⟩ := tlsNextSlot_eq history
    exact ⟨calls, allocations⟩
  reads := by
    rintro past t index result future rfl
    exact keTlsGetValue_eq history

/-- Two threads use one slot. -/
def sharedSlotTrace : List TlsLabel :=
  [.keTlsAlloc 0 0, .keTlsSetValue 0 0 7, .keTlsSetValue 1 0 8, .keTlsFree 1 0,
    .keTlsGetValue 0 0 7, .keTlsGetValue 2 0 0]

theorem tls_sound_sharedSlot : TlsSound sharedSlotTrace := by
  let allocated : TlsState := ⟨1, fun _ => 0⟩
  let stored := (allocated.keTlsSetValue 0 0 7).keTlsSetValue 1 0 8
  have own : stored.keTlsGetValue 0 0 = 7 := by decide
  have fresh : stored.keTlsGetValue 2 0 = 0 := by decide
  have stores : tlsSystem.Run ⟨0, fun _ => 0⟩ (sharedSlotTrace.take 4) stored :=
    (((Transition.System.Run.refl.tail (TlsStep.keTlsAlloc 0)).tail
      (TlsStep.keTlsSetValue 0 0 7)).tail (TlsStep.keTlsSetValue 1 0 8)).tail
      (TlsStep.keTlsFree 1 0)
  have reads : tlsSystem.Run ⟨0, fun _ => 0⟩ sharedSlotTrace stored :=
    (stores.tail (own ▸ TlsStep.keTlsGetValue 0 0)).tail (fresh ▸ TlsStep.keTlsGetValue 2 0)
  exact tls_sound ⟨_, rfl, reads⟩

end BumpinHost.Kernel
