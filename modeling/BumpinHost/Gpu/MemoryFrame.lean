import BumpinHost.Gpu.Frame
import BumpinHost.Gpu.ScanRuns
import BumpinHost.Kernel.FunctionTable
import BumpinHost.Library.Transition
import Mathlib.Data.Set.Basic

/-!
# What the pump leaves alone

Of guest memory the scanner writes fences only, and the two high bits it sets in the
address of a fence keep every fence in the physical window.  The pump adds the read
pointer.  So the image, the function table behind it and everything else below the
window are as they were, however the pump and the guest take turns.
-/

namespace BumpinHost.Gpu

open Memory Kernel

variable {Guest : Type} {env : Env Guest} {kept : Set Nat}

/-- Start of the window that fences are written to. -/
def kPhysicalWindow : Nat := 0xA0000000

/-- The read pointer is published outside the kept bytes, if it is published. -/
def PublishesOutside (kept : Set Nat) (m : Machine Guest) : Prop :=
  m.rptrWriteBackAddr ≠ 0 → ∀ position ∈ kept,
    position < m.rptrWriteBackAddr.toNat ∨ m.rptrWriteBackAddr.toNat + 4 ≤ position

/-- The kept bytes stay as they are, and so does that the read pointer is published
elsewhere. -/
structure Spares (kept : Set Nat) (before after : Machine Guest) : Prop where
  bytes : ∀ position ∈ kept, after.mem position = before.mem position
  pointer : PublishesOutside kept before → PublishesOutside kept after

namespace Spares

theorem refl (m : Machine Guest) : Spares kept m m := ⟨fun _ _ => rfl, id⟩

theorem trans {first second third : Machine Guest} (left : Spares kept first second)
    (right : Spares kept second third) : Spares kept first third where
  bytes position member := (right.bytes position member).trans (left.bytes position member)
  pointer outside := right.pointer (left.pointer outside)

/-- Steps of the tracer that touch neither memory nor the address of the read pointer. -/
theorem of_eq {before after : Machine Guest} (mem : after.mem = before.mem)
    (addr : after.rptrWriteBackAddr = before.rptrWriteBackAddr) : Spares kept before after where
  bytes position _ := by rw [mem]
  pointer outside := by
    unfold PublishesOutside
    rw [addr]
    exact outside

end Spares

/-- The two high bits that are set in an address put it in the window. -/
theorem le_or_window (addr : Word) : kPhysicalWindow ≤ (addr ||| 0xA0000000).toNat := by
  rw [BitVec.toNat_or]
  exact Nat.right_le_or

theorem drawIndx2_leaves (m : Machine Guest) (bufferAddr offsetBytes count : Word) :
    (drawIndx2 env m bufferAddr offsetBytes count).mem = m.mem ∧
      (drawIndx2 env m bufferAddr offsetBytes count).rptrWriteBackAddr =
        m.rptrWriteBackAddr := by
  unfold drawIndx2
  dsimp only
  split <;> exact ⟨rfl, rfl⟩

/-- What the body of the loop does to the machine: it leaves memory alone, writes a fence,
runs guest code, or scans a nested buffer. -/
theorem executePacket_cases
    {nested : Machine Guest → Word → Word → Int → Option (ScanOutcome Guest)}
    {m : Machine Guest} {bufferAddr offsetBytes header : Word} {depth : Int}
    {body : Machine Guest × ScanTrace}
    (executed : executePacket env nested m bufferAddr offsetBytes header depth = some body) :
    (body.1.mem = m.mem ∧ body.1.rptrWriteBackAddr = m.rptrWriteBackAddr) ∨
      body.1 = executeEventWriteShd m bufferAddr offsetBytes ∨
      body.1 = (executeInterrupt env m bufferAddr offsetBytes).1 ∨
      ∃ targetAddr targetSize inner,
        nested m targetAddr targetSize (depth + 1) = some inner ∧ body.1 = inner.machine := by
  unfold executePacket at executed
  by_cases filler : packetType header = 0x2
  · rw [if_pos filler] at executed
    obtain rfl := Option.some.inj executed
    exact .inl ⟨rfl, rfl⟩
  rw [if_neg filler] at executed
  by_cases registers : packetType header = 0x0
  · rw [if_pos registers] at executed
    obtain rfl := Option.some.inj executed
    exact .inl ⟨rfl, rfl⟩
  rw [if_neg registers] at executed
  unfold executeType3 at executed
  dsimp only at executed
  split_ifs at executed
  case pos =>
    obtain ⟨inner, scanned, rfl⟩ := Option.map_eq_some_iff.mp executed
    exact .inr (.inr (.inr ⟨_, _, inner, scanned, rfl⟩))
  all_goals obtain rfl := Option.some.inj executed
  all_goals first
    | exact .inl ⟨rfl, rfl⟩
    | exact .inr (.inl rfl)
    | exact .inr (.inr (.inl rfl))
    | exact .inl (drawIndx2_leaves ..)

theorem spares_executeEventWriteShd (low : ∀ position ∈ kept, position < kPhysicalWindow)
    (m : Machine Guest) (bufferAddr offsetBytes : Word) :
    Spares kept m (executeEventWriteShd m bufferAddr offsetBytes) where
  bytes position member := by
    have below := low position member
    have above := le_or_window (loadU32 m.mem (bufferAddr + offsetBytes + 8) &&& ~~~0x3)
    exact storeU32_of_outside _ (.inl (below.trans_le above))
  pointer := id

/-- Guest code that a callback runs spares the kept bytes. -/
def CallbacksSpare (env : Env Guest) (kept : Set Nat) : Prop :=
  ∀ target m, Spares kept m (env.callIndirect target m)

theorem spares_executeInterrupt (callbacks : CallbacksSpare env kept) (m : Machine Guest)
    (bufferAddr offsetBytes : Word) :
    Spares kept m (executeInterrupt env m bufferAddr offsetBytes).1 := by
  unfold executeInterrupt
  dsimp only
  split
  · have interrupted : Spares kept m
        { m with ctx := ⟨1, m.graphicsInterruptContext.setWidth 64⟩ } := .of_eq rfl rfl
    exact interrupted.trans (callbacks m.graphicsInterruptCallback _)
  · exact .refl m

/-- The induction is on the fuel, which a nested scan and the rest of a scan have less of. -/
theorem spares_scanBuffer (low : ∀ position ∈ kept, position < kPhysicalWindow)
    (callbacks : CallbacksSpare env kept) {fuel : Nat} {m : Machine Guest}
    {bufferAddr offsetBytes sizeBytes : Word} {depth : Int} {outcome : ScanOutcome Guest}
    (scanned : scanBuffer env fuel m bufferAddr offsetBytes sizeBytes depth = some outcome) :
    Spares kept m outcome.machine := by
  induction fuel generalizing m bufferAddr offsetBytes sizeBytes depth outcome with
  | zero => cases scanned
  | succ fuel ih =>
      obtain ⟨-, rfl⟩ | ⟨header, body, rest, -, executed, continued, rfl⟩ :=
        scanBuffer_cases env scanned
      · exact .refl m
      · have continues : Spares kept body.1 rest.machine := ih continued
        refine Spares.trans ?_ continues
        obtain ⟨mem, addr⟩ | fence | guest | ⟨_, _, inner, nested, same⟩ :=
          executePacket_cases executed
        · exact .of_eq mem addr
        · rw [fence]
          exact spares_executeEventWriteShd low ..
        · rw [guest]
          exact spares_executeInterrupt callbacks ..
        · rw [same]
          exact ih nested

theorem spares_scanRing (low : ∀ position ∈ kept, position < kPhysicalWindow)
    (callbacks : CallbacksSpare env kept) {fuel : Nat} {m : Machine Guest}
    {outcome : ScanOutcome Guest} (scanned : scanRing env fuel m = some outcome) :
    Spares kept m outcome.machine := by
  obtain ⟨tail, tailScanned, rest⟩ := Option.bind_eq_some_iff.mp scanned
  have first := spares_scanBuffer low callbacks tailScanned
  split at rest
  · obtain ⟨head, headScanned, rfl⟩ := Option.map_eq_some_iff.mp rest
    have second : Spares kept tail.machine head.machine :=
      spares_scanBuffer low callbacks headScanned
    exact first.trans second
  · obtain rfl := Option.some.inj rest
    exact first

theorem spares_scanSystemCommandBuffer (low : ∀ position ∈ kept, position < kPhysicalWindow)
    (callbacks : CallbacksSpare env kept) {fuel : Nat} {m : Machine Guest}
    {after : Machine Guest × ScanTrace}
    (scanned : scanSystemCommandBuffer env fuel m = some after) : Spares kept m after.1 := by
  unfold scanSystemCommandBuffer at scanned
  split at scanned
  · obtain ⟨outcome, bufferScanned, rfl⟩ := Option.map_eq_some_iff.mp scanned
    exact (spares_scanBuffer low callbacks bufferScanned).trans (.of_eq rfl rfl)
  · obtain rfl := Option.some.inj scanned
    exact .refl m

/-- The read pointer is published outside the kept bytes. -/
theorem spares_writeReadPointer (m : Machine Guest) (newOffset : Word)
    (outside : PublishesOutside kept m) : Spares kept m (writeReadPointer m newOffset) := by
  unfold writeReadPointer
  split
  case isTrue published =>
      refine ⟨?_, id⟩
      intro position member
      exact storeU32_of_outside _ (outside published position member)
  case isFalse => exact .refl m

theorem spares_pumpIteration (low : ∀ position ∈ kept, position < kPhysicalWindow)
    (callbacks : CallbacksSpare env kept) {fuel : Nat} {m : Machine Guest} {writePointer : Word}
    {after : Machine Guest × ScanTrace} (outside : PublishesOutside kept m)
    (iterated : pumpIteration env fuel m writePointer = some after) : Spares kept m after.1 := by
  unfold pumpIteration at iterated
  split at iterated
  · obtain ⟨ring, ringScanned, rest⟩ := Option.bind_eq_some_iff.mp iterated
    obtain ⟨system, systemScanned, rfl⟩ := Option.map_eq_some_iff.mp rest
    have begun : Spares kept m (beginFrame (observeWritePointer m writePointer)) := by
      rw [observeWritePointer_eq]
      exact .of_eq rfl rfl
    have finished : Spares kept ring.machine (finishRing ring.machine ring.offset) :=
      .of_eq rfl rfl
    have scanned : Spares kept m system.1 :=
      ((begun.trans (spares_scanRing low callbacks ringScanned)).trans finished).trans
        (spares_scanSystemCommandBuffer low callbacks systemScanned)
    exact scanned.trans (spares_writeReadPointer _ _ (scanned.pointer outside))
  · obtain rfl := Option.some.inj iterated
    exact .refl m

inductive PumpLabel
  | pump (writePointer : Word)
  | otherCode
deriving DecidableEq, Repr

/-- The pump iterates, with whatever it reads as write pointer, and other code of the
process runs in between, which spares the kept bytes. -/
inductive PumpStep (env : Env Guest) (kept : Set Nat) :
    Machine Guest → PumpLabel → Machine Guest → Prop
  | pump {m after : Machine Guest} {fuel : Nat} {writePointer : Word} {trace : ScanTrace} :
      pumpIteration env fuel m writePointer = some (after, trace) →
      PumpStep env kept m (.pump writePointer) after
  | otherCode {m after : Machine Guest} :
      Spares kept m after → PumpStep env kept m .otherCode after

def pumpSystem (env : Env Guest) (kept : Set Nat) :
    Transition.System (Machine Guest) PumpLabel where
  init := PublishesOutside kept
  step := PumpStep env kept

theorem spares_run (low : ∀ position ∈ kept, position < kPhysicalWindow)
    (callbacks : CallbacksSpare env kept) {start final : Machine Guest} {trace : List PumpLabel}
    (outside : PublishesOutside kept start)
    (run : (pumpSystem env kept).Run start trace final) : Spares kept start final := by
  induction run with
  | refl => exact .refl start
  | tail _ step ih =>
      refine ih.trans ?_
      cases step with
      | pump iterated => exact spares_pumpIteration low callbacks (ih.pointer outside) iterated
      | otherCode spares => exact spares

/-- In every run of the pump and of code that spares a set of bytes below the physical
window, with the read pointer published outside the set, each byte of the set stays as it
was; so a function table in the set stays the one that was installed. -/
theorem pump_sparesLowMemory (env : Env Guest) (kept : Set Nat)
    (low : ∀ position ∈ kept, position < kPhysicalWindow)
    (callbacks : CallbacksSpare env kept) {start final : Machine Guest} {trace : List PumpLabel}
    (outside : PublishesOutside kept start)
    (run : (pumpSystem env kept).Run start trace final) :
    (∀ position ∈ kept, final.mem position = start.mem position) ∧
      ∀ (config : PpcConfig) mappings, (∀ position, config.InTable position → position ∈ kept) →
        TableInstalled config mappings start.mem → TableInstalled config mappings final.mem := by
  have spares := spares_run low callbacks outside run
  refine ⟨spares.bytes, ?_⟩
  rintro config mappings within ⟨zeros, zero, same⟩
  refine ⟨zeros, zero, ?_⟩
  intro position inTable
  rw [spares.bytes position (within position inTable), same position inTable]

/-- A ring that holds one fence, which the guest gave an address at the bottom of memory. -/
def fencingRing : Machine Unit :=
  { Machine.initial
      (storeU32 (storeU32 (storeU32 (fun _ => 0) 0xB0000000 0xC0025800)
        0xB0000008 0x1000) 0xB000000C 7) () with
    ringBufferBase := 0xB0000000
    ringBufferSize := 0x1000 }

/-- The fence lands in the window, and everything below stays zero. -/
theorem pump_sparesLowMemory_fencingRing :
    ∃ final, (pumpSystem Env.idle (Set.Iio kPhysicalWindow)).Run fencingRing [.pump 4] final ∧
      loadU32 final.mem 0xA0001000 = 7 ∧
      ∀ position < kPhysicalWindow, final.mem position = 0 := by
  have pumped : ((pumpIteration Env.idle 4 fencingRing 4).map fun after =>
      loadU32 after.1.mem 0xA0001000) = some 7 := by decide +kernel
  obtain ⟨⟨final, trace⟩, iterated, fence⟩ := Option.map_eq_some_iff.mp pumped
  have run : (pumpSystem Env.idle (Set.Iio kPhysicalWindow)).Run fencingRing [.pump 4] final :=
    .single (.pump iterated)
  refine ⟨final, run, fence, ?_⟩
  intro position below
  have same := (pump_sparesLowMemory Env.idle (Set.Iio kPhysicalWindow)
    (fun _ member => member) (fun _ m => .refl m) (fun published => absurd rfl published)
    run).1 position below
  rw [same]
  unfold kPhysicalWindow at below
  have zero : ∀ {mem : Memory} {addr value : Word}, 0xB0000000 ≤ addr.toNat →
      storeU32 mem addr value position = mem position := fun above =>
    storeU32_of_outside _ (.inl (by omega))
  exact (zero (by decide)).trans ((zero (by decide)).trans (zero (by decide)))

end BumpinHost.Gpu
