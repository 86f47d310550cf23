import BumpinHost.Gpu.PacketRoundTrip
import BumpinHost.Library.StoreLoops

/-!
# What `VdSwap` writes for the scanner

The export fills the caller's buffer with one packet that writes the first six dwords of
the fetch constants, and with filler behind it.  It also clears two fixed words, and
calls the interrupt callback in between.  The scanner reads the buffer back as these six
register writes and does nothing else, whatever the six dwords are.
-/

namespace BumpinHost.Gpu

open BumpinHost.Shader Memory

def kDisplayFieldPlus92 : Word := 0x826E216C
def kRegShaderConstantFetch00_0 : Word := 0x4800
def kFetchDwordCount : Word := 6
def kGpuManagerSelf : Word := 0xA0009900

/-- The packet that `VdSwap` writes to a buffer that is not null. -/
def swapBufferContent (mem : Memory) (swapBufferPtr fetchPtr : Word) : Memory :=
  let mem := storeLoop mem swapBufferPtr (fun _ _ => 0) 0 64
  let type0Header :=
    ((kFetchDwordCount - 1) &&& 0x3FFF) <<< 16 ||| (kRegShaderConstantFetch00_0 &&& 0x7FFF)
  let mem := storeU32 mem (swapBufferPtr + 0) type0Header
  let mem := storeLoop mem (swapBufferPtr + 4)
    (fun mem i => if fetchPtr ≠ 0 then loadU32 mem (fetchPtr + i * 4) else 0)
    0 kFetchDwordCount.toNat
  storeLoop mem swapBufferPtr (fun _ _ => 0x80000000) (1 + kFetchDwordCount.toNat) 57

section Swap

variable {Guest : Type} (env : Env Guest)

/-- The part of `VdSwap` in front of the interrupt callback. -/
def vdSwapWrites (m : Machine Guest) : Machine Guest :=
  let mem :=
    if loadU32 m.mem kDisplayFieldPlus92 ≠ 0 then storeU32 m.mem kDisplayFieldPlus92 0
    else m.mem
  let swapBufferPtr := m.ctx.r3.setWidth 32
  let fetchPtr := m.ctx.r4.setWidth 32
  { m with
    mem := if swapBufferPtr ≠ 0 then swapBufferContent mem swapBufferPtr fetchPtr else mem }

/-- The vblank interrupt, if a callback is registered. -/
def vdSwapInterrupt (m : Machine Guest) : Machine Guest :=
  let callback := m.graphicsInterruptCallback
  if callback ≠ 0 then
    env.callIndirect callback
      { m with ctx := ⟨0, m.graphicsInterruptContext.setWidth 64⟩ }
  else
    m

/-- The export.  The signal to the renderer is left out. -/
def vdSwap (m : Machine Guest) : Machine Guest :=
  let m := vdSwapInterrupt env (vdSwapWrites m)
  { m with
    mem := storeU32 m.mem (kGpuManagerSelf + 10868) 0
    frameDrawList := m.frameDrawList.swapReady }

end Swap

/-- The buffer lies below the end of the address space, the six dwords do too, and do not
overlap the buffer.  The word cleared first is not one of the six dwords, and the word
cleared last does not lie in the buffer. -/
structure SwapArguments (swapBufferPtr fetchPtr : Word) : Prop where
  nonzero : swapBufferPtr ≠ 0
  bufferFits : swapBufferPtr.toNat + 256 ≤ 2 ^ 32
  fetchFits : fetchPtr ≠ 0 → fetchPtr.toNat + 24 ≤ 2 ^ 32
  apart : fetchPtr ≠ 0 → fetchPtr.toNat + 24 ≤ swapBufferPtr.toNat ∨
    swapBufferPtr.toNat + 256 ≤ fetchPtr.toNat
  displayField : fetchPtr ≠ 0 → kDisplayFieldPlus92.toNat + 4 ≤ fetchPtr.toNat ∨
    fetchPtr.toNat + 24 ≤ kDisplayFieldPlus92.toNat
  swapCounter : (kGpuManagerSelf + 10868).toNat + 4 ≤ swapBufferPtr.toNat ∨
    swapBufferPtr.toNat + 256 ≤ (kGpuManagerSelf + 10868).toNat

/-- The dword at position `i` behind `fetchPtr`; null stands for zeros. -/
def fetchedDword (mem : Memory) (fetchPtr : Word) (i : Nat) : Word :=
  if fetchPtr ≠ 0 then loadU32 mem (fetchPtr + BitVec.ofNat 32 i * 4) else 0

def fetchedDwords (mem : Memory) (fetchPtr : Word) : List Word :=
  (List.range 6).map (fetchedDword mem fetchPtr)

theorem length_fetchedDwords (mem : Memory) (fetchPtr : Word) :
    (fetchedDwords mem fetchPtr).length = 6 := by
  unfold fetchedDwords
  rw [List.length_map, List.length_range]

/-- The write of the six registers. -/
def fetchPacket (mem : Memory) (fetchPtr : Word) : Packet :=
  .type0 0x4800 false
    ⟨fetchedDwords mem fetchPtr, by simp [length_fetchedDwords],
      by simp [length_fetchedDwords]⟩ (.inl (by decide))

/-- The register write, and the filler behind it. -/
def swapPackets (mem : Memory) (fetchPtr : Word) : List Packet :=
  fetchPacket mem fetchPtr :: List.replicate 57 (.type2 0)

theorem encode_fetchPacket (mem : Memory) (fetchPtr : Word) :
    (fetchPacket mem fetchPtr).encode = 0x00054800 :: fetchedDwords mem fetchPtr := by
  have value : (fetchPacket mem fetchPtr).headerValue =
      ((fetchedDwords mem fetchPtr).length - 1) * 2 ^ 16 + 0 * 2 ^ 15 + 0x4800 := rfl
  have header : (fetchPacket mem fetchPtr).header = 0x00054800 := by
    rw [Packet.header, value, length_fetchedDwords]
    rfl
  rw [Packet.encode, header]
  rfl

theorem encodePackets_filler (count : Nat) :
    encodePackets (List.replicate count (.type2 0)) = List.replicate count 0x80000000 := by
  induction count with
  | zero => rfl
  | succ count ih =>
      rw [List.replicate_succ, List.replicate_succ, encodePackets, List.flatMap_cons,
        ← encodePackets, ih]
      rfl

theorem encodePackets_swapPackets (mem : Memory) (fetchPtr : Word) :
    encodePackets (swapPackets mem fetchPtr) =
      0x00054800 :: (fetchedDwords mem fetchPtr ++ List.replicate 57 0x80000000) := by
  rw [swapPackets, encodePackets, List.flatMap_cons, ← encodePackets, encodePackets_filler,
    encode_fetchPacket]
  rfl

theorem length_swapPackets (mem : Memory) (fetchPtr : Word) :
    (encodePackets (swapPackets mem fetchPtr)).length = 64 := by
  rw [encodePackets_swapPackets, List.length_cons, List.length_append,
    length_fetchedDwords, List.length_replicate]

section Content

variable {mem mem' : Memory} {swapBufferPtr fetchPtr : Word}

/-- Memory that differs from another one inside the buffer only holds the same six
dwords. -/
theorem fetchedDword_congr
    (fetchFits : fetchPtr ≠ 0 → fetchPtr.toNat + 24 ≤ 2 ^ 32)
    (same : fetchPtr ≠ 0 → ∀ position, fetchPtr.toNat ≤ position →
      position < fetchPtr.toNat + 24 → mem' position = mem position) {i : Nat} (small : i < 6) :
    fetchedDword mem' fetchPtr i = fetchedDword mem fetchPtr i := by
  unfold fetchedDword
  by_cases given : fetchPtr ≠ 0
  · rw [if_pos given, if_pos given]
    have fits := fetchFits given
    have place : (fetchPtr + BitVec.ofNat 32 i * 4).toNat = fetchPtr.toNat + 4 * i :=
      toNat_wordAddress (by omega)
    apply loadU32_congr
    intro position lower upper
    exact same given position (by omega) (by omega)
  · rw [if_neg given, if_neg given]

/-- The buffer with its header, before the six dwords. -/
def swapBufferHeader (mem : Memory) (swapBufferPtr : Word) : Memory :=
  storeU32 (storeLoop mem swapBufferPtr (fun _ _ => 0) 0 64) swapBufferPtr 0x00054800

/-- The buffer with the packet, before the filler. -/
def swapBufferPacket (mem : Memory) (swapBufferPtr fetchPtr : Word) : Memory :=
  storeLoop (swapBufferHeader mem swapBufferPtr) (swapBufferPtr + 4)
    (fun mem i => if fetchPtr ≠ 0 then loadU32 mem (fetchPtr + i * 4) else 0) 0 6

theorem swapBufferContent_eq (mem : Memory) (swapBufferPtr fetchPtr : Word) :
    swapBufferContent mem swapBufferPtr fetchPtr =
      storeLoop (swapBufferPacket mem swapBufferPtr fetchPtr) swapBufferPtr
        (fun _ _ => 0x80000000) 7 57 := by
  have header : (kFetchDwordCount - 1 &&& 0x3FFF) <<< 16 |||
      (kRegShaderConstantFetch00_0 &&& 0x7FFF) = (0x00054800 : Word) := by decide
  have start : swapBufferPtr + 0 = swapBufferPtr := BitVec.add_zero swapBufferPtr
  unfold swapBufferContent swapBufferPacket swapBufferHeader
  dsimp only
  rw [header, start]
  rfl

theorem swapBufferHeader_outside (bufferFits : swapBufferPtr.toNat + 256 ≤ 2 ^ 32) :
    AgreeOutside swapBufferPtr 0 64 mem (swapBufferHeader mem swapBufferPtr) := by
  intro position outside
  have cleared : AgreeOutside swapBufferPtr 0 64 mem
      (storeLoop mem swapBufferPtr (fun _ _ => 0) 0 64) := storeLoop_outside bufferFits
  unfold swapBufferHeader
  rw [storeU32_of_outside _ (by omega)]
  exact cleared position outside

/-- Null or not, the packet's loop reads what was behind the pointer at the start. -/
theorem loadU32_swapBufferPacket (bufferFits : swapBufferPtr.toNat + 256 ≤ 2 ^ 32)
    (fetchFits : fetchPtr ≠ 0 → fetchPtr.toNat + 24 ≤ 2 ^ 32)
    (apart : fetchPtr ≠ 0 → fetchPtr.toNat + 24 ≤ swapBufferPtr.toNat ∨
      swapBufferPtr.toNat + 256 ≤ fetchPtr.toNat) {i : Nat} (small : i < 6) :
    loadU32 (swapBufferPacket mem swapBufferPtr fetchPtr)
      (swapBufferPtr + 4 + BitVec.ofNat 32 i * 4) = fetchedDword mem fetchPtr i := by
  have four : (swapBufferPtr + 4).toNat = swapBufferPtr.toNat + 4 :=
    toNat_wordAddress (i := 1) (by omega)
  refine loadU32_storeLoop (by omega) ?_ (Nat.zero_le i) (by omega)
  intro mem' j agree _ smallJ
  refine fetchedDword_congr fetchFits ?_ (by omega)
  intro given position lower upper
  have clear := apart given
  rw [agree position (by omega)]
  exact swapBufferHeader_outside bufferFits position (by omega)

/-- Only the filler is stored behind the packet. -/
theorem swapBufferContent_outside (bufferFits : swapBufferPtr.toNat + 256 ≤ 2 ^ 32) :
    AgreeOutside swapBufferPtr 7 57 (swapBufferPacket mem swapBufferPtr fetchPtr)
      (swapBufferContent mem swapBufferPtr fetchPtr) := by
  rw [swapBufferContent_eq]
  exact storeLoop_outside bufferFits

theorem loadU32_swapBufferContent_header (bufferFits : swapBufferPtr.toNat + 256 ≤ 2 ^ 32) :
    loadU32 (swapBufferContent mem swapBufferPtr fetchPtr) swapBufferPtr = 0x00054800 := by
  have four : (swapBufferPtr + 4).toNat = swapBufferPtr.toNat + 4 :=
    toNat_wordAddress (i := 1) (by omega)
  have packet : AgreeOutside (swapBufferPtr + 4) 0 6 (swapBufferHeader mem swapBufferPtr)
      (swapBufferPacket mem swapBufferPtr fetchPtr) := storeLoop_outside (by omega)
  have header : loadU32 (swapBufferHeader mem swapBufferPtr) swapBufferPtr = 0x00054800 :=
    loadU32_storeU32_same _ _ _
  rw [← header]
  apply loadU32_congr
  intro position lower upper
  rw [swapBufferContent_outside bufferFits position (by omega), packet position (by omega)]

/-- The six dwords lie behind the header. -/
theorem loadU32_swapBufferContent_fetched (bufferFits : swapBufferPtr.toNat + 256 ≤ 2 ^ 32)
    (fetchFits : fetchPtr ≠ 0 → fetchPtr.toNat + 24 ≤ 2 ^ 32)
    (apart : fetchPtr ≠ 0 → fetchPtr.toNat + 24 ≤ swapBufferPtr.toNat ∨
      swapBufferPtr.toNat + 256 ≤ fetchPtr.toNat) {i : Nat} (small : i < 6) :
    loadU32 (swapBufferContent mem swapBufferPtr fetchPtr)
      (swapBufferPtr + BitVec.ofNat 32 (i + 1) * 4) = fetchedDword mem fetchPtr i := by
  have four : (swapBufferPtr + 4).toNat = swapBufferPtr.toNat + 4 :=
    toNat_wordAddress (i := 1) (by omega)
  have next : swapBufferPtr + BitVec.ofNat 32 (i + 1) * 4 =
      swapBufferPtr + 4 + BitVec.ofNat 32 i * 4 := by
    apply BitVec.eq_of_toNat_eq
    rw [toNat_wordAddress (by omega), toNat_wordAddress (by omega)]
    omega
  rw [← loadU32_swapBufferPacket bufferFits fetchFits apart small, ← next]
  apply loadU32_congr
  intro position lower upper
  rw [toNat_wordAddress (by omega)] at lower upper
  exact swapBufferContent_outside bufferFits position (by omega)

/-- The filler lies behind the six dwords. -/
theorem loadU32_swapBufferContent_filler (bufferFits : swapBufferPtr.toNat + 256 ≤ 2 ^ 32)
    {i : Nat} (behind : 7 ≤ i) (small : i < 64) :
    loadU32 (swapBufferContent mem swapBufferPtr fetchPtr)
      (swapBufferPtr + BitVec.ofNat 32 i * 4) = 0x80000000 := by
  rw [swapBufferContent_eq]
  exact loadU32_storeLoop_const bufferFits behind small

/-- The dwords of the buffer. -/
theorem swapBufferContent_encoded (bufferFits : swapBufferPtr.toNat + 256 ≤ 2 ^ 32)
    (fetchFits : fetchPtr ≠ 0 → fetchPtr.toNat + 24 ≤ 2 ^ 32)
    (apart : fetchPtr ≠ 0 → fetchPtr.toNat + 24 ≤ swapBufferPtr.toNat ∨
      swapBufferPtr.toNat + 256 ≤ fetchPtr.toNat) :
    Encoded (swapBufferContent mem swapBufferPtr fetchPtr) swapBufferPtr 0
      (encodePackets (swapPackets mem fetchPtr)) := by
  rw [encodePackets_swapPackets]
  intro k inBuffer
  rw [List.length_cons, List.length_append, length_fetchedDwords,
    List.length_replicate] at inBuffer
  have place : swapBufferPtr + BitVec.ofNat 32 (0 + 4 * k) =
      swapBufferPtr + BitVec.ofNat 32 k * 4 := by
    apply BitVec.eq_of_toNat_eq
    rw [toNat_wordAddress (by omega), BitVec.toNat_add, BitVec.toNat_ofNat]
    omega
  rw [place]
  cases k with
  | zero =>
      have start : swapBufferPtr + BitVec.ofNat 32 0 * 4 = swapBufferPtr :=
        BitVec.add_zero swapBufferPtr
      rw [start, List.getElem_cons_zero]
      exact loadU32_swapBufferContent_header bufferFits
  | succ k =>
      rw [List.getElem_cons_succ]
      by_cases fetched : k < 6
      · have listed : k < (fetchedDwords mem fetchPtr).length := by
          rw [length_fetchedDwords]
          exact fetched
        have value : (fetchedDwords mem fetchPtr)[k] = fetchedDword mem fetchPtr k := by
          simp [fetchedDwords]
        rw [List.getElem_append_left listed, value]
        exact loadU32_swapBufferContent_fetched bufferFits fetchFits apart fetched
      · rw [List.getElem_append_right (by rw [length_fetchedDwords]; omega),
          List.getElem_replicate]
        exact loadU32_swapBufferContent_filler bufferFits (by omega) (by omega)

end Content

theorem Encoded.congr {mem mem' : Memory} {bufferAddr : Word} {dwords : List Word}
    (encoded : Encoded mem bufferAddr 0 dwords)
    (fits : bufferAddr.toNat + 4 * dwords.length ≤ 2 ^ 32)
    (same : ∀ position, bufferAddr.toNat ≤ position →
      position < bufferAddr.toNat + 4 * dwords.length → mem' position = mem position) :
    Encoded mem' bufferAddr 0 dwords := by
  intro k inside
  have place : (bufferAddr + BitVec.ofNat 32 (0 + 4 * k)).toNat = bufferAddr.toNat + 4 * k := by
    rw [BitVec.toNat_add, BitVec.toNat_ofNat]
    omega
  rw [← encoded k inside]
  apply loadU32_congr
  intro position lower upper
  exact same position (by omega) (by omega)

section Swap

variable {Guest : Type} {env : Env Guest} {m : Machine Guest}

/-- The interrupt callback does not write to the buffer. -/
def CallbackSparesBuffer (env : Env Guest) (m : Machine Guest) : Prop :=
  ∀ position, (m.ctx.r3.setWidth 32 : Word).toNat ≤ position →
    position < (m.ctx.r3.setWidth 32 : Word).toNat + 256 →
      (vdSwapInterrupt env (vdSwapWrites m)).mem position = (vdSwapWrites m).mem position

/-- Clearing the display field does not change the six dwords. -/
theorem fetchedDwords_displayField {swapBufferPtr fetchPtr : Word}
    (arguments : SwapArguments swapBufferPtr fetchPtr) (mem : Memory) :
    fetchedDwords (if loadU32 mem kDisplayFieldPlus92 ≠ 0 then
        storeU32 mem kDisplayFieldPlus92 0 else mem) fetchPtr =
      fetchedDwords mem fetchPtr := by
  unfold fetchedDwords
  apply List.map_congr_left
  intro i small
  refine fetchedDword_congr arguments.fetchFits ?_ (List.mem_range.mp small)
  intro given position lower upper
  have clear := arguments.displayField given
  split
  · exact storeU32_of_outside _ (by omega)
  · rfl

theorem swapPackets_congr {mem mem' : Memory} {fetchPtr : Word}
    (same : fetchedDwords mem' fetchPtr = fetchedDwords mem fetchPtr) :
    swapPackets mem' fetchPtr = swapPackets mem fetchPtr := by
  unfold swapPackets fetchPacket
  simp only [same]

/-- `VdSwap` leaves the packets with the six dwords from before in the buffer. -/
theorem vdSwap_encoded
    (arguments : SwapArguments (m.ctx.r3.setWidth 32) (m.ctx.r4.setWidth 32))
    (spares : CallbackSparesBuffer env m) :
    Encoded (vdSwap env m).mem (m.ctx.r3.setWidth 32) 0
      (encodePackets (swapPackets m.mem (m.ctx.r4.setWidth 32))) := by
  have written : Encoded (vdSwapWrites m).mem (m.ctx.r3.setWidth 32) 0
      (encodePackets (swapPackets m.mem (m.ctx.r4.setWidth 32))) := by
    rw [← swapPackets_congr (fetchedDwords_displayField arguments m.mem)]
    unfold vdSwapWrites
    dsimp only
    rw [if_pos arguments.nonzero]
    exact swapBufferContent_encoded arguments.bufferFits arguments.fetchFits arguments.apart
  have clear := arguments.swapCounter
  refine written.congr ?_ ?_
  · rw [length_swapPackets]
    exact arguments.bufferFits
  · intro position lower upper
    rw [length_swapPackets] at upper
    unfold vdSwap
    dsimp only
    rw [storeU32_of_outside _ (by omega)]
    exact spares position lower upper

end Swap

theorem registerWrites_filler (count : Nat) :
    registerWrites (List.replicate count (.type2 0)) = [] := by
  induction count with
  | zero => rfl
  | succ count ih =>
      rw [List.replicate_succ, registerWrites, List.flatMap_cons, ← registerWrites, ih]
      rfl

/-- Six registers in a row. -/
theorem registerWrites_swapPackets (mem : Memory) (fetchPtr : Word) :
    registerWrites (swapPackets mem fetchPtr) =
      (List.range 6).map fun i => (0x4800 + i, fetchedDword mem fetchPtr i) := by
  rw [swapPackets, registerWrites, List.flatMap_cons, ← registerWrites,
    registerWrites_filler, List.append_nil]
  rfl

/-- A value after writes to registers in a row. -/
theorem valueAfter_row (base count register : Nat) (values : Nat → Word) (value : Word) :
    valueAfter register ((List.range count).map fun i => (base + i, values i)) value =
      if base ≤ register ∧ register < base + count then values (register - base)
      else value := by
  induction count with
  | zero =>
      rw [if_neg (by omega)]
      rfl
  | succ count ih =>
      unfold valueAfter at ih ⊢
      rw [List.range_succ, List.map_append, List.foldl_append, ih, List.map_singleton,
        List.foldl_cons, List.foldl_nil]
      by_cases last : base + count = register
      · subst last
        rw [if_pos rfl, if_pos (by omega), Nat.add_sub_cancel_left]
      · rw [if_neg last]
        by_cases inRow : base ≤ register ∧ register < base + count
        · rw [if_pos inRow, if_pos (by omega)]
        · rw [if_neg inRow, if_neg (by omega)]

theorem loggedOutOfRange_applyWrites (state : GpuRegisterState) {writes : List (Nat × Word)}
    (inRange : ∀ write ∈ writes, write.1 < kRegisterCount) :
    (applyWrites state writes).loggedOutOfRange = state.loggedOutOfRange := by
  induction writes generalizing state with
  | nil => rfl
  | cons write writes ih =>
      have first := inRange write List.mem_cons_self
      have place : (BitVec.ofNat 32 write.1 : Word).toNat < kRegisterCount := by
        rw [BitVec.toNat_ofNat]
        exact lt_of_le_of_lt (Nat.mod_le _ _) first
      rw [applyWrites, List.foldl_cons, ← applyWrites,
        ih _ (fun later listed => inRange later (List.mem_cons_of_mem write listed))]
      unfold GpuRegisterState.writeRegister
      rw [dif_pos place]

/-- What two dwords of a fetch constant say. -/
def VertexFetchConstant.ofDwords (dword0 dword1 : Word) : VertexFetchConstant where
  type := dword0 &&& 0x3
  address := dword0 >>> 2
  endian := dword1 &&& 0x3
  size := (dword1 >>> 2) &&& 0xFFFFFF

/-- The registers after the scan: the six dwords, in order, and nothing else. -/
structure HoldsFetched (before after : GpuRegisterState) (fetched : Nat → Word) : Prop where
  fetched : ∀ i < 6, after.readRegister (BitVec.ofNat 32 (0x4800 + i)) = fetched i
  others : ∀ register < kRegisterCount, register < 0x4800 ∨ 0x4806 ≤ register →
    after.readRegister (BitVec.ofNat 32 register) =
      before.readRegister (BitVec.ofNat 32 register)
  logged : after.loggedOutOfRange = before.loggedOutOfRange

theorem holdsFetched_applyWrites (state : GpuRegisterState) (fetched : Nat → Word) :
    HoldsFetched state
      (applyWrites state ((List.range 6).map fun i => (0x4800 + i, fetched i))) fetched := by
  have inRange : ∀ write ∈ (List.range 6).map (fun i => (0x4800 + i, fetched i)),
      write.1 < kRegisterCount := by
    intro write listed
    obtain ⟨i, small, rfl⟩ := List.mem_map.mp listed
    have small := List.mem_range.mp small
    simp only [kRegisterCount]
    omega
  have after : ∀ register < kRegisterCount,
      (applyWrites state ((List.range 6).map fun i => (0x4800 + i, fetched i))).readRegister
          (BitVec.ofNat 32 register) =
        if 0x4800 ≤ register ∧ register < 0x4800 + 6 then fetched (register - 0x4800)
        else state.readRegister (BitVec.ofNat 32 register) := by
    intro register small
    rw [← valueAfter_row]
    refine readRegister_applyWrites state small fun write listed => ?_
    exact lt_trans (inRange write listed) (by decide)
  constructor
  · intro i small
    rw [after _ (by simp only [kRegisterCount]; omega), if_pos (by omega),
      Nat.add_sub_cancel_left]
  · intro register small outside
    rw [after _ small, if_neg (by omega)]
  · exact loggedOutOfRange_applyWrites state inRange

theorem HoldsFetched.getVertexFetchConstant {before after : GpuRegisterState}
    {fetched : Nat → Word} (holds : HoldsFetched before after fetched) {slot : Nat}
    (small : slot < 3) :
    after.getVertexFetchConstant (BitVec.ofNat 32 slot) =
      .ofDwords (fetched (2 * slot)) (fetched (2 * slot + 1)) := by
  have first := holds.fetched (2 * slot) (by omega)
  have second := holds.fetched (2 * slot + 1) (by omega)
  unfold GpuRegisterState.getVertexFetchConstant
  interval_cases slot
  all_goals
    rw [if_neg (by decide)]
    dsimp only
    exact congrArg₂ VertexFetchConstant.ofDwords first second

/-- Scanning the buffer that `VdSwap` was given reads the whole of it, sets the six
registers to the dwords that were behind the second pointer when `VdSwap` was called, so
that they are the first three fetch constants, and changes nothing else. -/
theorem scanBuffer_vdSwap {Guest : Type} (env : Env Guest) (m : Machine Guest)
    (arguments : SwapArguments (m.ctx.r3.setWidth 32) (m.ctx.r4.setWidth 32))
    (spares : CallbackSparesBuffer env m) (scanner : Machine Guest)
    (shared : scanner.mem = (vdSwap env m).mem) (depth : Int) :
    ∃ gpuState : GpuRegisterState,
      (∃ trace enough, ∀ fuel, enough ≤ fuel →
        scanBuffer env fuel scanner (m.ctx.r3.setWidth 32) 0 256 depth =
          some ⟨{ scanner with gpuState := gpuState }, 256, trace⟩) ∧
      HoldsFetched scanner.gpuState gpuState (fetchedDword m.mem (m.ctx.r4.setWidth 32)) ∧
      ∀ slot < 3, gpuState.getVertexFetchConstant (BitVec.ofNat 32 slot) =
        .ofDwords (fetchedDword m.mem (m.ctx.r4.setWidth 32) (2 * slot))
          (fetchedDword m.mem (m.ctx.r4.setWidth 32) (2 * slot + 1)) := by
  have holds := holdsFetched_applyWrites scanner.gpuState
    (fetchedDword m.mem (m.ctx.r4.setWidth 32))
  rw [← registerWrites_swapPackets] at holds
  refine ⟨_, ?_, holds, fun slot small => holds.getVertexFetchConstant small⟩
  have encoded := vdSwap_encoded arguments spares
  rw [← shared] at encoded
  have size : 4 * (encodePackets (swapPackets m.mem (m.ctx.r4.setWidth 32))).length = 256 := by
    rw [length_swapPackets]
  have stops : packetAt scanner.mem (m.ctx.r3.setWidth 32)
      (BitVec.ofNat 32 (0 + 4 *
        (encodePackets (swapPackets m.mem (m.ctx.r4.setWidth 32))).length)) 256 = none := by
    rw [size]
    exact if_neg (by decide)
  have scans : ∃ trace, Scans env scanner (m.ctx.r3.setWidth 32) (BitVec.ofNat 32 0) 256 depth
      ⟨{ scanner with
          gpuState := applyWrites scanner.gpuState
            (registerWrites (swapPackets m.mem (m.ctx.r4.setWidth 32))) },
        BitVec.ofNat 32 (0 + 4 *
          (encodePackets (swapPackets m.mem (m.ctx.r4.setWidth 32))).length), trace⟩ :=
    scans_encoded encoded (by rw [size]; decide) stops
  obtain ⟨trace, fuel, scanned⟩ := scans
  rw [size] at scanned
  exact ⟨trace, fuel, fun more enough => scanBuffer_mono env enough scanned⟩

/-- Dwords at `0x2000` that look like headers, and a buffer at `0x1000`. -/
def swapSample : Machine Unit :=
  { Machine.initial (fun position => if position < 0x2000 then 0 else 0xC0) () with
    ctx := ⟨0x1000, 0x2000⟩ }

theorem scanBuffer_vdSwap_swapSample :
    ∃ gpuState : GpuRegisterState,
      (∃ trace enough, ∀ fuel, enough ≤ fuel →
        scanBuffer Env.idle fuel (vdSwap Env.idle swapSample) 0x1000 0 256 0 =
          some ⟨{ vdSwap Env.idle swapSample with gpuState := gpuState }, 256, trace⟩) ∧
      HoldsFetched (vdSwap Env.idle swapSample).gpuState gpuState
        (fetchedDword swapSample.mem 0x2000) ∧
      ∀ slot < 3, gpuState.getVertexFetchConstant (BitVec.ofNat 32 slot) =
        .ofDwords (fetchedDword swapSample.mem 0x2000 (2 * slot))
          (fetchedDword swapSample.mem 0x2000 (2 * slot + 1)) := by
  have arguments : SwapArguments 0x1000 0x2000 := by
    constructor <;> decide
  have spares : CallbackSparesBuffer Env.idle swapSample := fun _ _ _ => rfl
  exact scanBuffer_vdSwap Env.idle swapSample arguments spares _ rfl 0

end BumpinHost.Gpu
