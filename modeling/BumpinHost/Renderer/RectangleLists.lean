import BumpinHost.Renderer.RecordedDraws
import Mathlib.Data.List.TakeWhile

/-!
# Rectangle lists

Every whole triple of indices whose three vertices lie in the buffer becomes six
records: the triangles (A, B, C) and (A, C, D).  An indexed draw with the indices 0, 1,
2, … is recorded like the draw that counts its vertices.  The positions of a record are
its first twelve bytes, whatever the stride of the record is.
-/

namespace BumpinHost.Renderer

open BumpinHost.Gpu BumpinHost.Shader Memory

section Triples

variable {α : Type}

/-- Consecutive triples of a list, without an incomplete one at its end. -/
def wholeTriples : List α → List (α × α × α)
  | a :: b :: c :: rest => (a, b, c) :: wholeTriples rest
  | _ => []

theorem wholeTriples_map_range' (f : Nat → α) : ∀ count start : Nat,
    wholeTriples ((List.range' start count).map f) = (List.range (count / 3)).map fun r =>
      (f (start + 3 * r), f (start + 3 * r + 1), f (start + 3 * r + 2))
  | 0, _ => rfl
  | 1, _ => rfl
  | 2, _ => rfl
  | count + 3, start => by
      have quotient : (count + 3) / 3 = count / 3 + 1 := by omega
      have later := wholeTriples_map_range' f count (start + 3)
      simp only [List.range'_succ, List.map_cons, wholeTriples, quotient,
        List.range_succ_eq_map, List.map_map]
      rw [later]
      refine congrArg _ (List.map_congr_left fun r _ => ?_)
      have shifted : start + 3 + 3 * r = start + 3 * (r + 1) := by omega
      simp only [Function.comp_apply, shifted]

theorem wholeTriples_map_range (f : Nat → α) (count : Nat) :
    wholeTriples ((List.range count).map f) = (List.range (count / 3)).map fun r =>
      (f (3 * r), f (3 * r + 1), f (3 * r + 2)) := by
  rw [List.range_eq_range', wholeTriples_map_range']
  simp only [Nat.zero_add]

end Triples

/-- The triple's vertices all lie in the buffer. -/
def TripleInside (capacity : Word) (triple : Word × Word × Word) : Prop :=
  triple.1 < capacity ∧ triple.2.1 < capacity ∧ triple.2.2 < capacity

instance (capacity : Word) (triple : Word × Word × Word) :
    Decidable (TripleInside capacity triple) :=
  inferInstanceAs (Decidable (_ ∧ _ ∧ _))

/-- The triples that are expanded. -/
def expandedTriples (capacity : Word) (indices : List Word) : List (Word × Word × Word) :=
  (wholeTriples indices).filter (TripleInside capacity)

theorem filter_lt_range (bound count : Nat) :
    (List.range count).filter (· < bound) = List.range (min bound count) := by
  induction count with
  | zero => simp
  | succ count ih =>
      rw [List.range_succ, List.filter_append, ih]
      by_cases below : count < bound
      · have both : min bound (count + 1) = min bound count + 1 := by omega
        have last : min bound count = count := by omega
        rw [both, last, List.range_succ]
        simp [below]
      · have same : min bound (count + 1) = min bound count := by omega
        simp [same, below]

/-- A triple of consecutive indices lies in the buffer when its last one does. -/
theorem tripleInside_consecutive (capacity : Word) {r : Nat} (small : 3 * r + 2 < 2 ^ 32) :
    TripleInside capacity (BitVec.ofNat 32 (3 * r), BitVec.ofNat 32 (3 * r + 1),
      BitVec.ofNat 32 (3 * r + 2)) ↔ r < capacity.toNat / 3 := by
  simp only [TripleInside, BitVec.lt_def, BitVec.toNat_ofNat]
  omega

/-- Of the indices 0, 1, 2, … as many triples are expanded as fit in the buffer. -/
theorem expandedTriples_range (capacity : Word) {count : Nat} (small : count < 2 ^ 32) :
    expandedTriples capacity ((List.range count).map (BitVec.ofNat 32)) =
      (List.range (min (capacity.toNat / 3) (count / 3))).map fun r =>
        (BitVec.ofNat 32 (3 * r), BitVec.ofNat 32 (3 * r + 1), BitVec.ofNat 32 (3 * r + 2)) := by
  have inside (r : Nat) (member : r ∈ List.range (count / 3)) :
      ((fun triple => decide (TripleInside capacity triple)) ∘ fun r =>
        (BitVec.ofNat 32 (3 * r), BitVec.ofNat 32 (3 * r + 1), BitVec.ofNat 32 (3 * r + 2)))
          r = decide (r < capacity.toNat / 3) := by
    have inRange := List.mem_range.mp member
    exact decide_eq_decide.mpr (tripleInside_consecutive capacity (by omega))
  simp only [expandedTriples, wholeTriples_map_range, List.filter_map]
  rw [List.filter_congr inside, filter_lt_range]

/-- Counting vertices and stopping at the capacity expands the same triples as reading
the same indices and testing each triple. -/
theorem expandedTriples_counted (capacity : Word) {count : Nat} (small : count < 2 ^ 32) :
    expandedTriples capacity
        ((List.range (min capacity.toNat count)).map (BitVec.ofNat 32)) =
      expandedTriples capacity ((List.range count).map (BitVec.ofNat 32)) := by
  have quotient : min (capacity.toNat / 3) (min capacity.toNat count / 3) =
      min (capacity.toNat / 3) (count / 3) := by
    omega
  rw [expandedTriples_range capacity small,
    expandedTriples_range capacity (lt_of_le_of_lt (min_le_right _ _) small), quotient]

section Records

variable {Guest : Type} (env : Env Guest)

/-- The vertex record at an index. -/
def recordAt (vertexData : List Byte) (stride idx : Word) : List Byte :=
  (vertexData.drop (idx.toNat * stride.toNat)).take stride.toNat

/-- A record with its position replaced, mapped when the viewport is off. -/
def placedRecord (viewportOff : Bool) (rec : List Byte) (pos : List Word) : List Byte :=
  writePos env rec (if viewportOff then toNdc env pos else pos)

/-- The position of the fourth corner: `A + C - B`. -/
def fourthPosition (aRec bRec cRec : List Byte) : List Word :=
  ((readPos env aRec).zip ((readPos env bRec).zip (readPos env cRec))).map fun p =>
    env.float.sub (env.float.add p.1 p.2.2) p.2.1

/-- The six records of a rectangle: A, B, C, A, C, D. -/
def rectangleRecords (viewportOff : Bool) (aRec bRec cRec : List Byte) :
    List (List Byte) :=
  let corner rec := placedRecord env viewportOff rec (readPos env rec)
  let fourth := placedRecord env viewportOff (corner bRec)
    (fourthPosition env aRec bRec cRec)
  [corner aRec, corner bRec, corner cRec, corner aRec, corner cRec, fourth]

theorem expandRectangle_eq (viewportOff : Bool) (aRec bRec cRec : List Byte) :
    expandRectangle env viewportOff aRec bRec cRec =
      (rectangleRecords env viewportOff aRec bRec cRec).flatten := by
  simp [expandRectangle, rectangleRecords, placedRecord, fourthPosition]

/-- The records of all expanded triples, in order. -/
def expansionRecords (viewportOff : Bool) (vertexData : List Byte)
    (capacity stride : Word) (indices : List Word) : List (List Byte) :=
  (expandedTriples capacity indices).flatMap fun triple =>
    rectangleRecords env viewportOff (recordAt vertexData stride triple.1)
      (recordAt vertexData stride triple.2.1) (recordAt vertexData stride triple.2.2)

theorem gatherRecord_of_lt {vertexData : List Byte} {capacity stride idx : Word}
    (inside : idx < capacity) :
    gatherRecord vertexData capacity stride idx = some (recordAt vertexData stride idx) :=
  if_neg (BitVec.not_le.mpr inside)

theorem gatherRecord_of_not_lt {vertexData : List Byte} {capacity stride idx : Word}
    (outside : ¬ idx < capacity) : gatherRecord vertexData capacity stride idx = none :=
  if_pos (BitVec.not_lt.mp outside)

theorem expandRectList_eq (viewportOff : Bool) (vertexData : List Byte)
    (capacity stride : Word) : ∀ indices : List Word,
    expandRectList env viewportOff vertexData capacity stride indices =
      (expansionRecords env viewportOff vertexData capacity stride indices).flatten
  | [] => rfl
  | [_] => rfl
  | [_, _] => rfl
  | a :: b :: c :: rest => by
      have later := expandRectList_eq viewportOff vertexData capacity stride rest
      rw [expandRectList, later]
      simp only [expansionRecords, expandedTriples, wholeTriples, List.filter_cons]
      by_cases inside : TripleInside capacity (a, b, c)
      · have gathered := inside
        obtain ⟨aLt, bLt, cLt⟩ := gathered
        rw [gatherRecord_of_lt aLt, gatherRecord_of_lt bLt, gatherRecord_of_lt cLt]
        simp only [inside, decide_true, if_true, List.flatMap_cons, List.flatten_append,
          expandRectangle_eq]
      · simp only [inside, decide_false, Bool.false_eq_true, if_false]
        refine List.append_left_eq_self.mpr ?_
        by_cases aLt : a < capacity
        · by_cases bLt : b < capacity
          · have cOut : ¬ c < capacity := fun cLt => inside ⟨aLt, bLt, cLt⟩
            rw [gatherRecord_of_lt aLt, gatherRecord_of_lt bLt, gatherRecord_of_not_lt cOut]
          · rw [gatherRecord_of_lt aLt, gatherRecord_of_not_lt bLt]
        · rw [gatherRecord_of_not_lt aLt]

/-- A record below the capacity lies in the buffer. -/
theorem record_inside {vertexData : List Byte} {capacity stride idx : Word}
    (room : capacity.toNat * stride.toNat ≤ vertexData.length) (inside : idx < capacity) :
    idx.toNat * stride.toNat + stride.toNat ≤ vertexData.length := by
  calc idx.toNat * stride.toNat + stride.toNat = (idx.toNat + 1) * stride.toNat := by ring
    _ ≤ capacity.toNat * stride.toNat := Nat.mul_le_mul_right _ (BitVec.lt_def.mp inside)
    _ ≤ vertexData.length := room

theorem recordAt_length {vertexData : List Byte} {capacity stride idx : Word}
    (room : capacity.toNat * stride.toNat ≤ vertexData.length) (inside : idx < capacity) :
    (recordAt vertexData stride idx).length = stride.toNat := by
  have fits := record_inside room inside
  rw [recordAt, List.length_take, List.length_drop]
  omega

variable {env}

theorem toNdc_length (pos : List Word) : (toNdc env pos).length = pos.length := by
  unfold toNdc
  split
  · rfl
  · rfl

theorem readPos_length (rec : List Byte) : (readPos env rec).length = 3 :=
  rfl

theorem fourthPosition_length (aRec bRec cRec : List Byte) :
    (fourthPosition env aRec bRec cRec).length = 3 := by
  simp [fourthPosition, readPos_length]

theorem placedRecord_length {viewportOff : Bool} {rec : List Byte} {pos : List Word}
    (wide : 12 ≤ rec.length) (words : pos.length = 3) :
    (placedRecord env viewportOff rec pos).length = rec.length := by
  have placed : (if viewportOff then toNdc env pos else pos).length = 3 := by
    split_ifs
    · rw [toNdc_length, words]
    · exact words
  have four (word : Word) : (littleEndianBytes word).length = 4 := rfl
  rw [placedRecord, writePos]
  simp only [if_pos wide, List.length_append, List.length_drop, List.length_flatMap, four,
    List.map_const', List.sum_replicate_nat, placed]
  omega

theorem rectangleRecords_length {viewportOff : Bool} {aRec bRec cRec : List Byte} {size : Nat}
    (wide : 12 ≤ size) (aLength : aRec.length = size) (bLength : bRec.length = size)
    (cLength : cRec.length = size) :
    ∀ rec ∈ rectangleRecords env viewportOff aRec bRec cRec, rec.length = size := by
  have corner {rec : List Byte} (length : rec.length = size) :
      (placedRecord env viewportOff rec (readPos env rec)).length = size := by
    rw [placedRecord_length (length ▸ wide) (readPos_length rec), length]
  have fourth : (placedRecord env viewportOff
      (placedRecord env viewportOff bRec (readPos env bRec))
      (fourthPosition env aRec bRec cRec)).length = size := by
    rw [placedRecord_length ((corner bLength).symm ▸ wide) (fourthPosition_length ..),
      corner bLength]
  simp only [rectangleRecords, List.forall_mem_cons, corner aLength, corner bLength,
    corner cLength, fourth, List.not_mem_nil, false_imp_iff, implies_true, and_self]

/-- All records of an expansion are as large as the stride. -/
theorem expansionRecords_length {viewportOff : Bool} {vertexData : List Byte}
    {capacity stride : Word} {indices : List Word}
    (room : capacity.toNat * stride.toNat ≤ vertexData.length) (wide : 12 ≤ stride.toNat) :
    ∀ rec ∈ expansionRecords env viewportOff vertexData capacity stride indices,
      rec.length = stride.toNat := by
  intro rec member
  obtain ⟨triple, expanded, member⟩ := List.mem_flatMap.mp member
  obtain ⟨aLt, bLt, cLt⟩ := of_decide_eq_true (List.mem_filter.mp expanded).2
  exact rectangleRecords_length wide (recordAt_length room aLt) (recordAt_length room bLt)
    (recordAt_length room cLt) rec member

theorem expansionRecords_count (viewportOff : Bool) (vertexData : List Byte)
    (capacity stride : Word) (indices : List Word) :
    (expansionRecords env viewportOff vertexData capacity stride indices).length =
      6 * (expandedTriples capacity indices).length := by
  simp only [expansionRecords, List.length_flatMap, rectangleRecords, List.length_cons,
    List.length_nil, List.map_const', List.sum_replicate_nat]
  omega

end Records

section Draws

variable {Guest : Type} {env : Env Guest} {m : Machine Guest}

/-- The packet draws a rectangle list with this source of indices and this many indices. -/
structure DrawsRectangles (m : Machine Guest) (bufferAddr offsetBytes : Word)
    (sourceSelect numIndices : Word) : Prop where
  primType : (drawInitiator m bufferAddr offsetBytes).primType = 8
  sourceSelect : (drawInitiator m bufferAddr offsetBytes).sourceSelect = sourceSelect
  numIndices : (drawInitiator m bufferAddr offsetBytes).numIndices = numIndices

/-- The index buffer holds the value `k` at each position `k` that the draw uses. -/
structure HoldsConsecutiveIndices (m : Machine Guest) (bufferAddr offsetBytes : Word)
    (numIndices : Word) : Prop where
  nonempty : 1 ≤ numWords m bufferAddr offsetBytes
  enough : numIndices ≤ numWords m bufferAddr offsetBytes
  holds : ∀ k < numIndices.toNat,
    guestIndex m bufferAddr offsetBytes k = BitVec.ofNat 32 k

/-- Two rectangle lists of one machine: an indexed one whose index buffer holds consecutive
indices, and one that counts its vertices. -/
structure MatchingRectangles (m : Machine Guest)
    (indexedAddr indexedOffset indexedCount countedAddr countedOffset numIndices : Word) :
    Prop where
  indexed : DrawsRectangles m indexedAddr indexedOffset 0 numIndices
  hasDmaDwords : 3 ≤ indexedCount
  holds : HoldsConsecutiveIndices m indexedAddr indexedOffset numIndices
  counted : DrawsRectangles m countedAddr countedOffset 2 numIndices
  drawn : VertexBufferDrawn m.gpuState
  wide : 12 ≤ (drawStride m).toNat

/-- The indices 0, 1, 2, … of a draw. -/
def consecutiveIndices (numIndices : Word) : List Word :=
  (List.range numIndices.toNat).map (BitVec.ofNat 32)

/-- The command is the expansion of the indices 0, 1, 2, …: six records of the stride's
size for each triple that lies in the buffer. -/
structure ExpandsConsecutive (env : Env Guest) (m : Machine Guest) (numIndices : Word)
    (cmd : DrawCommand) : Prop where
  primitive : cmd.primitiveType = .triangle
  vertexData : cmd.vertexData =
    (expansionRecords env (viewportOff m) (vertexBufferCopy m.mem m.gpuState)
      (vertexCapacity m) (drawStride m) (consecutiveIndices numIndices)).flatten
  recordSize : ∀ rec ∈ expansionRecords env (viewportOff m)
      (vertexBufferCopy m.mem m.gpuState) (vertexCapacity m) (drawStride m)
      (consecutiveIndices numIndices), rec.length = (drawStride m).toNat
  vertexCount : cmd.vertexCount.toNat =
    6 * (expandedTriples (vertexCapacity m) (consecutiveIndices numIndices)).length
  notIndexed : cmd.indexData = [] ∧ cmd.indexCount = 0 ∧ cmd.indexIs32Bit = false

theorem vertexCapacity_room :
    (vertexCapacity m).toNat * (drawStride m).toNat ≤
      (vertexBufferCopy m.mem m.gpuState).length := by
  rw [vertexCapacity_toNat]
  exact Nat.div_mul_le_self ..

/-- Only the expanded triples matter. -/
theorem rectangleCommand_congr {first second : List Word} (primType : DrawPrimitiveType)
    (same : expandedTriples (vertexCapacity m) first =
      expandedTriples (vertexCapacity m) second) :
    rectangleCommand m env primType first = rectangleCommand m env primType second := by
  simp only [rectangleCommand, expandRectList_eq, expansionRecords, same]

theorem flatten_length {records : List (List Byte)} {size : Nat}
    (each : ∀ rec ∈ records, rec.length = size) :
    records.flatten.length = records.length * size := by
  rw [List.length_flatten, List.map_congr_left each, List.map_const', List.sum_replicate_nat]

theorem rectangleCommand_expands {numIndices : Word} (small : numIndices.toNat < 2 ^ 16)
    (wide : 12 ≤ (drawStride m).toNat) :
    ExpandsConsecutive env m numIndices
      (rectangleCommand m env .triangle (consecutiveIndices numIndices)) := by
  have each : ∀ rec ∈ expansionRecords env (viewportOff m)
      (vertexBufferCopy m.mem m.gpuState) (vertexCapacity m) (drawStride m)
      (consecutiveIndices numIndices), rec.length = (drawStride m).toNat :=
    expansionRecords_length vertexCapacity_room wide
  have few : (expandedTriples (vertexCapacity m) (consecutiveIndices numIndices)).length ≤
      numIndices.toNat / 3 := by
    rw [consecutiveIndices, expandedTriples_range _ (by omega), List.length_map,
      List.length_range]
    exact min_le_right _ _
  refine ⟨rfl, expandRectList_eq .., each, ?_, rfl, rfl, rfl⟩
  simp only [rectangleCommand]
  rw [expandRectList_eq, flatten_length each, expansionRecords_count,
    Nat.mul_div_cancel _ (by omega), BitVec.toNat_ofNat]
  exact Nat.mod_eq_of_lt (by omega)

/-- The indices read back from the copied index buffer. -/
theorem rectangleIndices_of_indexed {bufferAddr offsetBytes count numIndices : Word}
    (draws : DrawsRectangles m bufferAddr offsetBytes 0 numIndices)
    (accepted : IndexBufferAccepted m bufferAddr offsetBytes count)
    (holds : HoldsConsecutiveIndices m bufferAddr offsetBytes numIndices) :
    rectangleIndices m bufferAddr offsetBytes count = consecutiveIndices numIndices := by
  have buffer := (drawIndexBuffer_of_dma draws.sourceSelect).trans
    (resolveIndexBuffer_eq_some_iff.mpr ⟨accepted, rfl⟩)
  have enough := BitVec.le_def.mp holds.enough
  have used : min ((copiedIndices m bufferAddr offsetBytes).length /
      indexWidth m bufferAddr offsetBytes)
        (copiedIndexCount m bufferAddr offsetBytes).toNat = numIndices.toNat := by
    rw [copiedIndices_length, Nat.mul_div_cancel _ indexWidth_pos, toNat_copiedIndexCount,
      draws.numIndices]
    omega
  have read (k : Nat) (member : k ∈ List.range numIndices.toNat) :
      littleEndianValue (((copiedIndices m bufferAddr offsetBytes).drop
          (k * indexWidth m bufferAddr offsetBytes)).take
            (indexWidth m bufferAddr offsetBytes)) = BitVec.ofNat 32 k := by
    have inRange := List.mem_range.mp member
    rw [littleEndianValue_copiedIndices (by omega), holds.holds k inRange]
  have width : (indexWidthBytes (indexIs32Bit m bufferAddr offsetBytes)).toNat =
      indexWidth m bufferAddr offsetBytes := rfl
  rw [rectangleIndices, buffer]
  simp only [rectListIndices, width]
  rw [used, List.map_congr_left read]
  rfl

/-- The indices counted up to the capacity of the buffer. -/
theorem rectangleIndices_of_counted {bufferAddr offsetBytes count numIndices : Word}
    (draws : DrawsRectangles m bufferAddr offsetBytes 2 numIndices) :
    rectangleIndices m bufferAddr offsetBytes count =
      (List.range (min (vertexCapacity m).toNat numIndices.toNat)).map (BitVec.ofNat 32) := by
  have clamped : (if vertexCapacity m < numIndices then vertexCapacity m
      else numIndices).toNat = min (vertexCapacity m).toNat numIndices.toNat := by
    split_ifs <;> bv_omega
  rw [rectangleIndices, drawIndexBuffer_of_auto draws.sourceSelect]
  simp only [rectListIndices, draws.numIndices, clamped]

theorem DrawsRectangles.accepted {bufferAddr offsetBytes count sourceSelect numIndices : Word}
    (draws : DrawsRectangles m bufferAddr offsetBytes sourceSelect numIndices)
    (source : sourceSelect = 0 ∨ sourceSelect = 2) (drawn : VertexBufferDrawn m.gpuState)
    (resolved : sourceSelect = 0 → IndexBufferAccepted m bufferAddr offsetBytes count) :
    DrawAccepted m bufferAddr offsetBytes count .triangle true := by
  refine ⟨?_, draws.sourceSelect ▸ source, drawn, fun isDma => ?_⟩
  · rw [draws.primType]
    rfl
  · have sane := resolved (draws.sourceSelect.symm.trans isDma)
    rw [drawIndexBuffer_of_dma isDma, resolveIndexBuffer_eq_some_iff.mpr ⟨sane, rfl⟩]
    rfl

/-- An indexed rectangle list over consecutive indices, whose index buffer is not too
large for the draw path, records the same command as the rectangle list that counts its
vertices. -/
theorem rectangleList_indexed_eq_counted
    {indexedAddr indexedOffset indexedCount countedAddr countedOffset numIndices : Word}
    (lists : MatchingRectangles m indexedAddr indexedOffset indexedCount countedAddr
      countedOffset numIndices)
    (small : (numWords m indexedAddr indexedOffset).toNat *
      indexWidth m indexedAddr indexedOffset ≤ kMaxVertexBufferBytes.toNat)
    (countedCount : Word) :
    ∃ cmd, recordedDraw env m indexedAddr indexedOffset indexedCount = some cmd ∧
      recordedDraw env m countedAddr countedOffset countedCount = some cmd ∧
      ExpandsConsecutive env m numIndices cmd := by
  obtain ⟨indexed, hasDmaDwords, holds, counted, drawn, wide⟩ := lists
  have accepted : IndexBufferAccepted m indexedAddr indexedOffset indexedCount :=
    ⟨hasDmaDwords, by have nonempty := holds.nonempty; bv_omega, small⟩
  have numIndicesLt : numIndices.toNat < 2 ^ 16 := by
    rw [← counted.numIndices]
    exact GpuRegisterState.getDrawInitiator_numIndices_lt _
  refine ⟨_, ?_, ?_, rectangleCommand_expands numIndicesLt wide⟩
  · refine recordedDraw_eq_some_iff.mpr
      ⟨.triangle, true, indexed.accepted (.inl rfl) drawn fun _ => accepted, ?_⟩
    rw [drawCommand, if_pos rfl, rectangleIndices_of_indexed indexed accepted holds]
  · refine recordedDraw_eq_some_iff.mpr
      ⟨.triangle, true, counted.accepted (.inr rfl) drawn (fun isDma => ?_), ?_⟩
    · exact absurd isDma (by decide)
    · rw [drawCommand, if_pos rfl, rectangleIndices_of_counted counted]
      exact rectangleCommand_congr _ (expandedTriples_counted _ (by omega)).symm

end Draws

/-- Three records, an indexed rectangle at offset 0 whose `NUM_WORDS` is given, with the
indices 0, 1, 2, and a counted rectangle at offset 32. -/
def rectangleMachine (words : Word) : Machine Unit :=
  let packet := storeU32 (storeU32 (storeU32 (fun _ => 0) 4 0x00030008) 8 0x100) 12 words
  let indices := storeU32 (storeU32 packet 0xA0000100 1) 0xA0000104 0x00020000
  { Machine.initial (storeU32 indices 0x24 0x00030088) () with
    gpuState := GpuRegisterState.initial.writeRegister 0x4801 0x24 }

/-- Both sizes hold the three indices. -/
theorem rectangleMachine_matching {words : Word} (given : words = 3 ∨ words = 0xFFFFFF) :
    MatchingRectangles (rectangleMachine words) 0 0 3 0 0x20 3 := by
  have drawn : VertexBufferDrawn (rectangleMachine words).gpuState := by
    unfold VertexBufferDrawn
    rcases given with rfl | rfl <;> decide +kernel
  rcases given with rfl | rfl
  all_goals exact ⟨⟨by decide +kernel, by decide +kernel, by decide +kernel⟩, by decide,
    ⟨by decide +kernel, by decide +kernel, by decide +kernel⟩,
    ⟨by decide +kernel, by decide +kernel, by decide +kernel⟩, drawn, by decide +kernel⟩

theorem rectangleList_indexed_eq_counted_three :
    ∃ cmd, recordedDraw .idle (rectangleMachine 3) 0 0 3 = some cmd ∧
      recordedDraw .idle (rectangleMachine 3) 0 0x20 1 = some cmd ∧
      ExpandsConsecutive .idle (rectangleMachine 3) 3 cmd :=
  rectangleList_indexed_eq_counted (rectangleMachine_matching (.inl rfl)) (by decide +kernel) 1

/-- The guard on the size of an index buffer skips the indexed draw alone. -/
theorem oversizedIndexBuffer_skipsDraw :
    MatchingRectangles (rectangleMachine 0xFFFFFF) 0 0 3 0 0x20 3 ∧
      recordedDraw .idle (rectangleMachine 0xFFFFFF) 0 0 3 = none ∧
      recordedDraw .idle (rectangleMachine 0xFFFFFF) 0 0x20 1 ≠ none := by
  have lists : MatchingRectangles (rectangleMachine 0xFFFFFF) 0 0 3 0 0x20 3 :=
    rectangleMachine_matching (.inr rfl)
  refine ⟨lists, ?_, ?_⟩
  · refine Option.eq_none_iff_forall_ne_some.mpr fun cmd recorded => ?_
    obtain ⟨_, _, accepted, -⟩ := recordedDraw_eq_some_iff.mp recorded
    have sane := accepted.indexBuffer lists.indexed.sourceSelect
    exact absurd sane.1.small (by decide +kernel)
  · have accepted : DrawAccepted (rectangleMachine 0xFFFFFF) 0 0x20 1 .triangle true :=
      lists.counted.accepted (.inr rfl) lists.drawn fun isDma => absurd isDma (by decide)
    rw [recordedDraw_eq_some_iff.mpr ⟨_, _, accepted, rfl⟩]
    exact Option.some_ne_none _

/-- A range of a byte vector that the expansion copies from or to. -/
structure Access where
  size : Nat
  offset : Nat
  length : Nat
deriving DecidableEq, Repr

def Access.Inside (access : Access) : Prop := access.offset + access.length ≤ access.size

/-- The records gathered for a triple, up to the first index outside the buffer. -/
def gatherAccesses (vertexData : List Byte) (capacity stride : Word)
    (triple : Word × Word × Word) : List Access :=
  ([triple.1, triple.2.1, triple.2.2].takeWhile (· < capacity)).map fun idx =>
    ⟨vertexData.length, idx.toNat * stride.toNat, stride.toNat⟩

/-- The positions of A, B and C are read, those of A, B, C and D are written, twelve bytes
each at the front of a record. -/
def positionAccesses (aRec bRec cRec : List Byte) : List Access :=
  [aRec, bRec, cRec, aRec, bRec, cRec, bRec].map fun rec => ⟨rec.length, 0, 12⟩

def expansionAccesses (vertexData : List Byte) (capacity stride : Word)
    (indices : List Word) : List Access :=
  (wholeTriples indices).flatMap (gatherAccesses vertexData capacity stride) ++
    (expandedTriples capacity indices).flatMap fun triple =>
      positionAccesses (recordAt vertexData stride triple.1)
        (recordAt vertexData stride triple.2.1) (recordAt vertexData stride triple.2.2)

theorem mem_positionAccesses {aRec bRec cRec : List Byte} {access : Access} :
    access ∈ positionAccesses aRec bRec cRec ↔
      ∃ rec ∈ [aRec, bRec, cRec], access = ⟨rec.length, 0, 12⟩ := by
  simp only [positionAccesses, List.map_cons, List.map_nil, List.mem_cons, List.not_mem_nil,
    or_false, exists_eq_or_imp, exists_eq_left]
  tauto

/-- Gathered records always lie in the buffer. -/
theorem gatherAccesses_inside {vertexData : List Byte} {capacity stride : Word}
    (room : capacity.toNat * stride.toNat ≤ vertexData.length)
    (triple : Word × Word × Word) :
    ∀ access ∈ gatherAccesses vertexData capacity stride triple, access.Inside := by
  intro access member
  obtain ⟨idx, taken, rfl⟩ := List.mem_map.mp member
  have below := List.mem_takeWhile_imp taken
  exact record_inside room (of_decide_eq_true below)

/-- Every access is inside exactly when the records hold a position or none is expanded. -/
theorem expansionAccesses_inside_iff {vertexData : List Byte} {capacity stride : Word}
    (room : capacity.toNat * stride.toNat ≤ vertexData.length) (indices : List Word) :
    (∀ access ∈ expansionAccesses vertexData capacity stride indices, access.Inside) ↔
      12 ≤ stride.toNat ∨ expandedTriples capacity indices = [] := by
  constructor
  · intro inside
    refine or_iff_not_imp_right.mpr fun expands => ?_
    obtain ⟨triple, expanded⟩ := List.exists_mem_of_ne_nil _ expands
    have aLt := (of_decide_eq_true (List.mem_filter.mp expanded).2).1
    have access := inside ⟨(recordAt vertexData stride triple.1).length, 0, 12⟩ <|
      List.mem_append_right _ <| List.mem_flatMap.mpr
        ⟨triple, expanded, mem_positionAccesses.mpr ⟨_, List.mem_cons_self, rfl⟩⟩
    simpa only [Access.Inside, recordAt_length room aLt, Nat.zero_add] using access
  · intro holds access member
    rcases List.mem_append.mp member with gathered | position
    · obtain ⟨triple, -, member⟩ := List.mem_flatMap.mp gathered
      exact gatherAccesses_inside room triple access member
    · obtain ⟨triple, expanded, member⟩ := List.mem_flatMap.mp position
      obtain ⟨aLt, bLt, cLt⟩ := of_decide_eq_true (List.mem_filter.mp expanded).2
      obtain ⟨rec, isRecord, rfl⟩ := mem_positionAccesses.mp member
      have wide := holds.resolve_right (List.ne_nil_of_mem expanded)
      have length : rec.length = stride.toNat := by
        simp only [List.mem_cons, List.not_mem_nil, or_false] at isRecord
        rcases isRecord with rfl | rfl | rfl
        · exact recordAt_length room aLt
        · exact recordAt_length room bLt
        · exact recordAt_length room cLt
      simp only [Access.Inside, length, Nat.zero_add, wide]

section Overrun

variable {Guest : Type} {env other : Env Guest}

theorem readPos_congr (env other : Env Guest) {rec : List Byte} (wide : 12 ≤ rec.length) :
    readPos env rec = readPos other rec := by
  simp only [readPos, if_pos wide]

theorem placedRecord_congr {viewportOff : Bool} {rec : List Byte} {pos : List Word}
    (sameFloat : env.float = other.float) (wide : 12 ≤ rec.length) :
    placedRecord env viewportOff rec pos = placedRecord other viewportOff rec pos := by
  have sameMap : toNdc env pos = toNdc other pos := by
    simp only [toNdc, sameFloat]
  simp only [placedRecord, writePos, if_pos wide, sameMap]

theorem rectangleRecords_congr {viewportOff : Bool} {aRec bRec cRec : List Byte}
    (sameFloat : env.float = other.float) (aWide : 12 ≤ aRec.length)
    (bWide : 12 ≤ bRec.length) (cWide : 12 ≤ cRec.length) :
    rectangleRecords env viewportOff aRec bRec cRec =
      rectangleRecords other viewportOff aRec bRec cRec := by
  have corner {rec : List Byte} (wide : 12 ≤ rec.length) :
      placedRecord env viewportOff rec (readPos env rec) =
        placedRecord other viewportOff rec (readPos other rec) := by
    rw [readPos_congr env other wide, placedRecord_congr sameFloat wide]
  have fourth : fourthPosition env aRec bRec cRec = fourthPosition other aRec bRec cRec := by
    simp only [fourthPosition, readPos_congr env other aWide, readPos_congr env other bWide,
      readPos_congr env other cWide, sameFloat]
  have placed : 12 ≤ (placedRecord other viewportOff bRec (readPos other bRec)).length := by
    rw [placedRecord_length bWide (readPos_length bRec)]
    exact bWide
  simp only [rectangleRecords, corner aWide, corner bWide, corner cWide, fourth,
    placedRecord_congr sameFloat placed]

/-- While every access is inside, nothing outside a record is read or written. -/
theorem expandRectList_congr {viewportOff : Bool} {vertexData : List Byte}
    {capacity stride : Word} {indices : List Word} (sameFloat : env.float = other.float)
    (room : capacity.toNat * stride.toNat ≤ vertexData.length)
    (inside : ∀ access ∈ expansionAccesses vertexData capacity stride indices,
      access.Inside) :
    expandRectList env viewportOff vertexData capacity stride indices =
      expandRectList other viewportOff vertexData capacity stride indices := by
  have records : expansionRecords env viewportOff vertexData capacity stride indices =
      expansionRecords other viewportOff vertexData capacity stride indices := by
    refine List.flatMap_congr fun triple expanded => ?_
    obtain ⟨aLt, bLt, cLt⟩ := of_decide_eq_true (List.mem_filter.mp expanded).2
    have wide := ((expansionAccesses_inside_iff room indices).mp inside).resolve_right
      (List.ne_nil_of_mem expanded)
    have holds {idx : Word} (idxLt : idx < capacity) :
        12 ≤ (recordAt vertexData stride idx).length := by
      rw [recordAt_length room idxLt]
      exact wide
    exact rectangleRecords_congr sameFloat (holds aLt) (holds bLt) (holds cLt)
  rw [expandRectList_eq, expandRectList_eq, records]

end Overrun

section Draws

variable {Guest : Type} {env : Env Guest} {m : Machine Guest}

/-- What the cache holds of a vertex shader: nothing yet, or an accepted translation. -/
def IsVertexShader (vs : TranslationResult) : Prop :=
  vs = .initial ∨ ∃ dwords dwordCount,
    vs = translateShader dwords dwordCount 0 ∧ vs.success = true

/-- The stride of an accepted vertex shader is an 8-bit number of dwords. -/
theorem translateShader_strideBytes {dwords : List Word} {dwordCount : Word}
    (success : (translateShader dwords dwordCount 0).success = true) :
    ∃ strideDwords : Word, strideDwords.toNat < 256 ∧
      (translateShader dwords dwordCount 0).vertexStrideBytes = strideDwords * 4 := by
  obtain ⟨fetches, -, recorded, last, isLast, stride⟩ :=
    translateShader_recordsFetches success
  have bounded := strideLt_of_recorded recorded last (List.mem_of_getLast? isLast)
  exact ⟨last.stride, bounded, stride⟩

/-- Strides are whole dwords, so those shorter than a position are 4 and 8. -/
theorem drawStride_lt_iff (loaded : IsVertexShader m.shaderTranslationCache.vertexResult) :
    (drawStride m).toNat < 12 ↔
      m.shaderTranslationCache.vertexResult.vertexStrideBytes = 4 ∨
        m.shaderTranslationCache.vertexResult.vertexStrideBytes = 8 := by
  rw [drawStride, recordStride]
  rcases loaded with initial | ⟨dwords, dwordCount, translated, success⟩
  · rw [initial]
    decide
  · obtain ⟨strideDwords, bounded, stride⟩ :=
      translateShader_strideBytes (translated ▸ success)
    rw [← translated] at stride
    simp only [success, true_and]
    have bytes := toNat_byteStride bounded
    rw [← stride] at bytes
    split_ifs with nonzero <;> bv_omega

/-- If the packet is drawn, each record the expansion gathers lies in the vertex data, and each
position it reads or writes in the record. -/
def ExpansionStaysInside (m : Machine Guest) (bufferAddr offsetBytes count : Word) : Prop :=
  DrawAccepted m bufferAddr offsetBytes count .triangle true →
    ∀ access ∈ expansionAccesses (vertexBufferCopy m.mem m.gpuState) (vertexCapacity m)
      (drawStride m) (rectangleIndices m bufferAddr offsetBytes count), access.Inside

/-- The expansion of a rectangle list stays inside its records exactly when the vertex
stride is neither 4 nor 8 bytes, the packet is skipped, or no triple is expanded. -/
theorem rectangleList_staysInside_iff {bufferAddr offsetBytes count : Word}
    (loaded : IsVertexShader m.shaderTranslationCache.vertexResult) :
    ExpansionStaysInside m bufferAddr offsetBytes count ↔
      (m.shaderTranslationCache.vertexResult.vertexStrideBytes ≠ 4 ∧
        m.shaderTranslationCache.vertexResult.vertexStrideBytes ≠ 8) ∨
      ¬ DrawAccepted m bufferAddr offsetBytes count .triangle true ∨
      expandedTriples (vertexCapacity m)
        (rectangleIndices m bufferAddr offsetBytes count) = [] := by
  have inside := @expansionAccesses_inside_iff (vertexBufferCopy m.mem m.gpuState)
    (vertexCapacity m) (drawStride m) vertexCapacity_room
    (rectangleIndices m bufferAddr offsetBytes count)
  rw [← not_lt, drawStride_lt_iff loaded, not_or] at inside
  unfold ExpansionStaysInside
  rw [inside, imp_iff_not_or, or_left_comm]

end Draws

/-- Without a shader the records are as long as a position, and three make a rectangle. -/
theorem rectangleList_staysInside_iff_three :
    DrawAccepted (rectangleMachine 3) 0 0x20 1 .triangle true ∧
      expandedTriples (vertexCapacity (rectangleMachine 3))
        (rectangleIndices (rectangleMachine 3) 0 0x20 1) ≠ [] ∧
      ExpansionStaysInside (rectangleMachine 3) 0 0x20 1 := by
  have lists : MatchingRectangles (rectangleMachine 3) 0 0 3 0 0x20 3 :=
    rectangleMachine_matching (.inl rfl)
  have wide : (rectangleMachine 3).shaderTranslationCache.vertexResult.vertexStrideBytes ≠ 4 ∧
      (rectangleMachine 3).shaderTranslationCache.vertexResult.vertexStrideBytes ≠ 8 := by
    decide
  refine ⟨lists.counted.accepted (.inr rfl) lists.drawn fun isDma => absurd isDma (by decide), ?_,
    (rectangleList_staysInside_iff (.inl rfl)).mpr (.inl wide)⟩
  decide +kernel

/-- A vertex shader that fetches positions of three floats at a stride of eight bytes. -/
def narrowVertexMicrocode : List Word :=
  [0x00012001, 0x2000, 0, 0x1000, 0x390A88, 2, 0xF803E, 0, 0xC2010100]

/-- The shader is loaded, and a packet counts the three vertices of a buffer of 24 bytes. -/
def narrowMachine : Machine Unit :=
  { Machine.initial (storeU32 (fun _ => 0) 4 0x00030088) () with
    gpuState := GpuRegisterState.initial.writeRegister 0x4801 0x18
    shaderTranslationCache := ShaderTranslationCache.initial.updateVertexShader 1
      (translateShader narrowVertexMicrocode 9 0) }

theorem narrowMachine_loaded :
    IsVertexShader narrowMachine.shaderTranslationCache.vertexResult := by
  have success : (translateShader narrowVertexMicrocode 9 0).success = true := by
    decide +kernel
  exact .inr ⟨narrowVertexMicrocode, 9, rfl, success⟩

/-- The packet is drawn, and positions of twelve bytes leave its records of eight. -/
theorem narrowRecords_areOverrun :
    DrawAccepted narrowMachine 0 0 1 .triangle true ∧
      IsVertexShader narrowMachine.shaderTranslationCache.vertexResult ∧
      ¬ ExpansionStaysInside narrowMachine 0 0 1 := by
  have draws : DrawsRectangles narrowMachine 0 0 2 3 :=
    ⟨by decide +kernel, by decide +kernel, by decide +kernel⟩
  have drawn : VertexBufferDrawn narrowMachine.gpuState := by
    unfold VertexBufferDrawn
    decide +kernel
  have accepted : DrawAccepted narrowMachine 0 0 1 .triangle true :=
    draws.accepted (.inr rfl) drawn fun isDma => absurd isDma (by decide)
  refine ⟨accepted, narrowMachine_loaded, fun inside => ?_⟩
  rcases (expansionAccesses_inside_iff vertexCapacity_room _).mp (inside accepted) with wide | none
  · exact absurd wide (by decide +kernel)
  · exact absurd none (by decide +kernel)

end BumpinHost.Renderer
