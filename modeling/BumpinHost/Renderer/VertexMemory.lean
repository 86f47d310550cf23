import BumpinHost.Renderer.Layouts
import BumpinHost.Shader.FetchAddressing
import BumpinHost.Shader.Preservation

/-!
# The vertex descriptor and the memory it reads

The renderer reads every attribute from one buffer with one stride, and the draw path
copies that buffer from vertex fetch constant 0.  The fetches of the microcode each name
a constant and a stride of their own.
-/

namespace BumpinHost.Renderer

open BumpinHost.Gpu BumpinHost.Shader Memory

structure VertexAttributeDescriptor where
  format : TranslatedVertexFormat
  offset : Word
  bufferIndex : Nat
deriving DecidableEq, Repr

structure VertexDescriptor where
  attributes : List VertexAttributeDescriptor
  stride : Word
deriving DecidableEq, Repr

/-- The descriptor that `TryUpdateRealPipeline` fills in. -/
def vertexDescriptor (vs : TranslationResult) : VertexDescriptor where
  attributes := vs.attributes.map fun attr => ⟨attr.format, attr.byteOffset, 0⟩
  stride := vs.vertexStrideBytes

namespace VertexAttributeDescriptor

variable (attr : VertexAttributeDescriptor)

def byteSize : Nat := 4 * attr.format.dwords

/-- Where the attribute of a vertex begins in the buffer. -/
def start (stride : Word) (v : Nat) : Nat := v * stride.toNat + attr.offset.toNat

/-- The bytes that the pipeline reads for the attribute of a vertex. -/
def read (stride : Word) (buffer : List Byte) (v : Nat) : List Byte :=
  (buffer.drop (attr.start stride v)).take attr.byteSize

end VertexAttributeDescriptor

/-- The guest address that a fetch constant points at. -/
def fetchConstantAddr (gpuState : GpuRegisterState) (slot : Word) : Word :=
  ((gpuState.getVertexFetchConstant slot).address <<< 2) ||| 0xA0000000

def vertexByteSize (gpuState : GpuRegisterState) : Word :=
  (gpuState.getVertexFetchConstant 0).size * 4

/-- The vertex data of a draw that is not a rectangle list. -/
def vertexBufferCopy (mem : Memory) (gpuState : GpuRegisterState) : List Byte :=
  copyDwords mem (fetchConstantAddr gpuState 0) ((vertexByteSize gpuState).toNat / 4)

/-- Draws with other sizes are skipped. -/
def VertexBufferDrawn (gpuState : GpuRegisterState) : Prop :=
  ¬ (vertexByteSize gpuState = 0 ∨ kMaxVertexBufferBytes < vertexByteSize gpuState)

/-- The guest bytes a fetch addresses for a vertex, in the order the draw path copies
them. -/
def fetchedBytes (mem : Memory) (gpuState : GpuRegisterState) (fetch : FetchAddressing)
    (v : Nat) : List Byte :=
  copyDwords mem (fetchConstantAddr gpuState fetch.fetchConstantIndex +
    BitVec.ofInt 32 (4 * (v * fetch.stride.toNat + fetch.offset))) fetch.format.dwords

/-- An attribute reads what the fetch addresses, inside the record of the vertex. -/
structure DenotesFetch (stride : Word) (attr : VertexAttributeDescriptor)
    (fetch : FetchAddressing) : Prop where
  sameBytes : ∀ mem gpuState v, VertexBufferDrawn gpuState →
    attr.start stride v + attr.byteSize ≤ (vertexBufferCopy mem gpuState).length →
      attr.read stride (vertexBufferCopy mem gpuState) v = fetchedBytes mem gpuState fetch v
  offsetNonneg : 0 ≤ fetch.offset
  inRecord : attr.offset.toNat + attr.byteSize ≤ stride.toNat

/-- Every attribute of the descriptor denotes the fetch it was recorded for. -/
def LayoutDenotesFetches (dwords : List Word) (dwordCount : Word) : Prop :=
  let descriptor := vertexDescriptor (translateShader dwords dwordCount 0)
  ∃ fetches, vertexFetches dwords dwordCount = some fetches ∧
    List.Forall₂ (DenotesFetch descriptor.stride) descriptor.attributes fetches

/-- All fetches read one stream: constant 0, one stride, and elements inside a record. -/
def FetchesOneStream (fetches : List FetchAddressing) : Prop :=
  ∀ fetch ∈ fetches, fetch.fetchConstantIndex = 0 ∧ 0 ≤ fetch.offset ∧
    fetch.offset + fetch.format.dwords ≤ fetch.stride.toNat ∧
      ∀ other ∈ fetches, other.stride = fetch.stride

instance (fetches : List FetchAddressing) : Decidable (FetchesOneStream fetches) :=
  inferInstanceAs (Decidable (∀ fetch ∈ fetches, _ ∧ _))

/-- What the draw path records for a draw that is not a rectangle list. -/
theorem buildDrawCommand_vertexData {Guest : Type} {env : Env Guest} {mem : Memory}
    {gpuState : GpuRegisterState} {currentVs : TranslationResult}
    {bufferAddr offsetBytes count : Word} {cmd : DrawCommand} {primType : DrawPrimitiveType}
    (mapped : mapPrimitiveType gpuState.getDrawInitiator.primType = some (primType, false))
    (built : buildDrawCommand env mem gpuState currentVs bufferAddr offsetBytes count =
      some cmd) :
    cmd.vertexData = vertexBufferCopy mem gpuState ∧ VertexBufferDrawn gpuState := by
  unfold buildDrawCommand at built
  dsimp only at built
  rw [mapped] at built
  simp only [Option.ite_none_left_eq_some] at built
  obtain ⟨-, -, drawn, -, built⟩ := built
  refine ⟨?_, drawn⟩
  rw [if_neg Bool.false_ne_true] at built
  split at built
  · obtain rfl := Option.some.inj built
    rfl
  · obtain rfl := Option.some.inj built
    rfl

theorem copyDwords_append (mem : Memory) (addr : Word) (first rest : Nat) :
    copyDwords mem addr (first + rest) =
      copyDwords mem addr first ++ copyDwords mem (addr + BitVec.ofNat 32 (4 * first)) rest := by
  simp only [copyDwords, List.range_add, List.flatMap_append, List.flatMap_map, Nat.mul_add,
    BitVec.ofNat_add, BitVec.add_assoc]

/-- A slice of a copy is the copy of a slice. -/
theorem copyDwords_slice (mem : Memory) (addr : Word) {first count total : Nat}
    (inside : first + count ≤ total) :
    ((copyDwords mem addr total).drop (4 * first)).take (4 * count) =
      copyDwords mem (addr + BitVec.ofNat 32 (4 * first)) count := by
  obtain ⟨rest, rfl⟩ := Nat.exists_eq_add_of_le inside
  rw [Nat.add_assoc, copyDwords_append, List.drop_left' (copyDwords_length ..),
    copyDwords_append, List.take_left' (copyDwords_length ..)]

/-- The first guest byte of a copy comes out fourth. -/
theorem getElem?_copyDwords_three (mem : Memory) (addr : Word) {count : Nat}
    (nonempty : 0 < count) : (copyDwords mem addr count)[3]? = some (mem addr.toNat) := by
  obtain ⟨rest, rfl⟩ := Nat.exists_eq_add_of_le nonempty
  have first : (copyDwords mem addr 1)[3]? =
      some ((loadU32 mem (addr + BitVec.ofNat 32 0)).extractLsb' 24 8) := rfl
  rw [copyDwords_append, List.getElem?_append_left (by rw [copyDwords_length]; decide), first,
    BitVec.add_zero]
  congr 1
  ext i inByte
  simp only [loadU32, BitVec.getElem_extractLsb', BitVec.getLsbD_append]
  grind

/-- Copies that agree in every memory begin at one address. -/
theorem copyDwords_inj {addr other : Word} {count : Nat} (nonempty : 0 < count)
    (same : ∀ mem, copyDwords mem addr count = copyDwords mem other count) : addr = other := by
  have fourth := congrArg (·[3]?) (same fun p => if p = addr.toNat then 1 else 0)
  simp only [getElem?_copyDwords_three _ _ nonempty, if_pos, Option.some.injEq] at fourth
  split at fourth
  · exact (BitVec.eq_of_toNat_eq ‹_›).symm
  · cases fourth

theorem toNat_byteStride {stride : Word} (bounded : stride.toNat < 256) :
    (stride * 4).toNat = 4 * stride.toNat := by
  have four : (4 : Word).toNat = 4 := rfl
  rw [BitVec.toNat_mul, four]
  omega

/-- What the descriptor says of an attribute whose fetch has a nonnegative offset. -/
structure ReadsAt (stride : Word) (attr : VertexAttributeDescriptor)
    (strideDwords offset dwords : Nat) : Prop where
  stride : stride.toNat = 4 * strideDwords
  offset : attr.offset.toNat = 4 * offset
  dwords : attr.format.dwords = dwords

/-- The pipeline's read is a copy from the guest buffer. -/
theorem ReadsAt.read {stride : Word} {attr : VertexAttributeDescriptor}
    {strideDwords offset dwords : Nat} (reads : ReadsAt stride attr strideDwords offset dwords)
    {mem : Memory} {gpuState : GpuRegisterState} {v : Nat}
    (inside : attr.start stride v + attr.byteSize ≤ (vertexBufferCopy mem gpuState).length) :
    attr.read stride (vertexBufferCopy mem gpuState) v =
      copyDwords mem (fetchConstantAddr gpuState 0 +
        BitVec.ofNat 32 (4 * (v * strideDwords + offset))) dwords := by
  have start : attr.start stride v = 4 * (v * strideDwords + offset) := by
    rw [VertexAttributeDescriptor.start, reads.stride, reads.offset]
    ring
  rw [start, VertexAttributeDescriptor.byteSize, reads.dwords, vertexBufferCopy,
    copyDwords_length] at inside
  rw [VertexAttributeDescriptor.read, start, VertexAttributeDescriptor.byteSize, reads.dwords]
  exact copyDwords_slice mem _ (by omega)

/-- A recorded attribute, read with the stride of some fetch. -/
theorem readsAt_of_records {attr : TranslatedAttribute} {fetch : FetchAddressing}
    {strideDwords : Word} (records : Records attr fetch) (nonneg : 0 ≤ fetch.offset)
    (bounded : strideDwords.toNat < 256) :
    ReadsAt (strideDwords * 4) ⟨attr.format, attr.byteOffset, 0⟩ strideDwords.toNat
      fetch.offset.toNat fetch.format.dwords := by
  constructor
  · exact toNat_byteStride bounded
  · have small := records.offsetLt
    simp only [records.byteOffset, BitVec.toNat_ofInt]
    omega
  · simp only [records.format]

theorem fetchedBytes_of_offset {fetch : FetchAddressing} {offset : Nat}
    (isOffset : fetch.offset = offset) (mem : Memory) (gpuState : GpuRegisterState) (v : Nat) :
    fetchedBytes mem gpuState fetch v =
      copyDwords mem (fetchConstantAddr gpuState fetch.fetchConstantIndex +
        BitVec.ofNat 32 (4 * (v * fetch.stride.toNat + offset))) fetch.format.dwords := by
  have address : (4 * (v * fetch.stride.toNat + fetch.offset) : Int) =
      ((4 * (v * fetch.stride.toNat + offset) : Nat) : Int) := by
    rw [isOffset]
    push_cast
    ring
  rw [fetchedBytes, address, BitVec.ofInt_natCast]

theorem denotesFetch_of_oneStream {attr : TranslatedAttribute} {fetch : FetchAddressing}
    {strideDwords : Word} (records : Records attr fetch)
    (constant : fetch.fetchConstantIndex = 0) (nonneg : 0 ≤ fetch.offset)
    (inRecord : fetch.offset + fetch.format.dwords ≤ fetch.stride.toNat)
    (oneStride : strideDwords = fetch.stride) :
    DenotesFetch (strideDwords * 4) ⟨attr.format, attr.byteOffset, 0⟩ fetch := by
  subst oneStride
  have reads := readsAt_of_records records nonneg records.strideLt
  obtain ⟨offset, isOffset⟩ := Int.eq_ofNat_of_zero_le nonneg
  rw [isOffset] at reads inRecord
  constructor
  · intro mem gpuState v drawn inside
    rw [reads.read inside, fetchedBytes_of_offset isOffset, constant]
    rfl
  · exact nonneg
  · rw [VertexAttributeDescriptor.byteSize, reads.offset, reads.dwords, reads.stride]
    omega

/-- A register bank in which constant 0 differs from every other constant. -/
def distinguishingState : GpuRegisterState :=
  (GpuRegisterState.initial.writeRegister 0x4800 0x40).writeRegister 0x4801 0x4000

theorem fetchConstantAddr_distinguishing_zero :
    fetchConstantAddr distinguishingState 0 = 0xA0000040 := by
  decide +kernel

theorem fetchConstantAddr_distinguishing_of_ne {slot : Word} (other : slot ≠ 0) :
    fetchConstantAddr distinguishingState slot = 0xA0000000 := by
  unfold fetchConstantAddr GpuRegisterState.getVertexFetchConstant
  split
  · rfl
  · rename_i inRange
    have low : kVertexFetchConstantBase + slot * 2 ≠ 0x4800 := by
      simp only [kVertexFetchConstantBase, kVertexFetchConstantSlotCount] at *
      bv_omega
    have high : kVertexFetchConstantBase + slot * 2 ≠ 0x4801 := by
      simp only [kVertexFetchConstantBase, kVertexFetchConstantSlotCount] at *
      bv_omega
    dsimp only
    rw [distinguishingState, GpuRegisterState.readRegister_writeRegister_of_ne _ _ high,
      GpuRegisterState.readRegister_writeRegister_of_ne _ _ low]
    have unwritten : GpuRegisterState.initial.readRegister
        (kVertexFetchConstantBase + slot * 2) = 0 := by
      unfold GpuRegisterState.readRegister
      split <;> rfl
    rw [unwritten]
    rfl

theorem vertexByteSize_distinguishing : vertexByteSize distinguishingState = 0x4000 := by
  decide +kernel

theorem vertexBufferDrawn_distinguishing : VertexBufferDrawn distinguishingState := by
  rw [VertexBufferDrawn, vertexByteSize_distinguishing]
  decide

theorem vertexBufferCopy_distinguishing_length (mem : Memory) :
    (vertexBufferCopy mem distinguishingState).length = 0x4000 := by
  rw [vertexBufferCopy, copyDwords_length, vertexByteSize_distinguishing]
  rfl

/-- An attribute that denotes its fetch reads constant 0 with the stride of the fetch. -/
theorem oneStream_of_denotesFetch {attr : TranslatedAttribute} {fetch : FetchAddressing}
    {strideDwords : Word} (records : Records attr fetch) (bounded : strideDwords.toNat < 256)
    (denotes : DenotesFetch (strideDwords * 4) ⟨attr.format, attr.byteOffset, 0⟩ fetch) :
    fetch.fetchConstantIndex = 0 ∧ 0 ≤ fetch.offset ∧
      fetch.offset + fetch.format.dwords ≤ fetch.stride.toNat ∧
        strideDwords = fetch.stride := by
  have reads := readsAt_of_records records denotes.offsetNonneg bounded
  have inRecord := denotes.inRecord
  obtain ⟨offset, isOffset⟩ := Int.eq_ofNat_of_zero_le denotes.offsetNonneg
  rw [isOffset, Int.toNat_natCast] at reads
  rw [VertexAttributeDescriptor.byteSize, reads.offset, reads.dwords, reads.stride] at inRecord
  -- the first two records lie inside the buffer of the distinguishing bank
  have sameAddress : ∀ v < 2, fetchConstantAddr distinguishingState 0 +
      BitVec.ofNat 32 (4 * (v * strideDwords.toNat + offset)) =
        fetchConstantAddr distinguishingState fetch.fetchConstantIndex +
          BitVec.ofNat 32 (4 * (v * fetch.stride.toNat + offset)) := by
    intro v small
    apply copyDwords_inj fetch.format.dwords_pos
    intro mem
    have inside : VertexAttributeDescriptor.start ⟨attr.format, attr.byteOffset, 0⟩
        (strideDwords * 4) v + VertexAttributeDescriptor.byteSize
          ⟨attr.format, attr.byteOffset, 0⟩ ≤
        (vertexBufferCopy mem distinguishingState).length := by
      rw [vertexBufferCopy_distinguishing_length, VertexAttributeDescriptor.start,
        VertexAttributeDescriptor.byteSize, reads.offset, reads.dwords, reads.stride]
      have : v * (4 * strideDwords.toNat) ≤ 1 * (4 * strideDwords.toNat) :=
        Nat.mul_le_mul_right _ (by omega)
      omega
    rw [← reads.read inside, ← fetchedBytes_of_offset isOffset]
    exact denotes.sameBytes mem _ v vertexBufferDrawn_distinguishing inside
  have constant : fetch.fetchConstantIndex = 0 := by
    by_contra other
    have first := sameAddress 0 (by decide)
    rw [fetchConstantAddr_distinguishing_zero, fetchConstantAddr_distinguishing_of_ne other,
      Nat.zero_mul, Nat.zero_mul] at first
    have differ := (BitVec.add_left_inj _).mp first
    cases differ
  have oneStride : strideDwords = fetch.stride := by
    have second := sameAddress 1 (by decide)
    rw [constant] at second
    have places := congrArg BitVec.toNat ((BitVec.add_right_inj _).mp second)
    rw [BitVec.toNat_ofNat, BitVec.toNat_ofNat] at places
    have fetchBounded := records.strideLt
    have offsetBounded := records.offsetLt
    apply BitVec.eq_of_toNat_eq
    omega
  refine ⟨constant, denotes.offsetNonneg, ?_, oneStride⟩
  rw [isOffset, ← oneStride]
  omega

/-- A relation that only depends on the right elements of two related lists. -/
theorem forall₂_iff_right {α β : Type} {R S : α → β → Prop} {P : β → Prop} {left : List α}
    {right : List β} (related : List.Forall₂ R left right)
    (agree : ∀ a b, R a b → (S a b ↔ P b)) :
    List.Forall₂ S left right ↔ ∀ b ∈ right, P b := by
  induction related with
  | nil => simp
  | cons head _ ih => rw [List.forall₂_cons, List.forall_mem_cons, agree _ _ head, ih]

/-- Recorded fetches have 8-bit strides. -/
theorem strideLt_of_recorded {attributes : List TranslatedAttribute}
    {fetches : List FetchAddressing} (recorded : List.Forall₂ Records attributes fetches) :
    ∀ fetch ∈ fetches, fetch.stride.toNat < 256 :=
  (forall₂_iff_right recorded fun _ _ records =>
    iff_of_true records records.strideLt).mp recorded

theorem denotesFetch_iff {attr : TranslatedAttribute} {fetch : FetchAddressing}
    {strideDwords : Word} (bounded : strideDwords.toNat < 256) (records : Records attr fetch) :
    DenotesFetch (strideDwords * 4) ⟨attr.format, attr.byteOffset, 0⟩ fetch ↔
      fetch.fetchConstantIndex = 0 ∧ 0 ≤ fetch.offset ∧
        fetch.offset + fetch.format.dwords ≤ fetch.stride.toNat ∧
          strideDwords = fetch.stride := by
  constructor
  · exact oneStream_of_denotesFetch records bounded
  · rintro ⟨constant, nonneg, inRecord, oneStride⟩
    exact denotesFetch_of_oneStream records constant nonneg inRecord oneStride

theorem fetchesOneStream_iff {fetches : List FetchAddressing} {last : FetchAddressing}
    (member : last ∈ fetches) :
    FetchesOneStream fetches ↔ ∀ fetch ∈ fetches, fetch.fetchConstantIndex = 0 ∧
      0 ≤ fetch.offset ∧ fetch.offset + fetch.format.dwords ≤ fetch.stride.toNat ∧
        last.stride = fetch.stride := by
  constructor
  · intro oneStream fetch inFetches
    obtain ⟨constant, nonneg, inRecord, strides⟩ := oneStream fetch inFetches
    exact ⟨constant, nonneg, inRecord, strides last member⟩
  · intro all fetch inFetches
    obtain ⟨constant, nonneg, inRecord, stride⟩ := all fetch inFetches
    refine ⟨constant, nonneg, inRecord, ?_⟩
    intro other otherIn
    rw [← stride, (all other otherIn).2.2.2]

/-- The fetches of a translated vertex shader, and what its layout makes of them. -/
theorem exists_fetches_of_success {dwords : List Word} {dwordCount : Word}
    (success : (translateShader dwords dwordCount 0).success = true) :
    ∃ fetches, vertexFetches dwords dwordCount = some fetches ∧
      (LayoutDenotesFetches dwords dwordCount ↔ FetchesOneStream fetches) := by
  obtain ⟨fetches, decoded, recorded, last, isLast, stride⟩ :=
    translateShader_recordsFetches success
  have member := List.mem_of_getLast? isLast
  have bounded := strideLt_of_recorded recorded last member
  refine ⟨fetches, decoded, ?_⟩
  rw [fetchesOneStream_iff member,
    ← forall₂_iff_right recorded fun _ _ => denotesFetch_iff bounded]
  simp only [LayoutDenotesFetches, decoded, Option.some.injEq, exists_eq_left', vertexDescriptor,
    List.forall₂_map_left_iff, stride]

/-- The layout of a translated vertex shader denotes the memory of its fetches exactly
when they all read one stream of constant 0. -/
theorem layoutDenotesFetches_iff {dwords : List Word} {dwordCount : Word}
    (success : (translateShader dwords dwordCount 0).success = true) :
    LayoutDenotesFetches dwords dwordCount ↔
      ∃ fetches, vertexFetches dwords dwordCount = some fetches ∧
        FetchesOneStream fetches := by
  obtain ⟨fetches, decoded, denotes⟩ := exists_fetches_of_success success
  rw [denotes, decoded]
  simp only [Option.some.injEq, exists_eq_left']

theorem layoutDenotesFetches_iff_coloredVertex :
    (translateShader coloredVertexMicrocode 15 0).success = true ∧
      LayoutDenotesFetches coloredVertexMicrocode 15 := by
  have success : (translateShader coloredVertexMicrocode 15 0).success = true := by
    decide +kernel
  refine ⟨success, (layoutDenotesFetches_iff success).mpr ?_⟩
  exact ⟨[⟨0, 7, 0, .float3⟩, ⟨0, 7, 3, .float4⟩], by decide +kernel, by decide⟩

/-- The second element is read from constant 0, although its fetch names constant 3. -/
theorem maskedExport_readsOtherConstant :
    (translateShader maskedExportMicrocode 15 0).success = true ∧
      ¬ LayoutDenotesFetches maskedExportMicrocode 15 := by
  have success : (translateShader maskedExportMicrocode 15 0).success = true := by
    decide +kernel
  obtain ⟨fetches, decoded, denotes⟩ := exists_fetches_of_success success
  have named : vertexFetches maskedExportMicrocode 15 =
      some [⟨0, 4, 0, .float4⟩, ⟨3, 4, 0, .float4⟩] := by
    decide +kernel
  obtain rfl := Option.some.inj (named.symm.trans decoded)
  refine ⟨success, fun holds => ?_⟩
  have constant := (denotes.mp holds ⟨3, 4, 0, .float4⟩ (by decide)).1
  cases constant

end BumpinHost.Renderer
