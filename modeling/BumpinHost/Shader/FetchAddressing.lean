import BumpinHost.Shader.Recognition

/-!
# The memory that vertex fetches address

A full fetch names a fetch constant and a stride, and the mini-fetches after it use the
same two.  A successful translation records the format and the offset of every fetch,
but only one stride.
-/

namespace BumpinHost.Shader

/-- Size of an element in dwords. -/
def TranslatedVertexFormat.dwords : TranslatedVertexFormat → Nat
  | float3 => 3
  | float4 => 4

theorem TranslatedVertexFormat.dwords_pos (format : TranslatedVertexFormat) :
    0 < format.dwords := by
  cases format <;> decide

/-- What a fetch reads: for vertex `v`, the dwords of its format from dword
`v * stride + offset` of the buffer of its fetch constant. -/
structure FetchAddressing where
  fetchConstantIndex : Word
  stride : Word
  offset : Int
  format : TranslatedVertexFormat
deriving DecidableEq, Repr

/-- The fetches decoded so far, and the fetch constant and stride a mini-fetch inherits. -/
structure DecodedFetches where
  lastFullFetch : Option (Word × Word)
  fetches : List FetchAddressing
deriving DecidableEq, Repr

def DecodedFetches.initial : DecodedFetches := ⟨none, []⟩

def decodeFetchAddressing (decoded : DecodedFetches) (slot : ExecSlot) :
    Option DecodedFetches :=
  if ¬ slot.isFetch then some decoded
  else
    let vf := decodeVertexFetchInstruction slot.iw0 slot.iw1 slot.iw2
    let used := if vf.isMiniFetch then decoded.lastFullFetch
      else some (vf.fetchConstantIndex, vf.stride)
    match translatedFormat vf.format, used with
    | some format, some (fetchConstantIndex, stride) =>
        some ⟨some (fetchConstantIndex, stride),
          decoded.fetches ++ [⟨fetchConstantIndex, stride, vf.offset.toInt, format⟩]⟩
    | _, _ => none

/-- The vertex fetches of a microcode array, in the order in which they run. -/
def vertexFetches (dwords : List Word) (dwordCount : Word) :
    Option (List FetchAddressing) := do
  let slots ← programSlots dwords (dwordCount.toNat / 3) 0 (dwordCount / 3 * 3)
  let decoded ← slots.foldlM decodeFetchAddressing .initial
  return decoded.fetches

theorem toNat_stride_lt (word0 word1 word2 : Word) :
    (decodeVertexFetchInstruction word0 word1 word2).stride.toNat < 256 := by
  have field := BitFields.toNat_lowField word2 8 (by decide)
  change (word2 &&& 0xFF).toNat < 256
  change (word2 &&& 0xFF).toNat = _ at field
  rw [field]
  exact Nat.mod_lt _ (by decide)

/-- The offset field has twenty-three bits with its sign. -/
theorem toInt_offset_lt (word0 word1 word2 : Word) :
    (decodeVertexFetchInstruction word0 word1 word2).offset.toInt < 2 ^ 23 := by
  have field := BitFields.toNat_field word2 8 23 (by decide)
  change ((word2 >>> 8) &&& 0x7FFFFF).toNat = _ at field
  have small : ((word2 >>> 8) &&& 0x7FFFFF).toNat < 2 ^ 23 := by
    rw [field]
    exact Nat.mod_lt _ (by decide)
  unfold decodeVertexFetchInstruction
  dsimp only
  split
  · -- the extension sets the sign bit
    have negative : ((word2 >>> 8) &&& 0x7FFFFF ||| 0xFF800000).msb = true := by
      rw [BitVec.msb_or, Bool.or_eq_true]
      exact Or.inr (by decide)
    rw [BitVec.toInt_eq_msb_cond, if_pos negative]
    have := ((word2 >>> 8) &&& 0x7FFFFF ||| 0xFF800000).isLt
    omega
  · rw [BitVec.toInt_eq_toNat_of_lt (by omega)]
    omega

structure Records (attr : TranslatedAttribute) (fetch : FetchAddressing) : Prop where
  fetchConstantIndex : attr.fetchConstantIndex = fetch.fetchConstantIndex
  format : attr.format = fetch.format
  byteOffset : attr.byteOffset = BitVec.ofInt 32 (4 * fetch.offset)
  strideLt : fetch.stride.toNat < 256
  offsetLt : fetch.offset < 2 ^ 23

/-- The translator's state agrees with the fetches of the slots it has visited. -/
structure TracksFetches (st : TranslateState) (decoded : DecodedFetches) : Prop where
  saw : st.sawFullFetch = decoded.lastFullFetch.isSome
  last : ∀ fetchConstantIndex stride,
    decoded.lastFullFetch = some (fetchConstantIndex, stride) →
      st.lastFullFetchConstantIndex = fetchConstantIndex ∧
        st.vertexStrideBytes = stride * 4 ∧ stride.toNat < 256
  records : List.Forall₂ Records st.attributes decoded.fetches
  lastStride : ∀ fetch, decoded.fetches.getLast? = some fetch →
    st.vertexStrideBytes = fetch.stride * 4

theorem TracksFetches.initial : TracksFetches .initial .initial := by
  constructor
  · rfl
  · intro fetchConstantIndex stride none
    cases none
  · exact .nil
  · intro fetch none
    cases none

/-- Recording one more fetch. -/
theorem TracksFetches.fetch {st st' : TranslateState} {decoded : DecodedFetches}
    (tracks : TracksFetches st decoded) {attr : TranslatedAttribute} (fetch : FetchAddressing)
    (records : Records attr fetch) (saw : st'.sawFullFetch = true)
    (constant : st'.lastFullFetchConstantIndex = fetch.fetchConstantIndex)
    (stride : st'.vertexStrideBytes = fetch.stride * 4)
    (attributes : st'.attributes = st.attributes ++ [attr]) :
    TracksFetches st' ⟨some (fetch.fetchConstantIndex, fetch.stride),
      decoded.fetches ++ [fetch]⟩ := by
  constructor
  · exact saw
  · intro fetchConstantIndex strideDwords isLast
    obtain ⟨rfl, rfl⟩ := Prod.mk.inj (Option.some.inj isLast)
    exact ⟨constant, stride, records.strideLt⟩
  · rw [attributes]
    exact List.rel_append tracks.records (.cons records .nil)
  · intro other isLast
    rw [List.getLast?_concat] at isLast
    obtain rfl := Option.some.inj isLast
    exact stride

theorem translateFetch_tracksFetches {st st' : TranslateState} {decoded : DecodedFetches}
    {slot : ExecSlot} (isFetch : slot.isFetch = true) (tracks : TracksFetches st decoded)
    (translated : translateFetch st slot.iw0 slot.iw1 slot.iw2 = .ok st') :
    ∃ decoded', decodeFetchAddressing decoded slot = some decoded' ∧
      TracksFetches st' decoded' := by
  have strideLt := toNat_stride_lt slot.iw0 slot.iw1 slot.iw2
  have offsetLt := toInt_offset_lt slot.iw0 slot.iw1 slot.iw2
  unfold decodeFetchAddressing
  rw [if_neg (not_not.mpr isFetch)]
  obtain ⟨format, -, formatted, -, added⟩ := translateFetch_cases translated
  generalize decodeVertexFetchInstruction slot.iw0 slot.iw1 slot.iw2 = vf at *
  have byteOffset : vf.offset * 4 = BitVec.ofInt 32 (4 * vf.offset.toInt) := by
    rw [BitVec.ofInt_mul, BitVec.ofInt_toInt, BitVec.mul_comm]
    rfl
  dsimp only
  rw [formatted]
  obtain ⟨mini, saw, rfl⟩ | ⟨full, rfl⟩ := added
  · have inherits : decoded.lastFullFetch.isSome = true := by
      rw [← tracks.saw]
      exact saw
    obtain ⟨⟨fetchConstantIndex, stride⟩, isLast⟩ := Option.isSome_iff_exists.mp inherits
    obtain ⟨constant, strideBytes, inheritedLt⟩ := tracks.last _ _ isLast
    rw [if_pos mini, isLast]
    exact ⟨_, rfl, tracks.fetch ⟨fetchConstantIndex, stride, vf.offset.toInt, format⟩
      ⟨constant, rfl, byteOffset, inheritedLt, offsetLt⟩ saw constant strideBytes rfl⟩
  · rw [if_neg (Bool.eq_false_iff.mp full)]
    exact ⟨_, rfl, tracks.fetch ⟨vf.fetchConstantIndex, vf.stride, vf.offset.toInt, format⟩
      ⟨rfl, rfl, byteOffset, strideLt, offsetLt⟩ rfl rfl rfl rfl⟩

theorem translateAlu_keepsFetches {st st' : TranslateState} {iw0 iw1 iw2 : Word}
    (translated : translateAlu 0 st iw0 iw1 iw2 = .ok st') :
    st'.sawFullFetch = st.sawFullFetch ∧
      st'.lastFullFetchConstantIndex = st.lastFullFetchConstantIndex ∧
      st'.vertexStrideBytes = st.vertexStrideBytes ∧ st'.attributes = st.attributes := by
  obtain ⟨-, ⟨-, rfl⟩ | ⟨-, -, -, -, -, -, recorded⟩⟩ := translateAlu_cases translated
  · exact ⟨rfl, rfl, rfl, rfl⟩
  · obtain rfl := recorded
    exact ⟨rfl, rfl, rfl, rfl⟩

theorem translateSlot_tracksFetches (dwords : List Word) (dwordCount : Word)
    (cf : ControlFlowInstruction) :
    Simulates TracksFetches (translateSlot dwords dwordCount 0 cf)
      (fun decoded j => decodeFetchAddressing decoded (execSlot dwords cf j)) := by
  intro st decoded j st' tracks translated
  dsimp only
  obtain ⟨-, ⟨fetch, accepted⟩ | ⟨alu, accepted⟩⟩ := translateSlot_cases translated
  · exact translateFetch_tracksFetches fetch tracks accepted
  · obtain ⟨saw, constant, stride, attributes⟩ := translateAlu_keepsFetches accepted
    refine ⟨decoded, if_pos (Bool.eq_false_iff.mp alu), ?_⟩
    constructor
    · rw [saw, tracks.saw]
    · rw [constant, stride]
      exact tracks.last
    · rw [attributes]
      exact tracks.records
    · rw [stride]
      exact tracks.lastStride

/-- A successful vertex translation records every fetch, and the stride of the last. -/
theorem translateShader_recordsFetches {dwords : List Word} {dwordCount : Word}
    (success : (translateShader dwords dwordCount 0).success = true) :
    ∃ fetches, vertexFetches dwords dwordCount = some fetches ∧
      List.Forall₂ Records (translateShader dwords dwordCount 0).attributes fetches ∧
      ∃ last, fetches.getLast? = some last ∧
        (translateShader dwords dwordCount 0).vertexStrideBytes = last.stride * 4 := by
  obtain ⟨st, walked, parts, vertex⟩ := translateShader_walked success
  obtain ⟨slots, decoded, listed, folded, tracks⟩ := translateWalk_simulates
    (translateSlot_tracksFetches dwords dwordCount) _ TracksFetches.initial walked
  have attributes : (translateShader dwords dwordCount 0).attributes = st.attributes :=
    congrArg TranslatedParts.attributes parts
  have stride := congrArg TranslatedParts.vertexStrideBytes parts
  have fetched : decoded.fetches ≠ [] := by
    intro empty
    have same := tracks.records.length_eq
    rw [empty] at same
    exact (vertex rfl).1 (List.length_eq_zero_iff.mp same)
  have isLast := List.getLast?_eq_some_getLast fetched
  refine ⟨decoded.fetches, ?_, ?_, _, isLast, stride.trans (tracks.lastStride _ isLast)⟩
  · simp only [vertexFetches, listed, folded, bind, Option.bind_some]
    rfl
  · rw [attributes]
    exact tracks.records

end BumpinHost.Shader
