import BumpinHost.Gpu.ShaderCache
import BumpinHost.Library.Mixing

/-!
# Shaders that differ in a few bytes

The scan takes a microcode for the one that was loaded before it when their hashes agree.  A
title that patches an operand of a shader changes a few neighbouring bytes of it, and for
those the hash is exact.
-/

namespace BumpinHost.Gpu

open BumpinHost.Shader BumpinHost.DigestCache BumpinHost.Mixing

theorem fnv1aHash_eq (data : List Byte) : fnv1aHash data = data.foldl fnvStep 2166136261 := rfl

/-- Byte strings that differ in up to three neighbouring bytes have different hashes. -/
theorem fnv1aHash_window {before first second after : List Byte}
    (sameLength : first.length = second.length) (short : first.length ≤ 3)
    (collide : fnv1aHash (before ++ first ++ after) = fnv1aHash (before ++ second ++ after)) :
    first = second :=
  (separates_fnvStep.of_le 0 short).window reversible_fnvStep rfl sameLength.symm collide

theorem littleEndianBytes_injective : Function.Injective littleEndianBytes := by
  intro first second same
  simp only [littleEndianBytes, List.cons.injEq, and_true] at same
  obtain ⟨lowest, low, high, highest⟩ := same
  rw [← Memory.word_of_bytes first, ← Memory.word_of_bytes second, lowest, low, high, highest]

theorem flatMap_littleEndianBytes_injective :
    Function.Injective fun words : List Word => words.flatMap littleEndianBytes := by
  intro first second same
  induction first generalizing second with
  | nil =>
      cases second with
      | nil => rfl
      | cons word rest => cases same
  | cons word rest ih =>
      cases second with
      | nil => cases same
      | cons other others =>
          have split := List.append_inj same rfl
          rw [littleEndianBytes_injective split.1, ih split.2]

namespace ImLoadPacket

variable {packet last : ImLoadPacket}

/-- The bytes that are hashed. -/
def microcodeBytes (packet : ImLoadPacket) : List Byte :=
  packet.microcode.flatMap littleEndianBytes

/-- The microcode of one packet is that of another with up to three neighbouring bytes
replaced. -/
def PatchedFrom (last packet : ImLoadPacket) : Prop :=
  ∃ before first second after, first.length = second.length ∧ first.length ≤ 3 ∧
    last.microcodeBytes = before ++ first ++ after ∧
    packet.microcodeBytes = before ++ second ++ after

theorem hash_eq (packet : ImLoadPacket) : packet.hash = fnv1aHash packet.microcodeBytes := rfl

theorem hash_congr (same : packet.microcode = last.microcode) : packet.hash = last.hash := by
  rw [hash, hash, same]

/-- The hash tells a patched microcode from the one it was. -/
theorem PatchedFrom.microcode_eq (patched : last.PatchedFrom packet)
    (collide : packet.hash = last.hash) : packet.microcode = last.microcode := by
  obtain ⟨before, first, second, after, sameLength, short, lastBytes, packetBytes⟩ := patched
  rw [hash_eq, hash_eq, lastBytes, packetBytes] at collide
  have same := fnv1aHash_window sameLength short collide.symm
  apply flatMap_littleEndianBytes_injective
  exact packetBytes.trans (same ▸ lastBytes.symm)

/-- A microcode that is loaded again for its type has the translation it had. -/
theorem translation_congr (recognized : packet.Recognized) (lastRecognized : last.Recognized)
    (sameType : last.shaderType = packet.shaderType) (same : packet.microcode = last.microcode) :
    packet.translation = last.translation := by
  have size : packet.sizeDwords = last.sizeDwords := by
    rw [← packet.microcode_length, ← last.microcode_length, same]
  have type : packet.shaderTypeValue = last.shaderTypeValue := by
    obtain ⟨-, -, -, known⟩ := recognized
    obtain ⟨-, -, -, lastKnown⟩ := lastRecognized
    unfold shaderType at sameType
    rcases known with vertex | pixel <;> rcases lastKnown with lastVertex | lastPixel
    · rw [vertex, lastVertex]
    · rw [vertex, lastPixel] at sameType
      cases sameType
    · rw [pixel, lastVertex] at sameType
      cases sameType
    · rw [pixel, lastPixel]
  rw [translation, translation, same, size, type]

end ImLoadPacket

/-- Each packet patches the one of its type before it, and the first of a type does not hash
to zero, the hash of a cache that was never filled. -/
structure PatchedLoads (packets : List ImLoadPacket) : Prop where
  recognized : ∀ packet ∈ packets, packet.Recognized
  first : ∀ past packet, past ++ [packet] <+: packets →
    lastOfType past packet.shaderType = none → packet.hash ≠ 0
  patched : ∀ past packet last, past ++ [packet] <+: packets →
    lastOfType past packet.shaderType = some last → last.PatchedFrom packet

theorem lastOfType_mem {past : List ImLoadPacket} {shaderType : ShaderType} {last : ImLoadPacket}
    (found : lastOfType past shaderType = some last) :
    last ∈ past ∧ last.shaderType = shaderType := by
  have member := List.mem_of_mem_getLast? found
  obtain ⟨inPast, type⟩ := List.mem_filter.mp member
  exact ⟨inPast, of_decide_eq_true type⟩

theorem lastOfType_singleton {last : ImLoadPacket} {shaderType : ShaderType}
    (type : last.shaderType = shaderType) : lastOfType [last] shaderType = some last := by
  simp [lastOfType, type]

namespace PatchedLoads

variable {packets past : List ImLoadPacket} {packet : ImLoadPacket}

theorem recognized_past (loads : PatchedLoads packets) (isPrefix : past ++ [packet] <+: packets) :
    (∀ earlier ∈ past, earlier.Recognized) ∧ packet.Recognized := by
  have members := isPrefix.subset
  exact ⟨fun earlier member => loads.recognized earlier (members (List.mem_append_left _ member)),
    loads.recognized packet (members (by simp))⟩

theorem hashDistinguishes (loads : PatchedLoads packets)
    (isPrefix : past ++ [packet] <+: packets) : HashDistinguishes past packet := by
  obtain ⟨earlierRecognized, recognized⟩ := loads.recognized_past isPrefix
  unfold HashDistinguishes
  cases found : lastOfType past packet.shaderType with
  | none => exact loads.first past packet isPrefix found
  | some last =>
      intro collide
      obtain ⟨inPast, sameType⟩ := lastOfType_mem found
      exact ImLoadPacket.translation_congr recognized (earlierRecognized last inPast) sameType
        ((loads.patched past packet last isPrefix found).microcode_eq collide)

/-- The cache is the one that translates every shader. -/
theorem cacheEntry_eq (loads : PatchedLoads packets) (isPrefix : past <+: packets) :
    cacheEntry (afterPackets .initial past) =
      shaderScheme.storeAll (cacheEntry .initial) past := by
  rw [cacheEntry_afterPackets fun packet member =>
    loads.recognized packet (isPrefix.subset member)]
  apply Scheme.loadAll_eq_storeAll
  intro earlier packet shorter
  exact (distinguished_iff_hashDistinguishes earlier packet).mpr
    (loads.hashDistinguishes (shorter.trans isPrefix))

theorem cacheEntry_last (loads : PatchedLoads packets) (isPrefix : past <+: packets)
    {shaderType : ShaderType} {last : ImLoadPacket}
    (found : lastOfType past shaderType = some last) :
    cacheEntry (afterPackets .initial past) shaderType = ⟨last.hash, last.translation⟩ := by
  have same : (past.filter fun item => shaderScheme.key item = shaderType).getLast? =
      some last := found
  rw [loads.cacheEntry_eq isPrefix, Scheme.storeAll_eq_last, same]
  rfl

end PatchedLoads

theorem afterPackets_concat (cache : ShaderTranslationCache) (past : List ImLoadPacket)
    (packet : ImLoadPacket) :
    afterPackets cache (past ++ [packet]) = packet.execute (afterPackets cache past) :=
  List.foldl_concat ..

/-- While each shader is a patch of up to three neighbouring bytes of the one of its type before
it, the cache always holds the shader loaded last, and it translates again exactly when a byte
has changed. -/
theorem patchedLoads_reflected {packets : List ImLoadPacket} (loads : PatchedLoads packets) :
    ReflectsLoads packets ∧
      ∀ past packet last, past ++ [packet] <+: packets →
        lastOfType past packet.shaderType = some last →
        (packet.execute (afterPackets .initial past) = afterPackets .initial past ↔
          packet.microcode = last.microcode) := by
  have own : ∀ slots packet,
      shaderScheme.store slots packet packet.shaderType = ⟨packet.hash, packet.translation⟩ :=
    fun _ _ => Scheme.store_key
  constructor
  · intro past packet isPrefix
    have shorter := (List.prefix_append past [packet]).trans isPrefix
    rw [loads.cacheEntry_eq isPrefix, loads.cacheEntry_eq shorter, Scheme.storeAll_concat, own]
    exact ⟨rfl, fun other different => Scheme.store_of_ne different⟩
  · intro past packet last isPrefix found
    have shorter := (List.prefix_append past [packet]).trans isPrefix
    have entry := loads.cacheEntry_last shorter found
    obtain ⟨-, recognized⟩ := loads.recognized_past isPrefix
    constructor
    · intro unchanged
      apply (loads.patched past packet last isPrefix found).microcode_eq
      have stored := congrFun (loads.cacheEntry_eq isPrefix) packet.shaderType
      rw [afterPackets_concat, unchanged, entry, Scheme.storeAll_concat, own] at stored
      exact (congrArg Slot.digest stored).symm
    · intro same
      rw [ImLoadPacket.execute_eq recognized, entry, if_neg]
      exact not_not.mpr (ImLoadPacket.hash_congr same)

/-- The pass-through shader, and the same with another byte in its first instruction. -/
def patchedShaders : List ImLoadPacket :=
  [pixelLoadPacket passThroughPixelMicrocode,
    pixelLoadPacket [0x1001, 0x2000, 0, 0xF8001, 0, 0xC2000000]]

theorem prefix_pair {α : Type*} {past : List α} {item first second : α}
    (isPrefix : past ++ [item] <+: [first, second]) :
    past = [] ∧ item = first ∨ past = [first] ∧ item = second := by
  obtain ⟨rest, whole⟩ := isPrefix
  rcases past with _ | ⟨head, _ | ⟨next, tail⟩⟩
  · left
    simp_all
  · right
    simp_all
  · have length := congrArg List.length whole
    simp only [List.length_append, List.length_cons, List.length_nil] at length
    omega

theorem patchedShaders_pixel : ∀ packet ∈ patchedShaders, packet.shaderType = .pixel := by
  decide +kernel

theorem patchedShaders_patched : PatchedLoads patchedShaders := by
  constructor
  · decide +kernel
  · intro past packet isPrefix none
    rcases prefix_pair isPrefix with ⟨rfl, rfl⟩ | ⟨rfl, rfl⟩
    · decide +kernel
    · rw [patchedShaders_pixel _ (by simp [patchedShaders]),
        lastOfType_singleton (patchedShaders_pixel _ List.mem_cons_self)] at none
      cases none
  · intro past packet last isPrefix found
    rcases prefix_pair isPrefix with ⟨rfl, rfl⟩ | ⟨rfl, rfl⟩
    · cases found
    · obtain rfl : last = pixelLoadPacket passThroughPixelMicrocode := by
        simpa using (lastOfType_mem found).1
      refine ⟨(pixelLoadPacket passThroughPixelMicrocode).microcodeBytes.take 12, [0], [1],
        (pixelLoadPacket passThroughPixelMicrocode).microcodeBytes.drop 13, rfl, by decide, ?_⟩
      decide +kernel

theorem patchedLoads_reflected_patchedShaders :
    ReflectsLoads patchedShaders ∧
      (pixelLoadPacket [0x1001, 0x2000, 0, 0xF8001, 0, 0xC2000000]).execute
          (afterPackets .initial [pixelLoadPacket passThroughPixelMicrocode]) ≠
        afterPackets .initial [pixelLoadPacket passThroughPixelMicrocode] := by
  obtain ⟨reflected, again⟩ := patchedLoads_reflected patchedShaders_patched
  refine ⟨reflected, fun unchanged => ?_⟩
  have last := lastOfType_singleton (patchedShaders_pixel _ List.mem_cons_self)
  rw [← patchedShaders_pixel _ (List.mem_cons_of_mem _ List.mem_cons_self)] at last
  have same := (again _ _ _ List.prefix_rfl last).mp unchanged
  revert same
  decide +kernel

end BumpinHost.Gpu
