import BumpinHost.Gpu.PacketEncoding

/-!
# Scanning what was encoded

The scanner reads each encoded packet back: it finds the header, does the
packet's register writes, and advances by the length of its encoding.  Payload
words are never taken for headers, whatever they look like.
-/

namespace BumpinHost.Gpu

open Memory

theorem packetType_toNat (header : Word) :
    (packetType header).toNat = header.toNat / 2 ^ 30 % 2 ^ 2 :=
  BitFields.toNat_field header 30 2 (by decide)

theorem packetOpcode_toNat (header : Word) :
    (packetOpcode header).toNat = header.toNat / 2 ^ 8 % 2 ^ 7 :=
  BitFields.toNat_field header 8 7 (by decide)

theorem Packet.headerValue_lt (packet : Packet) : packet.headerValue < 2 ^ 32 := by
  cases packet with
  | type2 filler =>
      have fillerLt := filler.isLt
      simp only [headerValue]
      omega
  | type0 baseIndex writeOneReg payload notZero =>
      have bound := payload.countable
      have baseLt := baseIndex.isLt
      have flagLe : writeOneReg.toNat ≤ 1 := Bool.toNat_le writeOneReg
      simp only [headerValue]
      omega
  | type3 opcode bit15 lowByte payload passive =>
      have bound := payload.countable
      have opcodeLt := opcode.isLt
      have lowLt := lowByte.isLt
      have flagLe : bit15.toNat ≤ 1 := Bool.toNat_le bit15
      simp only [headerValue]
      omega

theorem Packet.header_toNat (packet : Packet) : packet.header.toNat = packet.headerValue := by
  rw [header, BitVec.toNat_ofNat, Nat.mod_eq_of_lt packet.headerValue_lt]

theorem Packet.header_ne_zero (packet : Packet) : packet.header ≠ 0 := by
  intro zero
  have valueEq : packet.headerValue = 0 := by
    rw [← packet.header_toNat, zero]
    rfl
  cases packet with
  | type2 filler =>
      simp only [headerValue] at valueEq
      omega
  | type0 baseIndex writeOneReg payload notZero =>
      simp only [headerValue] at valueEq
      rcases notZero with base | one | several
      · have positive : baseIndex.toNat ≠ 0 := fun baseZero =>
          base (BitVec.eq_of_toNat_eq baseZero)
        omega
      · rw [one, Bool.toNat_true] at valueEq
        omega
      · omega
  | type3 opcode bit15 lowByte payload passive =>
      simp only [headerValue] at valueEq
      omega

theorem Packet.packetType_type2 (filler : BitVec 30) :
    packetType (type2 filler).header = 2 := by
  have fillerLt := filler.isLt
  apply BitVec.eq_of_toNat_eq
  rw [packetType_toNat, header_toNat, headerValue]
  show _ = 2
  omega

theorem Packet.packetType_type0 {baseIndex : BitVec 15} {writeOneReg : Bool}
    {payload : Payload} {notZero} :
    packetType (type0 baseIndex writeOneReg payload notZero).header = 0 := by
  have bound := payload.countable
  have baseLt := baseIndex.isLt
  have flagLe : writeOneReg.toNat ≤ 1 := Bool.toNat_le writeOneReg
  apply BitVec.eq_of_toNat_eq
  rw [packetType_toNat, header_toNat, headerValue]
  show _ = 0
  omega

theorem Packet.packetType_type3 {opcode : BitVec 7} {bit15 : Bool} {lowByte : BitVec 8}
    {payload : Payload} {passive} :
    packetType (type3 opcode bit15 lowByte payload passive).header = 3 := by
  have bound := payload.countable
  have opcodeLt := opcode.isLt
  have lowLt := lowByte.isLt
  have flagLe : bit15.toNat ≤ 1 := Bool.toNat_le bit15
  apply BitVec.eq_of_toNat_eq
  rw [packetType_toNat, header_toNat, headerValue]
  show _ = 3
  omega

theorem Packet.packetOpcode_type3 {opcode : BitVec 7} {bit15 : Bool} {lowByte : BitVec 8}
    {payload : Payload} {passive} :
    (packetOpcode (type3 opcode bit15 lowByte payload passive).header).toNat =
      opcode.toNat := by
  have opcodeLt := opcode.isLt
  have lowLt := lowByte.isLt
  have flagLe : bit15.toNat ≤ 1 := Bool.toNat_le bit15
  rw [packetOpcode_toNat, header_toNat, headerValue]
  omega

/-- The header counts the payload. -/
theorem Packet.packetCount_header (packet : Packet) (hasPayload : packet.payloadDwords ≠ []) :
    (packetCount packet.header).toNat = packet.payloadDwords.length := by
  rw [packetCount_toNat, header_toNat]
  cases packet with
  | type2 filler => exact absurd rfl hasPayload
  | type0 baseIndex writeOneReg payload notZero =>
      have bound := payload.countable
      have positive := payload.nonempty
      have baseLt := baseIndex.isLt
      have flagLe : writeOneReg.toNat ≤ 1 := Bool.toNat_le writeOneReg
      simp only [headerValue, payloadDwords]
      omega
  | type3 opcode bit15 lowByte payload passive =>
      have bound := payload.countable
      have positive := payload.nonempty
      have opcodeLt := opcode.isLt
      have lowLt := lowByte.isLt
      have flagLe : bit15.toNat ≤ 1 := Bool.toNat_le bit15
      simp only [headerValue, payloadDwords]
      omega

/-- The scanner advances by the length of the encoding. -/
theorem Packet.packetBytes_header (packet : Packet) :
    (packetBytes packet.header).toNat = 4 * packet.encode.length := by
  cases packet with
  | type2 filler =>
      rw [packetBytes, if_pos (packetType_type2 filler)]
      rfl
  | type0 baseIndex writeOneReg payload notZero =>
      have count := packetCount_header (type0 baseIndex writeOneReg payload notZero)
        (List.ne_nil_of_length_pos payload.nonempty)
      have bound := payload.countable
      rw [packetBytes, packetType_type0, if_neg (by decide)]
      simp only [encode, payloadDwords, List.length_cons] at count ⊢
      bv_omega
  | type3 opcode bit15 lowByte payload passive =>
      have count := packetCount_header (type3 opcode bit15 lowByte payload passive)
        (List.ne_nil_of_length_pos payload.nonempty)
      have bound := payload.countable
      rw [packetBytes, packetType_type3, if_neg (by decide)]
      simp only [encode, payloadDwords, List.length_cons] at count ⊢
      bv_omega

section OnePacket

variable {Guest : Type} {env : Env Guest} {m : Machine Guest} {mem : Memory}
  {bufferAddr sizeBytes : Word} {offset : Nat} {depth : Int}

theorem Encoded.header {packet : Packet}
    (encoded : Encoded mem bufferAddr offset packet.encode) :
    loadU32 mem (bufferAddr + BitVec.ofNat 32 offset) = packet.header := by
  simpa [Packet.encode] using encoded 0 (by simp [Packet.encode])

/-- The payload dword the scanner's loops load. -/
theorem Encoded.payload {packet : Packet}
    (encoded : Encoded mem bufferAddr offset packet.encode) (k : Nat)
    (indexLt : k < packet.payloadDwords.length) :
    loadU32 mem (bufferAddr + BitVec.ofNat 32 offset + 4 + BitVec.ofNat 32 k * 4) =
      packet.payloadDwords[k] := by
  have dword := encoded (k + 1) (by simpa [Packet.encode] using indexLt)
  have address : bufferAddr + BitVec.ofNat 32 offset + 4 + BitVec.ofNat 32 k * 4 =
      bufferAddr + BitVec.ofNat 32 (offset + 4 * (k + 1)) := by bv_omega
  rw [address, dword]
  rfl

/-- A packet that fits in the buffer is acted on. -/
theorem packetAt_encoded {packet : Packet}
    (encoded : Encoded mem bufferAddr offset packet.encode)
    (fits : offset + 4 * packet.encode.length ≤ sizeBytes.toNat) :
    packetAt mem bufferAddr (BitVec.ofNat 32 offset) sizeBytes = some packet.header := by
  have bytes := packet.packetBytes_header
  have positive : 0 < packet.encode.length := by simp [Packet.encode]
  have sizeLt := sizeBytes.isLt
  have decodes : packetType packet.header ≠ 1 := by
    cases packet with
    | type2 filler => simp [Packet.packetType_type2]
    | type0 baseIndex writeOneReg payload notZero => simp [Packet.packetType_type0]
    | type3 opcode bit15 lowByte payload passive => simp [Packet.packetType_type3]
  exact packetAt_eq_some encoded.header packet.header_ne_zero decodes (by bv_omega)

/-- A loop that writes one register for each dword it loads does the writes of
the list of dwords. -/
theorem foldl_range_writes {dwords : List Word} {load : Nat → Word} {target : Nat → Word}
    {register : Nat → Nat} (loads : ∀ k (indexLt : k < dwords.length), load k = dwords[k])
    (targets : ∀ k, target k = BitVec.ofNat 32 (register k)) (state : GpuRegisterState) :
    (List.range dwords.length).foldl
        (fun state k => state.writeRegister (target k) (load k)) state =
      applyWrites state (dwords.mapIdx fun k value => (register k, value)) := by
  have writes : (dwords.mapIdx fun k value => (register k, value)) =
      (List.range dwords.length).map fun k => (register k, load k) := by
    apply List.ext_getElem
    · simp
    · intro k indexLt _
      rw [List.length_mapIdx] at indexLt
      simp [loads k indexLt]
  rw [writes, applyWrites, List.foldl_map]
  simp only [targets]

theorem executeType0_encoded {baseIndex : BitVec 15} {writeOneReg : Bool} {payload : Payload}
    {notZero} (state : GpuRegisterState)
    (encoded : Encoded mem bufferAddr offset
      (Packet.type0 baseIndex writeOneReg payload notZero).encode) :
    executeType0 mem state bufferAddr (BitVec.ofNat 32 offset)
        (Packet.type0 baseIndex writeOneReg payload notZero).header =
      applyWrites state (Packet.type0 baseIndex writeOneReg payload notZero).registerWrites := by
  have bound := payload.countable
  have baseLt := baseIndex.isLt
  have count := Packet.packetCount_header (.type0 baseIndex writeOneReg payload notZero)
    (List.ne_nil_of_length_pos payload.nonempty)
  have headerEq := Packet.header_toNat (.type0 baseIndex writeOneReg payload notZero)
  have base : (Packet.type0 baseIndex writeOneReg payload notZero).header &&& 0x7FFF =
      BitVec.ofNat 32 baseIndex.toNat := by
    apply BitVec.eq_of_toNat_eq
    have field := BitFields.toNat_lowField
      (Packet.type0 baseIndex writeOneReg payload notZero).header 15 (by decide)
    rw [headerEq, Packet.headerValue] at field
    refine field.trans ?_
    rw [BitVec.toNat_ofNat]
    cases writeOneReg
    · rw [Bool.toNat_false]
      omega
    · rw [Bool.toNat_true]
      omega
  have flag : ((Packet.type0 baseIndex writeOneReg payload notZero).header &&& 0x8000 != 0) =
      writeOneReg := by
    refine (BitFields.mask_bit_ne_zero _ 15 (by decide)).trans ?_
    rw [headerEq, Packet.headerValue]
    cases writeOneReg
    · rw [Bool.toNat_false, beq_eq_false_iff_ne]
      omega
    · rw [Bool.toNat_true, beq_iff_eq]
      omega
  simp only [executeType0, base, flag, count]
  apply foldl_range_writes encoded.payload
  intro k
  split
  · rfl
  · bv_omega

/-- The bank a selector names starts where the packet's writes start. -/
theorem setConstantBase_eq (selector : Word) :
    setConstantBase selector =
      (constantBankBase (selector.toNat / 2 ^ 16 % 2 ^ 8)).map fun bank =>
        BitVec.ofNat 32 (bank + selector.toNat % 2 ^ 11) := by
  have index : (selector &&& 0x7FF).toNat = selector.toNat % 2 ^ 11 :=
    BitFields.toNat_lowField selector 11 (by decide)
  have kind : ((selector >>> 16) &&& 0xFF).toNat = selector.toNat / 2 ^ 16 % 2 ^ 8 :=
    BitFields.toNat_field selector 16 8 (by decide)
  simp only [setConstantBase, kind]
  generalize selector.toNat / 2 ^ 16 % 2 ^ 8 = bankType
  unfold constantBankBase
  split <;> simp only [Option.map_some, Option.map_none, Option.some.injEq]
  all_goals bv_omega

theorem executeSetConstant_encoded {payload : Payload} {count : Word}
    (state : GpuRegisterState) (countEq : count.toNat = payload.dwords.length)
    (loads : ∀ k (indexLt : k < payload.dwords.length),
      loadU32 mem (bufferAddr + BitVec.ofNat 32 offset + 4 + BitVec.ofNat 32 k * 4) =
        payload.dwords[k]) :
    executeSetConstant mem state bufferAddr (BitVec.ofNat 32 offset) count =
      applyWrites state (setConstantWrites payload.dwords) := by
  have positive := payload.nonempty
  have bound := payload.countable
  cases dwordsEq : payload.dwords with
  | nil =>
      rw [dwordsEq] at positive
      exact absurd positive (Nat.lt_irrefl 0)
  | cons selector values =>
      rw [dwordsEq, List.length_cons] at bound countEq
      have selectorLoad :
          loadU32 mem (bufferAddr + BitVec.ofNat 32 offset + 4) = selector := by
        simpa [dwordsEq] using loads 0 positive
      have valueLoads : ∀ k (indexLt : k < values.length),
          loadU32 mem (bufferAddr + BitVec.ofNat 32 offset + 8 + BitVec.ofNat 32 k * 4) =
            values[k] := by
        intro k indexLt
        have dword := loads (k + 1) (by rw [dwordsEq, List.length_cons]; omega)
        have address :
            bufferAddr + BitVec.ofNat 32 offset + 8 + BitVec.ofNat 32 k * 4 =
              bufferAddr + BitVec.ofNat 32 offset + 4 + BitVec.ofNat 32 (k + 1) * 4 := by
          bv_omega
        rw [address, dword]
        simp [dwordsEq]
      have values_length : (count - 1).toNat = values.length := by bv_omega
      simp only [executeSetConstant, setConstantWrites, selectorLoad, setConstantBase_eq]
      cases constantBankBase (selector.toNat / 2 ^ 16 % 2 ^ 8) with
      | none => rfl
      | some bank =>
          simp only [Option.map_some, values_length]
          apply foldl_range_writes valueLoads
          intro k
          bv_omega

theorem drawIndx_encoded {payload : Payload} {count : Word}
    (countEq : count.toNat = payload.dwords.length)
    (loads : ∀ k (indexLt : k < payload.dwords.length),
      loadU32 m.mem (bufferAddr + BitVec.ofNat 32 offset + 4 + BitVec.ofNat 32 k * 4) =
        payload.dwords[k]) :
    (if 2 ≤ count then
      { m with
        gpuState := m.gpuState.writeRegister kDrawInitiatorRegister
          (loadU32 m.mem (bufferAddr + BitVec.ofNat 32 offset + 8)) } else m) =
      { m with gpuState := applyWrites m.gpuState (drawIndxWrites payload.dwords) } := by
  have positive := payload.nonempty
  have bound := payload.countable
  rcases dwordsEq : payload.dwords with _ | ⟨first, _ | ⟨initiator, rest⟩⟩
  · rw [dwordsEq] at positive
    exact absurd positive (Nat.lt_irrefl 0)
  · rw [dwordsEq, List.length_singleton] at countEq
    rw [if_neg (by bv_omega)]
    rfl
  · have initiatorLoad := loads 1 (by rw [dwordsEq]; simp)
    have address : bufferAddr + BitVec.ofNat 32 offset + 8 =
        bufferAddr + BitVec.ofNat 32 offset + 4 + BitVec.ofNat 32 1 * 4 := by bv_omega
    rw [dwordsEq, List.length_cons, List.length_cons] at countEq bound
    rw [if_pos (by bv_omega), address, initiatorLoad]
    simp [dwordsEq, drawIndxWrites, applyWrites, kDrawInitiatorRegister]

/-- Scanning an encoded packet does its register writes and nothing else. -/
theorem executePacket_encoded
    (nested : Machine Guest → Word → Word → Int → Option (ScanOutcome Guest))
    {packet : Packet} (encoded : Encoded m.mem bufferAddr offset packet.encode) :
    executePacket env nested m bufferAddr (BitVec.ofNat 32 offset) packet.header depth =
      some ({ m with gpuState := applyWrites m.gpuState packet.registerWrites }, []) := by
  cases packet with
  | type2 filler =>
      rw [executePacket, if_pos (Packet.packetType_type2 filler)]
      rfl
  | type0 baseIndex writeOneReg payload notZero =>
      rw [executePacket, Packet.packetType_type0, if_neg (by decide), if_pos rfl,
        executeType0_encoded m.gpuState encoded]
  | type3 opcode bit15 lowByte payload passive =>
      have count := Packet.packetCount_header (.type3 opcode bit15 lowByte payload passive)
        (List.ne_nil_of_length_pos payload.nonempty)
      have opcodeEq : ∀ {literal : Word},
          packetOpcode (Packet.type3 opcode bit15 lowByte payload passive).header = literal ↔
            opcode.toNat = literal.toNat := by
        intro literal
        rw [← BitVec.toNat_inj, Packet.packetOpcode_type3]
      have setConstant : opcode = 0x2D ↔ opcode.toNat = 0x2D := by
        rw [← BitVec.toNat_inj]
        rfl
      have drawIndx : opcode = 0x22 ↔ opcode.toNat = 0x22 := by
        rw [← BitVec.toNat_inj]
        rfl
      have loads := encoded.payload
      simp only [actingOpcodes, List.mem_cons, not_or] at passive
      rw [executePacket, Packet.packetType_type3, if_neg (by decide), if_neg (by decide),
        executeType3]
      simp only [opcodeEq, Packet.registerWrites, setConstant, drawIndx]
      rw [if_neg (show opcode.toNat ≠ kOpcodeIndirectBuffer.toNat from passive.1),
        if_neg (show opcode.toNat ≠ kOpcodeEventWriteShd.toNat from passive.2.1),
        if_neg (show opcode.toNat ≠ kOpcodeInterrupt.toNat from passive.2.2.1)]
      by_cases isSetConstant : opcode.toNat = 0x2D
      · rw [if_pos (show opcode.toNat = kOpcodeSetConstant.toNat from isSetConstant),
          if_pos isSetConstant, executeSetConstant_encoded m.gpuState count loads]
      · rw [if_neg (show opcode.toNat ≠ kOpcodeSetConstant.toNat from isSetConstant),
          if_neg isSetConstant,
          if_neg (show opcode.toNat ≠ kOpcodeDrawIndx2.toNat from passive.2.2.2.1)]
        by_cases isDrawIndx : opcode.toNat = 0x22
        · rw [if_pos (show opcode.toNat = kOpcodeDrawIndx.toNat from isDrawIndx),
            if_pos isDrawIndx, drawIndx_encoded count loads]
        · rw [if_neg (show opcode.toNat ≠ kOpcodeDrawIndx.toNat from isDrawIndx),
            if_neg isDrawIndx,
            if_neg (show opcode.toNat ≠ kOpcodeImLoadImmediate.toNat from passive.2.2.2.2.1)]
          rfl

end OnePacket

/-- Registers a list of packets writes, in order. -/
def registerWrites (packets : List Packet) : List (Nat × Word) :=
  packets.flatMap Packet.registerWrites

section AllPackets

variable {Guest : Type} {env : Env Guest} {m : Machine Guest} {bufferAddr sizeBytes : Word}
  {depth : Int}

/-- The induction is on the packets; what was scanned before them only moved the
offset and wrote registers. -/
theorem scans_encoded {packets : List Packet} {offset : Nat}
    (encoded : Encoded m.mem bufferAddr offset (encodePackets packets))
    (fits : offset + 4 * (encodePackets packets).length ≤ sizeBytes.toNat)
    (stops : packetAt m.mem bufferAddr
      (BitVec.ofNat 32 (offset + 4 * (encodePackets packets).length)) sizeBytes = none) :
    ∃ trace, Scans env m bufferAddr (BitVec.ofNat 32 offset) sizeBytes depth
      ⟨{ m with gpuState := applyWrites m.gpuState (registerWrites packets) },
        BitVec.ofNat 32 (offset + 4 * (encodePackets packets).length), trace⟩ := by
  induction packets generalizing m offset with
  | nil => exact ⟨[], Scans.stop stops⟩
  | cons packet packets ih =>
      have split : encodePackets (packet :: packets) =
          packet.encode ++ encodePackets packets := List.flatMap_cons
      rw [split] at encoded
      rw [split, List.length_append, Nat.mul_add, ← Nat.add_assoc] at fits stops ⊢
      obtain ⟨trace, rest⟩ := ih
        (m := { m with gpuState := applyWrites m.gpuState packet.registerWrites })
        encoded.right fits stops
      have found : packetAt m.mem bufferAddr (BitVec.ofNat 32 offset) sizeBytes =
          some packet.header := packetAt_encoded encoded.left (by omega)
      have executed : Executes env m bufferAddr (BitVec.ofNat 32 offset) packet.header depth
          ({ m with gpuState := applyWrites m.gpuState packet.registerWrites }, []) :=
        ⟨0, executePacket_encoded _ encoded.left⟩
      have bytes := packet.packetBytes_header
      have advance : BitVec.ofNat 32 offset + packetBytes packet.header =
          BitVec.ofNat 32 (offset + 4 * packet.encode.length) := by bv_omega
      rw [← advance] at rest
      have whole := Scans.next found executed rest
      simp only [registerWrites, List.flatMap_cons, applyWrites_append] at whole ⊢
      exact ⟨_, whole⟩

end AllPackets

/-- Scanning encoded packets that a zero dword or the end of the buffer follows returns
the encoded length and changes nothing but the register bank; there every register the
bank has holds the last value that was written to it. -/
theorem scanBuffer_encodePackets {Guest : Type} (env : Env Guest) (m : Machine Guest)
    (packets : List Packet) (bufferAddr sizeBytes : Word) (depth : Int)
    (encoded : Encoded m.mem bufferAddr 0 (encodePackets packets))
    (fits : 4 * (encodePackets packets).length ≤ sizeBytes.toNat)
    (small : 4 * (encodePackets packets).length < 2 ^ 31)
    (followed : sizeBytes.toNat < 4 * (encodePackets packets).length + 4 ∨
      loadU32 m.mem
        (bufferAddr + BitVec.ofNat 32 (4 * (encodePackets packets).length)) = 0) :
    (∃ trace enough, ∀ fuel, enough ≤ fuel →
      scanBuffer env fuel m bufferAddr 0 sizeBytes depth =
        some ⟨{ m with gpuState := applyWrites m.gpuState (registerWrites packets) },
          BitVec.ofNat 32 (4 * (encodePackets packets).length), trace⟩) ∧
    ∀ register, register < kRegisterCount →
      (applyWrites m.gpuState (registerWrites packets)).readRegister
          (BitVec.ofNat 32 register) =
        valueAfter register (registerWrites packets)
          (m.gpuState.readRegister (BitVec.ofNat 32 register)) := by
  constructor
  · have stops : packetAt m.mem bufferAddr
        (BitVec.ofNat 32 (0 + 4 * (encodePackets packets).length)) sizeBytes = none := by
      rw [Nat.zero_add]
      rcases followed with atEnd | zeroDword
      · rw [packetAt, if_neg (by bv_omega)]
      · simp only [packetAt, zeroDword, if_true, ite_self]
    have scanned : ∃ trace, Scans env m bufferAddr (BitVec.ofNat 32 0) sizeBytes depth
        ⟨{ m with gpuState := applyWrites m.gpuState (registerWrites packets) },
          BitVec.ofNat 32 (0 + 4 * (encodePackets packets).length), trace⟩ :=
      scans_encoded encoded (by omega) stops
    obtain ⟨trace, fuel, scanEq⟩ := scanned
    rw [Nat.zero_add] at scanEq
    exact ⟨trace, fuel, fun more enough => scanBuffer_mono env enough scanEq⟩
  · intro register inRange
    apply readRegister_applyWrites m.gpuState inRange
    intro write member
    obtain ⟨packet, _, written⟩ := List.mem_flatMap.mp member
    exact packet.registerWrites_lt written

/-- Dwords at the bottom of an otherwise zero memory. -/
def memoryOfDwords (dwords : List Word) : Memory := fun position =>
  (dwords.getD (position / 4) 0).extractLsb' (8 * (3 - position % 4)) 8

/-- One packet of each kind; the payload of the second looks like a header. -/
def samplePackets : List Packet :=
  [.type2 5,
    .type0 0x2000 false ⟨[0xC0012200, 0], by decide, by decide⟩ (by decide),
    .type3 0x2D false 0 ⟨[0x00010003, 7, 8], by decide, by decide⟩ (by decide),
    .type3 0x22 false 1 ⟨[0, 0x00030004], by decide, by decide⟩ (by decide)]

theorem scanBuffer_encodePackets_samplePackets :
    (∃ trace enough, ∀ fuel, enough ≤ fuel →
      scanBuffer Env.idle fuel
          (Machine.initial (memoryOfDwords (encodePackets samplePackets)) ()) 0 0 48 0 =
        some ⟨{ Machine.initial (memoryOfDwords (encodePackets samplePackets)) () with
            gpuState := applyWrites .initial (registerWrites samplePackets) },
          44, trace⟩) ∧
    ∀ register, register < kRegisterCount →
      (applyWrites .initial (registerWrites samplePackets)).readRegister
          (BitVec.ofNat 32 register) =
        valueAfter register (registerWrites samplePackets)
          (GpuRegisterState.initial.readRegister (BitVec.ofNat 32 register)) := by
  have encoded : Encoded (memoryOfDwords (encodePackets samplePackets)) 0 0
      (encodePackets samplePackets) := by
    unfold Encoded
    decide
  exact scanBuffer_encodePackets Env.idle
    (Machine.initial (memoryOfDwords (encodePackets samplePackets)) ()) samplePackets 0 48 0
    encoded (by decide) (by decide) (by decide)

end BumpinHost.Gpu
