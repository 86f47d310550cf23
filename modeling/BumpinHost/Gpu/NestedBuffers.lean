import BumpinHost.Gpu.PacketRoundTrip

/-!
# Indirect buffers stand for their contents

A command stream may jump into another buffer, which holds a stream of its own.
The scanner enters a buffer only so many levels deep and skips the jumps below.
What it does is what the stream means with the contents of every buffer it enters
in place of the jump.
-/

namespace BumpinHost.Gpu

open Memory

/-- A packet that writes registers, or a jump into a buffer. -/
inductive Command
  | packet (content : Packet)
  | indirect (bit15 : Bool) (lowByte : BitVec 8) (address dwordCount : Word)
      (contents : List Command)

/-- Header of an `INDIRECT_BUFFER` packet with its two payload dwords. -/
def indirectHeader (bit15 : Bool) (lowByte : BitVec 8) : Word :=
  BitVec.ofNat 32
    (3 * 2 ^ 30 + 1 * 2 ^ 16 + bit15.toNat * 2 ^ 15 + 0x3F * 2 ^ 8 + lowByte.toNat)

namespace Command

def header : Command → Word
  | .packet content => content.header
  | .indirect bit15 lowByte _ _ _ => indirectHeader bit15 lowByte

/-- The dwords in the stream itself.  The contents of a buffer are elsewhere. -/
def encode : Command → List Word
  | .packet content => content.encode
  | .indirect bit15 lowByte address dwordCount _ =>
      [indirectHeader bit15 lowByte, address, dwordCount]

end Command

def encodeCommands (commands : List Command) : List Word := commands.flatMap Command.encode

/-- The packets of a stream, with the contents of the buffers so many levels deep in
place of the jumps into them. -/
def inlined : Nat → List Command → List Packet
  | 0, commands => commands.flatMap fun command =>
      match command with
      | .packet packet => [packet]
      | .indirect _ _ _ _ _ => []
  | levels + 1, commands => commands.flatMap fun command =>
      match command with
      | .packet packet => [packet]
      | .indirect _ _ _ _ contents => inlined levels contents

/-- The headers that are met on the way, each with its depth. -/
def visited : Nat → Int → List Command → List (Int × Word)
  | 0, depth, commands => commands.map fun command => (depth, command.header)
  | levels + 1, depth, commands => commands.flatMap fun command =>
      (depth, command.header) ::
        match command with
        | .packet _ => []
        | .indirect _ _ _ _ contents => visited levels (depth + 1) contents

/-- A stream lies in a buffer from its start, up to a zero dword or to the end. -/
structure Holds (mem : Memory) (bufferAddr sizeBytes : Word) (commands : List Command) :
    Prop where
  encoded : Encoded mem bufferAddr 0 (encodeCommands commands)
  fits : 4 * (encodeCommands commands).length ≤ sizeBytes.toNat
  noWrap : 4 * (encodeCommands commands).length + 4 < 2 ^ 32
  ends : sizeBytes.toNat < 4 * (encodeCommands commands).length + 4 ∨
    loadU32 mem (bufferAddr + BitVec.ofNat 32 (4 * (encodeCommands commands).length)) = 0

/-- The buffers so many levels deep hold their streams as well. -/
def Placed (mem : Memory) : Nat → Word → Word → List Command → Prop
  | 0, bufferAddr, sizeBytes, commands => Holds mem bufferAddr sizeBytes commands
  | levels + 1, bufferAddr, sizeBytes, commands =>
      Holds mem bufferAddr sizeBytes commands ∧
        ∀ bit15 lowByte address dwordCount contents,
          .indirect bit15 lowByte address dwordCount contents ∈ commands →
            Placed mem levels (address ||| 0xA0000000) (dwordCount * 4) contents

theorem Placed.holds {mem : Memory} {levels : Nat} {bufferAddr sizeBytes : Word}
    {commands : List Command} (placed : Placed mem levels bufferAddr sizeBytes commands) :
    Holds mem bufferAddr sizeBytes commands := by
  cases levels with
  | zero => exact placed
  | succ levels => exact placed.1

/-- Levels that the scan still enters at a depth. -/
def levelsBelow (depth : Int) : Nat := (kMaxIndirectDepth - depth).toNat

/-- The header that an event says was acted on. -/
def ScanEvent.header? : ScanEvent → Option (Int × Word)
  | .packet depth _ _ header => some (depth, header)
  | .indirect _ _ => none
  | .interrupt _ _ _ => none

theorem indirectHeader_toNat (bit15 : Bool) (lowByte : BitVec 8) :
    (indirectHeader bit15 lowByte).toNat =
      3 * 2 ^ 30 + 1 * 2 ^ 16 + bit15.toNat * 2 ^ 15 + 0x3F * 2 ^ 8 + lowByte.toNat := by
  have lowLt := lowByte.isLt
  have flagLe : bit15.toNat ≤ 1 := Bool.toNat_le bit15
  rw [indirectHeader, BitVec.toNat_ofNat, Nat.mod_eq_of_lt (by omega)]

theorem packetType_indirectHeader (bit15 : Bool) (lowByte : BitVec 8) :
    packetType (indirectHeader bit15 lowByte) = 3 := by
  have lowLt := lowByte.isLt
  have flagLe : bit15.toNat ≤ 1 := Bool.toNat_le bit15
  apply BitVec.eq_of_toNat_eq
  rw [packetType_toNat, indirectHeader_toNat]
  show _ = 3
  omega

theorem packetOpcode_indirectHeader (bit15 : Bool) (lowByte : BitVec 8) :
    packetOpcode (indirectHeader bit15 lowByte) = kOpcodeIndirectBuffer := by
  have lowLt := lowByte.isLt
  have flagLe : bit15.toNat ≤ 1 := Bool.toNat_le bit15
  apply BitVec.eq_of_toNat_eq
  rw [packetOpcode_toNat, indirectHeader_toNat]
  show _ = 0x3F
  omega

theorem packetCount_indirectHeader (bit15 : Bool) (lowByte : BitVec 8) :
    packetCount (indirectHeader bit15 lowByte) = 2 := by
  have lowLt := lowByte.isLt
  have flagLe : bit15.toNat ≤ 1 := Bool.toNat_le bit15
  apply BitVec.eq_of_toNat_eq
  rw [packetCount_toNat, indirectHeader_toNat]
  show _ = 2
  omega

theorem packetBytes_indirectHeader (bit15 : Bool) (lowByte : BitVec 8) :
    packetBytes (indirectHeader bit15 lowByte) = 12 := by
  rw [packetBytes, packetType_indirectHeader, packetCount_indirectHeader]
  decide

theorem indirectHeader_ne_zero (bit15 : Bool) (lowByte : BitVec 8) :
    indirectHeader bit15 lowByte ≠ 0 := by
  intro zero
  have valueEq := indirectHeader_toNat bit15 lowByte
  rw [zero] at valueEq
  have none : (0 : Word).toNat = 0 := rfl
  omega

theorem isFollowed_indirectHeader {depth : Int} (bit15 : Bool) (lowByte : BitVec 8) :
    IsFollowed (indirectHeader bit15 lowByte) depth ↔ depth < kMaxIndirectDepth := by
  rw [IsFollowed, packetType_indirectHeader, packetOpcode_indirectHeader,
    packetCount_indirectHeader]
  simp

namespace Command

/-- The scanner advances by the length of the encoding. -/
theorem packetBytes_header (command : Command) :
    (packetBytes command.header).toNat = 4 * command.encode.length := by
  cases command with
  | packet packet => exact packet.packetBytes_header
  | indirect bit15 lowByte address dwordCount contents =>
      rw [header, packetBytes_indirectHeader]
      rfl

end Command

section Scan

variable {Guest : Type} {env : Env Guest} {m : Machine Guest} {mem : Memory}
  {bufferAddr sizeBytes : Word} {offset : Nat} {depth : Int}

theorem Encoded.command_header {command : Command}
    (encoded : Encoded mem bufferAddr offset command.encode) :
    loadU32 mem (bufferAddr + BitVec.ofNat 32 offset) = command.header := by
  cases command with
  | packet packet => exact encoded.header
  | indirect bit15 lowByte address dwordCount contents =>
      simpa [Command.encode, Command.header] using encoded 0 (by simp [Command.encode])

theorem packetAt_command {command : Command}
    (encoded : Encoded mem bufferAddr offset command.encode)
    (fits : offset + 4 * command.encode.length ≤ sizeBytes.toNat) :
    packetAt mem bufferAddr (BitVec.ofNat 32 offset) sizeBytes = some command.header := by
  cases command with
  | packet packet => exact packetAt_encoded encoded fits
  | indirect bit15 lowByte address dwordCount contents =>
      have sizeLt := sizeBytes.isLt
      have length : (Command.indirect bit15 lowByte address dwordCount contents).encode.length =
          3 := rfl
      have bytes := packetBytes_indirectHeader bit15 lowByte
      rw [length] at fits
      refine packetAt_eq_some encoded.command_header (indirectHeader_ne_zero bit15 lowByte) ?_ ?_
      · rw [Command.header, packetType_indirectHeader]
        decide
      · rw [Command.header, bytes]
        bv_omega

theorem Encoded.indirectAddr {bit15 : Bool} {lowByte : BitVec 8} {address dwordCount : Word}
    {contents : List Command}
    (encoded : Encoded mem bufferAddr offset
      (Command.indirect bit15 lowByte address dwordCount contents).encode) :
    indirectAddr mem bufferAddr (BitVec.ofNat 32 offset) = address ||| 0xA0000000 := by
  have dword := encoded 1 (by simp [Command.encode])
  have place : bufferAddr + BitVec.ofNat 32 offset + 4 =
      bufferAddr + BitVec.ofNat 32 (offset + 4 * 1) := by bv_omega
  rw [Gpu.indirectAddr, place, dword]
  rfl

theorem Encoded.indirectDwordCount {bit15 : Bool} {lowByte : BitVec 8}
    {address dwordCount : Word} {contents : List Command}
    (encoded : Encoded mem bufferAddr offset
      (Command.indirect bit15 lowByte address dwordCount contents).encode) :
    indirectDwordCount mem bufferAddr (BitVec.ofNat 32 offset) = dwordCount := by
  have dword := encoded 2 (by simp [Command.encode])
  have place : bufferAddr + BitVec.ofNat 32 offset + 8 =
      bufferAddr + BitVec.ofNat 32 (offset + 4 * 2) := by bv_omega
  rw [Gpu.indirectDwordCount, place, dword]
  rfl

/-- The register bank after the packets, and nothing else changed. -/
def bankAfter (m : Machine Guest) (packets : List Packet) : Machine Guest :=
  { m with gpuState := applyWrites m.gpuState (registerWrites packets) }

@[simp]
theorem bankAfter_mem (packets : List Packet) : (bankAfter m packets).mem = m.mem := rfl

theorem bankAfter_nil : bankAfter m [] = m := rfl

theorem bankAfter_append (first second : List Packet) :
    bankAfter m (first ++ second) = bankAfter (bankAfter m first) second := by
  simp only [bankAfter, registerWrites, List.flatMap_append, applyWrites_append]

/-- A jump that is too deep does nothing. -/
theorem executes_skipped (bit15 : Bool) (lowByte : BitVec 8)
    (tooDeep : ¬ depth < kMaxIndirectDepth) :
    Executes env m bufferAddr (BitVec.ofNat 32 offset) (indirectHeader bit15 lowByte) depth
      (m, []) := by
  refine ⟨0, ?_⟩
  rw [executePacket, packetType_indirectHeader, if_neg (by decide), if_neg (by decide),
    executeType3]
  simp only [packetCount_indirectHeader, packetOpcode_indirectHeader]
  rw [if_pos trivial, if_neg (fun both => tooDeep both.2)]

/-- What a single command means at a level. -/
def inlinedOne (levels : Nat) (command : Command) : List Packet :=
  inlined levels [command]

theorem inlined_cons (levels : Nat) (command : Command) (commands : List Command) :
    inlined levels (command :: commands) =
      inlinedOne levels command ++ inlined levels commands := by
  cases levels <;> simp [inlined, inlinedOne]

theorem visited_cons (levels : Nat) (command : Command) (commands : List Command) :
    visited levels depth (command :: commands) =
      visited levels depth [command] ++ visited levels depth commands := by
  cases levels <;> simp [visited]

/-- The scan of a stream whose commands each do what they mean.  The induction is on the
commands; those before have moved the offset and written registers. -/
theorem scans_commands {commands : List Command} {levels : Nat}
    (executes : ∀ command ∈ commands, ∀ (n : Machine Guest) (offset : Nat), n.mem = m.mem →
      Encoded n.mem bufferAddr offset command.encode →
        ∃ trace, Executes env n bufferAddr (BitVec.ofNat 32 offset) command.header depth
            (bankAfter n (inlinedOne levels command), trace) ∧
          (depth, command.header) :: trace.filterMap ScanEvent.header? =
            visited levels depth [command])
    (encoded : Encoded m.mem bufferAddr offset (encodeCommands commands))
    (fits : offset + 4 * (encodeCommands commands).length ≤ sizeBytes.toNat)
    (stops : packetAt m.mem bufferAddr
      (BitVec.ofNat 32 (offset + 4 * (encodeCommands commands).length)) sizeBytes = none) :
    ∃ trace, Scans env m bufferAddr (BitVec.ofNat 32 offset) sizeBytes depth
        ⟨bankAfter m (inlined levels commands),
          BitVec.ofNat 32 (offset + 4 * (encodeCommands commands).length), trace⟩ ∧
      trace.filterMap ScanEvent.header? = visited levels depth commands := by
  induction commands generalizing m offset with
  | nil =>
      refine ⟨[], ?_, ?_⟩
      · have none : inlined levels [] = [] := by cases levels <;> rfl
        rw [none, bankAfter_nil]
        exact Scans.stop stops
      · cases levels <;> rfl
  | cons command commands ih =>
      have split : encodeCommands (command :: commands) =
          command.encode ++ encodeCommands commands := List.flatMap_cons
      rw [split] at encoded
      rw [split, List.length_append, Nat.mul_add, ← Nat.add_assoc] at fits stops ⊢
      obtain ⟨bodyTrace, executed, bodyVisited⟩ :=
        executes command List.mem_cons_self m offset rfl encoded.left
      obtain ⟨restTrace, rest, restVisited⟩ := ih
        (m := bankAfter m (inlinedOne levels command))
        (fun other member => executes other (List.mem_cons_of_mem _ member))
        encoded.right fits stops
      have found : packetAt m.mem bufferAddr (BitVec.ofNat 32 offset) sizeBytes =
          some command.header := packetAt_command encoded.left (by omega)
      have bytes := command.packetBytes_header
      have advance : BitVec.ofNat 32 offset + packetBytes command.header =
          BitVec.ofNat 32 (offset + 4 * command.encode.length) := by bv_omega
      rw [← advance] at rest
      have whole := Scans.next found executed rest
      rw [inlined_cons, bankAfter_append, visited_cons]
      refine ⟨_, whole, ?_⟩
      have heads : ∀ rest : ScanTrace,
          (ScanEvent.packet depth bufferAddr (BitVec.ofNat 32 offset) command.header ::
            (bodyTrace ++ rest)).filterMap ScanEvent.header? =
          (depth, command.header) :: bodyTrace.filterMap ScanEvent.header? ++
            rest.filterMap ScanEvent.header? := by
        intro rest
        rw [List.filterMap_cons_some (f := ScanEvent.header?) rfl, List.filterMap_append,
          List.cons_append]
      rw [heads, restVisited, bodyVisited]

/-- The end of a stream ends the scan. -/
theorem Holds.stops {commands : List Command}
    (holds : Holds mem bufferAddr sizeBytes commands) :
    packetAt mem bufferAddr (BitVec.ofNat 32 (4 * (encodeCommands commands).length))
      sizeBytes = none := by
  have sizeLt := sizeBytes.isLt
  have fits := holds.fits
  have noWrap := holds.noWrap
  rcases holds.ends with atEnd | zeroDword
  · rw [packetAt, if_neg (by bv_omega)]
  · simp only [packetAt, zeroDword, if_true, ite_self]

/-- A packet or a jump does what it means, when the buffers below do. -/
theorem executes_command {levels : Nat} (levelsEq : levels = levelsBelow depth)
    (command : Command)
    (enters : ∀ bit15 lowByte address dwordCount contents,
      command = .indirect bit15 lowByte address dwordCount contents →
      ∀ lower, levels = lower + 1 → ∀ n : Machine Guest, n.mem = mem →
        ∃ offset trace, Scans env n (address ||| 0xA0000000) 0 (dwordCount * 4) (depth + 1)
            ⟨bankAfter n (inlined lower contents), offset, trace⟩ ∧
          trace.filterMap ScanEvent.header? = visited lower (depth + 1) contents)
    (memEq : m.mem = mem) (encoded : Encoded m.mem bufferAddr offset command.encode) :
    ∃ trace, Executes env m bufferAddr (BitVec.ofNat 32 offset) command.header depth
        (bankAfter m (inlinedOne levels command), trace) ∧
      (depth, command.header) :: trace.filterMap ScanEvent.header? =
        visited levels depth [command] := by
  cases command with
  | packet packet =>
      have meaning : inlinedOne levels (.packet packet) = [packet] := by
        cases levels <;> simp [inlinedOne, inlined]
      have writes : registerWrites [packet] = packet.registerWrites := by
        simp [registerWrites]
      refine ⟨[], ⟨0, ?_⟩, ?_⟩
      · rw [meaning, bankAfter, writes]
        exact executePacket_encoded _ encoded
      · cases levels <;> simp [visited]
  | indirect bit15 lowByte address dwordCount contents =>
      cases levels with
      | zero =>
          have tooDeep : ¬ depth < kMaxIndirectDepth := by
            unfold levelsBelow at levelsEq
            omega
          refine ⟨[], ?_, ?_⟩
          · have nothing : inlinedOne 0
                (.indirect bit15 lowByte address dwordCount contents) = [] := rfl
            rw [nothing, bankAfter_nil]
            exact executes_skipped bit15 lowByte tooDeep
          · rfl
      | succ lower =>
          have shallow : depth < kMaxIndirectDepth := by
            unfold levelsBelow at levelsEq
            omega
          obtain ⟨stopped, trace, scanned, met⟩ := enters _ _ _ _ _ rfl lower rfl m memEq
          rw [← encoded.indirectAddr, ← encoded.indirectDwordCount] at scanned
          have meaning : inlinedOne (lower + 1)
              (.indirect bit15 lowByte address dwordCount contents) = inlined lower contents := by
            simp [inlinedOne, inlined]
          rw [meaning]
          refine ⟨_, Executes.of_indirect
            ((isFollowed_indirectHeader bit15 lowByte).mpr shallow) scanned, ?_⟩
          rw [List.filterMap_cons_none rfl, met]
          simp [visited]

/-- The induction is on the levels that the scan still enters. -/
theorem scans_placed {commands : List Command} {levels : Nat}
    (levelsEq : levels = levelsBelow depth)
    (placed : Placed m.mem levels bufferAddr sizeBytes commands) :
    ∃ trace, Scans env m bufferAddr 0 sizeBytes depth
        ⟨bankAfter m (inlined levels commands),
          BitVec.ofNat 32 (4 * (encodeCommands commands).length), trace⟩ ∧
      trace.filterMap ScanEvent.header? = visited levels depth commands := by
  suffices atStart : ∃ trace, Scans env m bufferAddr (BitVec.ofNat 32 0) sizeBytes depth
      ⟨bankAfter m (inlined levels commands),
        BitVec.ofNat 32 (0 + 4 * (encodeCommands commands).length), trace⟩ ∧
      trace.filterMap ScanEvent.header? = visited levels depth commands by
    rwa [Nat.zero_add] at atStart
  have holds := placed.holds
  induction levels generalizing m bufferAddr sizeBytes depth commands with
  | zero =>
      refine scans_commands ?_ holds.encoded (by rw [Nat.zero_add]; exact holds.fits)
        (by rw [Nat.zero_add]; exact holds.stops)
      intro command _ n offset memEq encoded
      refine executes_command levelsEq command ?_ memEq encoded
      intro _ _ _ _ _ _ lower impossible
      exact absurd impossible (Nat.succ_ne_zero lower).symm
  | succ lower ih =>
      have deeper : lower = levelsBelow (depth + 1) := by
        unfold levelsBelow at levelsEq ⊢
        omega
      refine scans_commands ?_ holds.encoded (by rw [Nat.zero_add]; exact holds.fits)
        (by rw [Nat.zero_add]; exact holds.stops)
      intro command member n offset memEq encoded
      refine executes_command levelsEq command ?_ memEq encoded
      rintro bit15 lowByte address dwordCount contents rfl level levelEq other otherEq
      obtain rfl := Nat.succ.inj levelEq
      have inner := placed.2 _ _ _ _ _ member
      rw [← otherEq] at inner
      obtain ⟨trace, entered, met⟩ := ih deeper inner inner.holds
      rw [Nat.zero_add] at entered
      exact ⟨_, trace, entered, met⟩

end Scan

/-- Scanning a stream with jumps, from any depth, does what the packets do that are left
when every buffer the scan enters stands in place of the jump into it; the packets are met
in that order, and the scan returns the length of the stream itself. -/
theorem scanBuffer_placed {Guest : Type} (env : Env Guest) (m : Machine Guest)
    (commands : List Command) (bufferAddr sizeBytes : Word) (depth : Int)
    (placed : Placed m.mem (levelsBelow depth) bufferAddr sizeBytes commands) :
    ∃ trace enough, (∀ fuel, enough ≤ fuel →
      scanBuffer env fuel m bufferAddr 0 sizeBytes depth =
        some ⟨{ m with gpuState :=
              applyWrites m.gpuState (registerWrites (inlined (levelsBelow depth) commands)) },
          BitVec.ofNat 32 (4 * (encodeCommands commands).length), trace⟩) ∧
      trace.filterMap ScanEvent.header? = visited (levelsBelow depth) depth commands := by
  obtain ⟨trace, scanned, met⟩ :
      ∃ trace, Scans env m bufferAddr 0 sizeBytes depth
          ⟨bankAfter m (inlined (levelsBelow depth) commands),
            BitVec.ofNat 32 (4 * (encodeCommands commands).length), trace⟩ ∧
        trace.filterMap ScanEvent.header? = visited (levelsBelow depth) depth commands :=
    scans_placed rfl placed
  obtain ⟨fuel, scanned⟩ := scanned
  exact ⟨trace, fuel, fun more enough => scanBuffer_mono env enough scanned, met⟩

/-- The write of one register. -/
def oneWrite (value : Word) : Packet :=
  .type0 0x2000 false ⟨[value], Nat.one_pos, by simp⟩ (.inl (by decide))

/-- A jump between two register writes, into a buffer that writes a register and jumps
to its own start. -/
def jumpingCommands : List Command :=
  let jump (contents : List Command) : Command := .indirect false 0 0x20 5 contents
  let inner (contents : List Command) : List Command := [.packet (oneWrite 2), jump contents]
  [.packet (oneWrite 1), jump (inner (inner (inner []))), .packet (oneWrite 3)]

def jumpingMemory : Memory := fun position =>
  if position < 0xA0000020 then memoryOfDwords (encodeCommands jumpingCommands) position
  else
    memoryOfDwords ((oneWrite 2).encode ++ [indirectHeader false 0, 0x20, 5])
      (position - 0xA0000020)

/-- The buffer that jumps to itself is entered three times. -/
theorem scanBuffer_placed_jumpingCommands :
    ∃ trace enough, (∀ fuel, enough ≤ fuel →
      scanBuffer Env.idle fuel (Machine.initial jumpingMemory ()) 0 0 28 0 =
        some ⟨bankAfter (Machine.initial jumpingMemory ())
            [oneWrite 1, oneWrite 2, oneWrite 2, oneWrite 2, oneWrite 3], 28, trace⟩) ∧
      trace.filterMap ScanEvent.header? =
        visited (levelsBelow 0) 0 jumpingCommands := by
  have main : Holds jumpingMemory 0 28 jumpingCommands :=
    ⟨by unfold Encoded; decide +kernel, by decide +kernel, by decide +kernel,
      .inl (by decide +kernel)⟩
  have inner : ∀ contents,
      Holds jumpingMemory (0x20 ||| 0xA0000000) (5 * 4)
        [.packet (oneWrite 2), .indirect false 0 0x20 5 contents] := by
    intro contents
    have dwords : encodeCommands [.packet (oneWrite 2), .indirect false 0 0x20 5 contents] =
        (oneWrite 2).encode ++ [indirectHeader false 0, 0x20, 5] := rfl
    refine ⟨?_, ?_, ?_, .inl ?_⟩
    all_goals rw [dwords]
    · unfold Encoded
      decide +kernel
    all_goals decide +kernel
  have deeper : ∀ {levels contents},
      Placed jumpingMemory levels (0x20 ||| 0xA0000000) (5 * 4) contents →
      Placed jumpingMemory (levels + 1) (0x20 ||| 0xA0000000) (5 * 4)
        [.packet (oneWrite 2), .indirect false 0 0x20 5 contents] := by
    intro levels contents placed
    refine ⟨inner contents, ?_⟩
    intro bit15 lowByte address dwordCount other member
    have same : Command.indirect bit15 lowByte address dwordCount other =
        .indirect false 0 0x20 5 contents := by simpa using member
    obtain ⟨-, -, rfl, rfl, rfl⟩ := Command.indirect.inj same
    exact placed
  have placed : Placed jumpingMemory 3 0 28 jumpingCommands := by
    refine ⟨main, ?_⟩
    intro bit15 lowByte address dwordCount other member
    have same : Command.indirect bit15 lowByte address dwordCount other =
        .indirect false 0 0x20 5 [.packet (oneWrite 2), .indirect false 0 0x20 5
          [.packet (oneWrite 2), .indirect false 0 0x20 5
            [.packet (oneWrite 2), .indirect false 0 0x20 5 []]]] := by
      simpa [jumpingCommands] using member
    obtain ⟨-, -, rfl, rfl, rfl⟩ := Command.indirect.inj same
    exact deeper (deeper (inner []))
  exact scanBuffer_placed Env.idle (Machine.initial jumpingMemory ()) jumpingCommands 0 28 0
    placed

end BumpinHost.Gpu
