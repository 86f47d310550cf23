import BumpinHost.Gpu.ScanRuns

/-!
# Encoding packets

A packet stream as its producer means it: filler, register writes, and the
packets of type 3 that do nothing but write registers.  A packet says which
registers it writes, in order, and how it is laid out in dwords; the scanner is
not mentioned here.
-/

namespace BumpinHost.Gpu

/-- The dwords after a header: at least one, and no more than a header can count. -/
structure Payload where
  dwords : List Word
  nonempty : 0 < dwords.length
  countable : dwords.length ≤ 0x4000

/-- Opcodes whose packets do something besides writing registers. -/
def actingOpcodes : List Nat := [0x3F, 0x58, 0x54, 0x36, 0x2B]

inductive Packet
  | type2 (filler : BitVec 30)
  | type0 (baseIndex : BitVec 15) (writeOneReg : Bool) (payload : Payload)
      (notZero : baseIndex ≠ 0 ∨ writeOneReg = true ∨ 1 < payload.dwords.length)
  | type3 (opcode : BitVec 7) (bit15 : Bool) (lowByte : BitVec 8) (payload : Payload)
      (passive : opcode.toNat ∉ actingOpcodes)

/-- First register of the constant bank of each `SET_CONSTANT` type. -/
def constantBankBase : Nat → Option Nat
  | 0 => some 0x4000
  | 1 => some 0x4800
  | 2 => some 0x4900
  | 3 => some 0x4908
  | 4 => some 0x2000
  | _ => none

/-- The first dword selects a bank and an index; the others are the values. -/
def setConstantWrites : List Word → List (Nat × Word)
  | [] => []
  | selector :: values =>
      match constantBankBase (selector.toNat / 2 ^ 16 % 2 ^ 8) with
      | none => []
      | some bank =>
          values.mapIdx fun i value => (bank + selector.toNat % 2 ^ 11 + i, value)

def drawIndxWrites : List Word → List (Nat × Word)
  | _ :: initiator :: _ => [(0x21FC, initiator)]
  | _ => []

namespace Packet

/-- Registers the packet writes, in order, with their values. -/
def registerWrites : Packet → List (Nat × Word)
  | type2 _ => []
  | type0 baseIndex writeOneReg payload _ =>
      payload.dwords.mapIdx fun i value =>
        (if writeOneReg then baseIndex.toNat else baseIndex.toNat + i, value)
  | type3 opcode _ _ payload _ =>
      if opcode = 0x2D then setConstantWrites payload.dwords
      else if opcode = 0x22 then drawIndxWrites payload.dwords
      else []

def headerValue : Packet → Nat
  | type2 filler => 2 * 2 ^ 30 + filler.toNat
  | type0 baseIndex writeOneReg payload _ =>
      (payload.dwords.length - 1) * 2 ^ 16 + writeOneReg.toNat * 2 ^ 15 + baseIndex.toNat
  | type3 opcode bit15 lowByte payload _ =>
      3 * 2 ^ 30 + (payload.dwords.length - 1) * 2 ^ 16 + bit15.toNat * 2 ^ 15 +
        opcode.toNat * 2 ^ 8 + lowByte.toNat

def header (packet : Packet) : Word := BitVec.ofNat 32 packet.headerValue

def payloadDwords : Packet → List Word
  | type2 _ => []
  | type0 _ _ payload _ => payload.dwords
  | type3 _ _ _ payload _ => payload.dwords

def encode (packet : Packet) : List Word := packet.header :: packet.payloadDwords

end Packet

def encodePackets (packets : List Packet) : List Word := packets.flatMap Packet.encode

/-- The dwords lie in memory one after another, from a byte offset of the buffer. -/
def Encoded (mem : Memory) (bufferAddr : Word) (offset : Nat) (dwords : List Word) : Prop :=
  ∀ k (indexLt : k < dwords.length),
    Memory.loadU32 mem (bufferAddr + BitVec.ofNat 32 (offset + 4 * k)) = dwords[k]

theorem Encoded.left {mem : Memory} {bufferAddr : Word} {offset : Nat}
    {first second : List Word} (encoded : Encoded mem bufferAddr offset (first ++ second)) :
    Encoded mem bufferAddr offset first := by
  intro k indexLt
  have dword := encoded k (by rw [List.length_append]; omega)
  rwa [List.getElem_append_left indexLt] at dword

theorem Encoded.right {mem : Memory} {bufferAddr : Word} {offset : Nat}
    {first second : List Word} (encoded : Encoded mem bufferAddr offset (first ++ second)) :
    Encoded mem bufferAddr (offset + 4 * first.length) second := by
  intro k indexLt
  have dword := encoded (first.length + k) (by rw [List.length_append]; omega)
  rw [List.getElem_append_right (by omega)] at dword
  simpa [Nat.mul_add, Nat.add_assoc] using dword

/-- Write registers in order.  The bank ignores the ones it does not have. -/
def applyWrites (state : GpuRegisterState) (writes : List (Nat × Word)) :
    GpuRegisterState :=
  writes.foldl (fun state write =>
    state.writeRegister (BitVec.ofNat 32 write.1) write.2) state

/-- A register's value after the writes: the last value written to it, or the
value it had. -/
def valueAfter (register : Nat) (writes : List (Nat × Word)) (value : Word) : Word :=
  writes.foldl (fun value write => if write.1 = register then write.2 else value) value

theorem applyWrites_append (state : GpuRegisterState) (first second : List (Nat × Word)) :
    applyWrites state (first ++ second) = applyWrites (applyWrites state first) second :=
  List.foldl_append

/-- Writes are last-wins within the bank and change nothing else. -/
theorem readRegister_applyWrites (state : GpuRegisterState) {writes : List (Nat × Word)}
    {register : Nat} (inRange : register < kRegisterCount)
    (wordSized : ∀ write ∈ writes, write.1 < 2 ^ 32) :
    (applyWrites state writes).readRegister (BitVec.ofNat 32 register) =
      valueAfter register writes (state.readRegister (BitVec.ofNat 32 register)) := by
  have registerLt : register < 2 ^ 32 := by
    simp only [kRegisterCount] at inRange
    omega
  have registerValue : (BitVec.ofNat 32 register).toNat = register := by
    rw [BitVec.toNat_ofNat, Nat.mod_eq_of_lt registerLt]
  induction writes generalizing state with
  | nil => rfl
  | cons write writes ih =>
      have rest := ih (state.writeRegister (BitVec.ofNat 32 write.1) write.2)
        (fun other member => wordSized other (List.mem_cons_of_mem _ member))
      simp only [applyWrites, valueAfter, List.foldl_cons] at rest ⊢
      rw [rest]
      congr 1
      by_cases same : write.1 = register
      · rw [if_pos same, same]
        exact state.readRegister_writeRegister_same write.2 (by rw [registerValue]; exact inRange)
      · rw [if_neg same]
        apply state.readRegister_writeRegister_of_ne
        intro equal
        have writeLt := wordSized write List.mem_cons_self
        have values := congrArg BitVec.toNat equal
        rw [registerValue, BitVec.toNat_ofNat, Nat.mod_eq_of_lt writeLt] at values
        exact same values.symm

/-- Every register a packet writes has an index far below the word size. -/
theorem Packet.registerWrites_lt (packet : Packet) {write : Nat × Word}
    (member : write ∈ packet.registerWrites) : write.1 < 2 ^ 32 := by
  cases packet with
  | type2 => simp [registerWrites] at member
  | type0 baseIndex writeOneReg payload notZero =>
      obtain ⟨i, indexLt, rfl⟩ := List.mem_mapIdx.mp member
      have bound := payload.countable
      have baseLt := baseIndex.isLt
      dsimp only
      split <;> omega
  | type3 opcode bit15 lowByte payload passive =>
      have bound := payload.countable
      simp only [registerWrites] at member
      split at member
      · cases dwordsEq : payload.dwords with
        | nil => simp [dwordsEq, setConstantWrites] at member
        | cons selector values =>
            simp only [dwordsEq, setConstantWrites] at member
            rw [dwordsEq, List.length_cons] at bound
            have indexBound := Nat.mod_lt selector.toNat (show 2 ^ 11 > 0 by decide)
            split at member
            · cases member
            · rename_i bank bankEq
              obtain ⟨i, indexLt, rfl⟩ := List.mem_mapIdx.mp member
              have bankBound : bank ≤ 0x4908 := by
                unfold constantBankBase at bankEq
                split at bankEq <;> simp_all <;> omega
              dsimp only
              omega
      · split at member
        · rcases dwordsEq : payload.dwords with _ | ⟨_, _ | ⟨initiator, _⟩⟩ <;>
            simp [dwordsEq, drawIndxWrites] at member
          rw [member]
          exact show 0x21FC < 2 ^ 32 by decide
        · cases member

end BumpinHost.Gpu
