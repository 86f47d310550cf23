import BumpinHost.Library.BitFields

/-!
# The GPU register bank

A flat bank of registers written by the command scanner, and the decoded views
of it that the draw path reads.  Accesses outside the bank are ignored, apart
from the flag that keeps the warning from being logged twice.
-/

namespace BumpinHost.Gpu

/-- Size of the real register file. -/
def kRegisterCount : Nat := 0x5003

/-- Register index of the draw initiator. -/
def kDrawInitiatorRegister : Word := 0x21FC

/-- First register of the fetch constants. -/
def kVertexFetchConstantBase : Word := 0x4800

def kVertexFetchConstantSlotCount : Word := 96

structure DrawInitiator where
  primType : Word
  sourceSelect : Word
  indexSize : Word
  numIndices : Word
deriving DecidableEq, Repr

structure VertexFetchConstant where
  type : Word
  address : Word
  endian : Word
  size : Word
deriving DecidableEq, Repr

structure GpuRegisterState where
  regs : Fin kRegisterCount → Word
  loggedOutOfRange : Bool

namespace GpuRegisterState

def initial : GpuRegisterState := ⟨fun _ => 0, false⟩

def writeRegister (state : GpuRegisterState) (index value : Word) :
    GpuRegisterState :=
  if inRange : index.toNat < kRegisterCount then
    { state with regs := Function.update state.regs ⟨index.toNat, inRange⟩ value }
  else
    { state with loggedOutOfRange := true }

/-- The value that a register read returns. -/
def readRegister (state : GpuRegisterState) (index : Word) : Word :=
  if inRange : index.toNat < kRegisterCount then
    state.regs ⟨index.toNat, inRange⟩
  else
    0

def getDrawInitiator (state : GpuRegisterState) : DrawInitiator :=
  let value := state.readRegister kDrawInitiatorRegister
  { primType := value &&& 0x3F
    sourceSelect := (value >>> 6) &&& 0x3
    indexSize := (value >>> 11) &&& 0x1
    numIndices := (value >>> 16) &&& 0xFFFF }

def getVertexFetchConstant (state : GpuRegisterState) (slot : Word) :
    VertexFetchConstant :=
  if kVertexFetchConstantSlotCount ≤ slot then
    ⟨0, 0, 0, 0⟩
  else
    let baseIndex := kVertexFetchConstantBase + slot * 2
    let dword0 := state.readRegister baseIndex
    let dword1 := state.readRegister (baseIndex + 1)
    { type := dword0 &&& 0x3
      address := dword0 >>> 2
      endian := dword1 &&& 0x3
      size := (dword1 >>> 2) &&& 0xFFFFFF }

theorem readRegister_writeRegister_same (state : GpuRegisterState) {index : Word}
    (value : Word) (inRange : index.toNat < kRegisterCount) :
    (state.writeRegister index value).readRegister index = value := by
  simp [writeRegister, readRegister, inRange]

theorem readRegister_writeRegister_of_ne (state : GpuRegisterState)
    {index other : Word} (value : Word) (different : other ≠ index) :
    (state.writeRegister index value).readRegister other =
      state.readRegister other := by
  have positions : other.toNat ≠ index.toNat := fun same =>
    different (BitVec.eq_of_toNat_eq same)
  by_cases otherInRange : other.toNat < kRegisterCount
  · by_cases inRange : index.toNat < kRegisterCount
    · simp [writeRegister, readRegister, inRange, otherInRange,
        Function.update_of_ne, positions]
    · simp [writeRegister, readRegister, inRange]
  · simp [readRegister, otherInRange]

/-- The initiator's index count never exceeds sixteen bits. -/
theorem getDrawInitiator_numIndices_lt (state : GpuRegisterState) :
    state.getDrawInitiator.numIndices.toNat < 2 ^ 16 := by
  have field := BitFields.toNat_field
    (state.readRegister kDrawInitiatorRegister) 16 16 (by decide)
  have value : state.getDrawInitiator.numIndices.toNat =
      (state.readRegister kDrawInitiatorRegister).toNat / 2 ^ 16 % 2 ^ 16 := field
  rw [value]
  exact Nat.mod_lt _ (by decide)

/-- A fetch constant's size field holds at most twenty-four bits. -/
theorem getVertexFetchConstant_size_lt (state : GpuRegisterState) (slot : Word) :
    (state.getVertexFetchConstant slot).size.toNat < 2 ^ 24 := by
  unfold getVertexFetchConstant
  split
  · decide
  · have field := BitFields.toNat_field
      (state.readRegister (kVertexFetchConstantBase + slot * 2 + 1)) 2 24 (by decide)
    have value := Nat.mod_lt
      ((state.readRegister (kVertexFetchConstantBase + slot * 2 + 1)).toNat / 2 ^ 2)
      (show 2 ^ 24 > 0 by decide)
    rw [← field] at value
    exact value

end GpuRegisterState

end BumpinHost.Gpu
