import BumpinHost.Library.ByteMemory
import Mathlib.Data.List.TakeWhile

/-!
# C strings

A string in memory goes up to the first byte that is zero.  Addresses wrap, so a string
is found from every address as soon as one byte is zero.  Bytes stored one by one are
read back as long as there are not more of them than addresses.
-/

namespace BumpinHost

/-- What is in front of the first zero byte. -/
def beforeZero (bytes : List Byte) : List Byte :=
  bytes.takeWhile fun byte => byte != 0

theorem beforeZero_eq_self {bytes : List Byte} (nonzero : ∀ byte ∈ bytes, byte ≠ 0) :
    beforeZero bytes = bytes :=
  List.takeWhile_eq_self_iff.mpr fun byte listed => bne_iff_ne.mpr (nonzero byte listed)

theorem beforeZero_nonzero {bytes : List Byte} : ∀ byte ∈ beforeZero bytes, byte ≠ 0 := by
  intro byte listed
  unfold beforeZero at listed
  have kept := List.mem_takeWhile_imp listed
  exact bne_iff_ne.mp kept

theorem length_beforeZero_le (bytes : List Byte) : (beforeZero bytes).length ≤ bytes.length :=
  (List.takeWhile_prefix _).length_le

namespace Memory

/-- The string at an address, if its end comes within so many bytes. -/
def stringWithin (mem : Memory) : Nat → Word → Option (List Byte)
  | 0, _ => none
  | count + 1, addr =>
      if mem addr.toNat = 0 then some []
      else (stringWithin mem count (addr + 1)).map fun rest => mem addr.toNat :: rest

/-- `for (uint32_t i = 0; ; i++)` up to a zero byte.  A search that has seen every address
never ends. -/
def loadString (mem : Memory) (addr : Word) : Option (List Byte) :=
  stringWithin mem (2 ^ 32) addr

/-- `for (size_t i = 0; i < bytes.size(); i++)` with the store of one byte. -/
def storeBytes (mem : Memory) : Word → List Byte → Memory
  | _, [] => mem
  | addr, byte :: rest => storeBytes (Function.update mem addr.toNat byte) (addr + 1) rest

variable {mem : Memory} {addr : Word} {bytes : List Byte}

theorem add_succ (addr : Word) (index : Nat) :
    addr + 1 + BitVec.ofNat 32 index = addr + BitVec.ofNat 32 (index + 1) := by
  rw [BitVec.ofNat_add, add_assoc, add_comm (BitVec.ofNat 32 index)]
  rfl

/-- The induction is on the string. -/
theorem stringWithin_eq {count : Nat} (fits : bytes.length < count)
    (stored : ∀ index, (inside : index < bytes.length) →
      mem (addr + BitVec.ofNat 32 index).toNat = bytes[index])
    (nonzero : ∀ byte ∈ bytes, byte ≠ 0)
    (terminated : mem (addr + BitVec.ofNat 32 bytes.length).toNat = 0) :
    stringWithin mem count addr = some bytes := by
  induction bytes generalizing addr count with
  | nil =>
      obtain ⟨count, rfl⟩ := Nat.exists_eq_succ_of_ne_zero (Nat.ne_zero_of_lt fits)
      have start : addr + BitVec.ofNat 32 0 = addr := BitVec.add_zero addr
      rw [List.length_nil, start] at terminated
      rw [stringWithin, if_pos terminated]
  | cons byte rest ih =>
      obtain ⟨count, rfl⟩ := Nat.exists_eq_succ_of_ne_zero (Nat.ne_zero_of_lt fits)
      have start : addr + BitVec.ofNat 32 0 = addr := BitVec.add_zero addr
      have first := stored 0 (Nat.succ_pos _)
      rw [start] at first
      have other : mem addr.toNat ≠ 0 := by
        rw [first]
        exact nonzero byte List.mem_cons_self
      rw [stringWithin, if_neg other, first, ih (Nat.lt_of_succ_lt_succ fits)]
      · rfl
      · intro index listed
        rw [add_succ]
        exact stored (index + 1) (Nat.succ_lt_succ listed)
      · exact fun later listed => nonzero later (List.mem_cons_of_mem byte listed)
      · rw [add_succ]
        exact terminated

theorem nonzero_of_stringWithin {count : Nat} (found : stringWithin mem count addr = some bytes) :
    ∀ byte ∈ bytes, byte ≠ 0 := by
  induction count generalizing addr bytes with
  | zero => cases found
  | succ count ih =>
      rw [stringWithin] at found
      split at found
      · cases found
        exact fun _ listed => absurd listed List.not_mem_nil
      · next other =>
        obtain ⟨rest, restFound, rfl⟩ := Option.map_eq_some_iff.mp found
        exact List.forall_mem_cons.mpr ⟨other, ih restFound⟩

theorem isSome_stringWithin {count index : Nat} (near : index < count)
    (zero : mem (addr + BitVec.ofNat 32 index).toNat = 0) :
    (stringWithin mem count addr).isSome := by
  induction count generalizing addr index with
  | zero => exact absurd near (Nat.not_lt_zero index)
  | succ count ih =>
      rw [stringWithin]
      split
      · rfl
      · next other =>
        rw [Option.isSome_map]
        cases index with
        | zero =>
            have start : addr + BitVec.ofNat 32 0 = addr := BitVec.add_zero addr
            rw [start] at zero
            exact absurd zero other
        | succ index =>
            rw [← add_succ] at zero
            exact ih (Nat.lt_of_succ_lt_succ near) zero

/-- With a zero byte somewhere, there is a string at every address. -/
theorem isSome_loadString {zeroAddr : Word} (zero : mem zeroAddr.toNat = 0) (addr : Word) :
    (loadString mem addr).isSome := by
  apply isSome_stringWithin (zeroAddr - addr).isLt
  rw [BitVec.ofNat_toNat, BitVec.setWidth_eq, add_sub_cancel]
  exact zero

theorem storeBytes_outside {position : Nat}
    (outside : ∀ index < bytes.length, (addr + BitVec.ofNat 32 index).toNat ≠ position) :
    storeBytes mem addr bytes position = mem position := by
  induction bytes generalizing mem addr with
  | nil => rfl
  | cons byte rest ih =>
      have start : addr + BitVec.ofNat 32 0 = addr := BitVec.add_zero addr
      have first := outside 0 (Nat.succ_pos _)
      rw [start] at first
      rw [storeBytes, ih, Function.update_of_ne first.symm]
      intro index listed
      rw [add_succ]
      exact outside (index + 1) (Nat.succ_lt_succ listed)

/-- What was stored is read back when it fits in the addresses. -/
theorem storeBytes_inside (fits : bytes.length ≤ 2 ^ 32) {index : Nat}
    (inside : index < bytes.length) :
    storeBytes mem addr bytes (addr + BitVec.ofNat 32 index).toNat = bytes[index] := by
  induction bytes generalizing mem addr index with
  | nil => exact absurd inside (Nat.not_lt_zero index)
  | cons byte rest ih =>
      rw [List.length_cons] at fits
      cases index with
      | zero =>
          have start : addr + BitVec.ofNat 32 0 = addr := BitVec.add_zero addr
          rw [storeBytes, start, storeBytes_outside]
          · exact Function.update_self _ _ _
          · intro later listed same
            have offset : (1 : Word) + BitVec.ofNat 32 later = 0 := by
              rw [add_assoc] at same
              exact left_eq_add.mp (BitVec.eq_of_toNat_eq same).symm
            have one : (1 : Word).toNat = 1 := rfl
            have value := congrArg BitVec.toNat offset
            rw [BitVec.toNat_add, one, BitVec.toNat_ofNat] at value
            have zero : (0 : Word).toNat = 0 := rfl
            omega
      | succ index =>
          rw [storeBytes, ← add_succ]
          exact ih (by omega) (Nat.lt_of_succ_lt_succ inside)

theorem storeBytes_concat (mem : Memory) (addr : Word) (bytes : List Byte) (last : Byte) :
    storeBytes mem addr (bytes ++ [last]) =
      Function.update (storeBytes mem addr bytes)
        (addr + BitVec.ofNat 32 bytes.length).toNat last := by
  induction bytes generalizing mem addr with
  | nil =>
      have start : addr + BitVec.ofNat 32 0 = addr := BitVec.add_zero addr
      rw [List.nil_append, List.length_nil, start]
      rfl
  | cons byte rest ih =>
      rw [List.cons_append, storeBytes, ih, add_succ]
      rfl

end Memory

end BumpinHost
