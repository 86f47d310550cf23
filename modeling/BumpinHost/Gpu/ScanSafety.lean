import BumpinHost.Gpu.ScanRuns

/-!
# Scans that stay inside their buffer

The loop condition and the truncation test both add to the offset before they
compare, and the sum is taken modulo 2^32.  A scan returns, stops inside its
buffer and acts on whole packets of it exactly when no packet it acts on ends past
the last 32-bit offset.  The size of a nested buffer is four times a dword count
that the guest chose, so such a packet can occur: over a buffer of
`0xFFFFFFFC` bytes the loop condition never fails.
-/

namespace BumpinHost.Gpu

open Memory

variable {Guest : Type}

/-- The scan returns, the offset it returns lies between its start and the end of its
buffer, and every packet it acts on, in this buffer or in a nested one, lies wholly
in the buffer being scanned. -/
def ScanStaysInside (env : Env Guest) (m : Machine Guest)
    (bufferAddr startOffsetBytes sizeBytes : Word) (depth : Int) : Prop :=
  (∃ outcome, Scans env m bufferAddr startOffsetBytes sizeBytes depth outcome ∧
    (startOffsetBytes ≤ sizeBytes →
      startOffsetBytes ≤ outcome.offset ∧ outcome.offset ≤ sizeBytes)) ∧
  ∀ round header,
    Round.Reaches env ⟨m, bufferAddr, startOffsetBytes, sizeBytes, depth⟩ round →
    round.ActsOn header →
      round.offset.toNat + (packetBytes header).toNat ≤ round.size.toNat

/-- A scan stays inside its buffer exactly when no packet end in its run wraps. -/
theorem scanBuffer_staysInside_iff (env : Env Guest) (m : Machine Guest)
    (bufferAddr startOffsetBytes sizeBytes : Word) (depth : Int) :
    ScanStaysInside env m bufferAddr startOffsetBytes sizeBytes depth ↔
      Round.NeverWraps env ⟨m, bufferAddr, startOffsetBytes, sizeBytes, depth⟩ := by
  constructor
  · rintro ⟨-, inside⟩ round header reaches acts
    have fits := inside round header reaches acts
    have sizeLt := round.size.isLt
    omega
  · intro never
    obtain ⟨outcome, returns⟩ := Round.returns_of_neverWraps never
    refine ⟨⟨outcome, returns, Round.offset_bounds_of_neverWraps never returns⟩, ?_⟩
    intro round header reaches acts
    exact packetAt_fits_of_noWrap (never round header reaches acts) acts

/-- Guest memory whose every dword is a filler packet. -/
def fillerMemory : Memory := fun _ => 0x80

theorem loadU32_fillerMemory (addr : Word) : loadU32 fillerMemory addr = 0x80808080 := by
  simp only [loadU32, fillerMemory]
  decide

/-- Aligned offsets never fail the loop condition for this size. -/
theorem packetAt_fillerMemory {offsetBytes : Word} (aligned : offsetBytes.toNat % 4 = 0)
    (bufferAddr : Word) :
    packetAt fillerMemory bufferAddr offsetBytes 0xFFFFFFFC = some 0x80808080 := by
  have room : offsetBytes + 4 ≤ 0xFFFFFFFC := by bv_omega
  have filler : packetType 0x80808080 = 0x2 := by decide
  simp only [packetAt, loadU32_fillerMemory, if_pos room, if_pos filler]
  rfl

/-- The scan of a nested buffer of `0x3FFFFFFF` dwords, all of them fillers, never
returns: its offset wraps from `0xFFFFFFFC` to zero. -/
theorem scanBuffer_neverLeaves :
    ¬ ScanStaysInside (Env.idle : Env Unit) (.initial fillerMemory ()) 0xA0000000 0
      (0x3FFFFFFF * 4) 1 := by
  rintro ⟨⟨outcome, scanned, -⟩, -⟩
  have memEq : (Machine.initial fillerMemory ()).mem = fillerMemory := rfl
  have aligned : (0 : Word).toNat % 4 = 0 := rfl
  have sizeEq : (0x3FFFFFFF * 4 : Word) = 0xFFFFFFFC := by decide
  rw [sizeEq] at scanned
  revert memEq aligned
  refine scanned.rounds
    (motive := fun m offsetBytes _ => m.mem = fillerMemory →
      offsetBytes.toNat % 4 = 0 → False) ?_ ?_
  · intro m offsetBytes stops memEq aligned
    rw [memEq, packetAt_fillerMemory aligned] at stops
    cases stops
  · intro m offsetBytes header body rest found executed _ ih memEq aligned
    rw [memEq, packetAt_fillerMemory aligned] at found
    obtain rfl := Option.some.inj found
    obtain ⟨fuel, bodyEq⟩ := executed
    obtain rfl := Option.some.inj bodyEq
    refine ih memEq ?_
    have four : packetBytes 0x80808080 = 4 := by decide
    rw [four]
    bv_omega

end BumpinHost.Gpu
