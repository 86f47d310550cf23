import BumpinHost.Kernel.Allocator

/-!
# What a caller of the allocator owns

The allocator refuses nothing: a size that is too large becomes a small block, and a
counter that has passed the top of memory goes on from its bottom.  Whether a caller
may use what it asked for depends on the counter over unbounded integers.
-/

namespace BumpinHost.Kernel

open BumpAllocator (Range alignUp)

/-- The block lies in the allocator's part of memory, ends inside memory when it is as
long as requested, and all of it has been reserved. -/
structure Allocation.OwnsRequested (result : Allocation) (requested : Nat) : Prop where
  aboveStart : 0xA0000000 ≤ result.address.toNat
  inMemory : result.address.toNat + requested ≤ 2 ^ 32
  reserved : Set.Ico result.address.toNat (result.address.toNat + requested) ⊆
    result.range.addresses

namespace AllocatorLabel

/-- Only a physical allocation can, by an address that is null. -/
def ReportsFailure : AllocatorLabel → Prop
  | mmAllocatePhysicalMemoryEx _ _ _ result => result.address = 0
  | _ => False

def OwnsRequested : AllocatorLabel → Prop
  | ntAllocateVirtualMemory _ regionSize result => result.OwnsRequested regionSize.toNat
  | mmAllocatePhysicalMemoryEx _ requestedSize _ result =>
      result.OwnsRequested requestedSize.toNat
  | _ => True

/-- The counter, or the top of memory, is rounded up to null. -/
def RoundsToNull (counter : Nat) : AllocatorLabel → Prop
  | mmAllocatePhysicalMemoryEx _ _ alignment _ =>
      unboundedPhysicalAddress counter alignment.toNat = 0 ∨
        unboundedPhysicalAddress counter alignment.toNat = 2 ^ 32
  | _ => False

/-- The request fits between the counter, rounded up to the alignment, and the top of
memory, and a physical one is not beyond the console's memory. -/
def Fits (counter : Nat) : AllocatorLabel → Prop
  | ntAllocateVirtualMemory _ regionSize _ =>
      0xA0000000 ≤ counter ∧ counter + regionSize.toNat ≤ 2 ^ 32
  | mmAllocatePhysicalMemoryEx _ requestedSize alignment _ =>
      requestedSize.toNat ≤ 0x20000000 ∧
        0xA0000000 ≤ unboundedPhysicalAddress counter alignment.toNat ∧
        unboundedPhysicalAddress counter alignment.toNat < 2 ^ 32 ∧
        unboundedPhysicalAddress counter alignment.toNat + requestedSize.toNat ≤ 2 ^ 32
  | _ => True

end AllocatorLabel

theorem Allocation.ownsRequested_iff (result : Allocation) (requested : Nat) :
    result.OwnsRequested requested ↔
      0xA0000000 ≤ result.address.toNat ∧ result.address.toNat + requested ≤ 2 ^ 32 ∧
        requested ≤ result.size.toNat := by
  constructor
  · intro owns
    refine ⟨owns.aboveStart, owns.inMemory, ?_⟩
    by_contra short
    -- the first address behind the block is one of those that were requested
    have behind : result.address.toNat + result.size.toNat ∈ result.range.addresses := by
      apply owns.reserved
      constructor
      · exact Nat.le_add_right ..
      · omega
    exact absurd behind.2 (Nat.lt_irrefl _)
  · rintro ⟨aboveStart, inMemory, enough⟩
    refine ⟨aboveStart, inMemory, ?_⟩
    exact Set.Ico_subset_Ico_right (Nat.add_le_add_left enough _)

namespace AllocatorState

open AllocatorLabel (unboundedPhysicalSize unboundedPhysicalAddress)

variable (s : AllocatorState)

theorem ntAllocateVirtualMemory_owns_iff (regionSize : Word) :
    (s.ntAllocateVirtualMemory regionSize).1.OwnsRequested regionSize.toNat ↔
      0xA0000000 ≤ s.bumpAllocatorNext.toNat ∧
        s.bumpAllocatorNext.toNat + regionSize.toNat ≤ 2 ^ 32 := by
  have bound := regionSize.isLt
  have size : (s.ntAllocateVirtualMemory regionSize).1.size.toNat =
      (regionSize.toNat + 65535) % 2 ^ 32 / 65536 * 65536 := toNat_roundUp regionSize
  rw [Allocation.ownsRequested_iff, size]
  change 0xA0000000 ≤ s.bumpAllocatorNext.toNat ∧ _ ∧ _ ↔ _
  constructor
  · rintro ⟨aboveStart, inMemory, -⟩
    exact ⟨aboveStart, inMemory⟩
  · rintro ⟨aboveStart, inMemory⟩
    refine ⟨aboveStart, inMemory, ?_⟩
    omega

theorem unboundedPhysicalAddress_le {counter : Nat} (below : counter ≤ 2 ^ 32)
    (alignment : Word) : unboundedPhysicalAddress counter alignment.toNat ≤ 2 ^ 32 := by
  unfold unboundedPhysicalAddress
  split
  case isTrue power =>
      obtain ⟨bits, exponent⟩ := power
      have smaller := alignment.isLt
      rw [exponent] at smaller ⊢
      apply BumpAllocator.alignUp_le_of_dvd _ below
      exact Nat.pow_dvd_pow 2 ((Nat.pow_lt_pow_iff_right (by decide)).mp smaller).le
  case isFalse => exact below

/-- The block is as long as the request unless that is beyond the console's memory. -/
theorem le_unboundedPhysicalSize_iff (requestedSize : Nat) :
    requestedSize ≤ unboundedPhysicalSize requestedSize ↔ requestedSize ≤ 0x20000000 := by
  unfold unboundedPhysicalSize alignUp
  dsimp only
  split <;> omega

theorem mmAllocatePhysicalMemoryEx_owns_iff (requestedSize alignment : Word) :
    (s.mmAllocatePhysicalMemoryEx requestedSize alignment).1.OwnsRequested
        requestedSize.toNat ↔
      requestedSize.toNat ≤ 0x20000000 ∧
        0xA0000000 ≤ unboundedPhysicalAddress s.bumpAllocatorNext.toNat alignment.toNat ∧
        unboundedPhysicalAddress s.bumpAllocatorNext.toNat alignment.toNat < 2 ^ 32 ∧
        unboundedPhysicalAddress s.bumpAllocatorNext.toNat alignment.toNat +
          requestedSize.toNat ≤ 2 ^ 32 := by
  have address : (s.mmAllocatePhysicalMemoryEx requestedSize alignment).1.address.toNat =
      unboundedPhysicalAddress s.bumpAllocatorNext.toNat alignment.toNat % 2 ^ 32 :=
    s.toNat_physicalAddress_mod alignment
  have size : (s.mmAllocatePhysicalMemoryEx requestedSize alignment).1.size.toNat =
      unboundedPhysicalSize requestedSize.toNat := toNat_physicalSize requestedSize
  have below := unboundedPhysicalAddress_le s.bumpAllocatorNext.isLt.le alignment
  rw [Allocation.ownsRequested_iff, address, size, le_unboundedPhysicalSize_iff]
  constructor
  · rintro ⟨aboveStart, inMemory, enough⟩
    refine ⟨enough, ?_, ?_, ?_⟩ <;> omega
  · rintro ⟨enough, aboveStart, top, inMemory⟩
    rw [Nat.mod_eq_of_lt top]
    exact ⟨aboveStart, inMemory, enough⟩

theorem mmAllocatePhysicalMemoryEx_null_iff (requestedSize alignment : Word) :
    (s.mmAllocatePhysicalMemoryEx requestedSize alignment).1.address = 0 ↔
      unboundedPhysicalAddress s.bumpAllocatorNext.toNat alignment.toNat = 0 ∨
        unboundedPhysicalAddress s.bumpAllocatorNext.toNat alignment.toNat = 2 ^ 32 := by
  have address := s.toNat_physicalAddress_mod alignment
  have below := unboundedPhysicalAddress_le s.bumpAllocatorNext.isLt.le alignment
  rw [← BitVec.toNat_inj]
  change (s.physicalAddress alignment).toNat = 0 ↔ _
  rw [address]
  omega

end AllocatorState

namespace AllocatorStep

variable {before after : AllocatorState} {label : AllocatorLabel}

theorem ownsRequested_iff (step : AllocatorStep before label after) :
    label.OwnsRequested ↔ label.Fits before.bumpAllocatorNext.toNat := by
  cases step with
  | ntAllocateVirtualMemory t regionSize =>
      exact before.ntAllocateVirtualMemory_owns_iff regionSize
  | mmAllocatePhysicalMemoryEx t requestedSize alignment =>
      exact before.mmAllocatePhysicalMemoryEx_owns_iff requestedSize alignment
  | exCreateThread => exact Iff.rfl
  | vdTest => exact Iff.rfl
  | vdRegister => exact Iff.rfl
  | vdStore => exact Iff.rfl
  | vdReturn => exact Iff.rfl

theorem reportsFailure_iff (step : AllocatorStep before label after) :
    label.ReportsFailure ↔ label.RoundsToNull before.bumpAllocatorNext.toNat := by
  cases step with
  | ntAllocateVirtualMemory => exact Iff.rfl
  | mmAllocatePhysicalMemoryEx t requestedSize alignment =>
      exact before.mmAllocatePhysicalMemoryEx_null_iff requestedSize alignment
  | exCreateThread => exact Iff.rfl
  | vdTest => exact Iff.rfl
  | vdRegister => exact Iff.rfl
  | vdStore => exact Iff.rfl
  | vdReturn => exact Iff.rfl

end AllocatorStep

/-- After any run the counter is the one over unbounded integers, wrapped. -/
theorem bumpAllocatorNext_eq {trace : List AllocatorLabel} {final : AllocatorState}
    (history : allocatorSystem.History trace final) :
    final.bumpAllocatorNext.toNat = unboundedCounter trace % 2 ^ 32 := by
  refine history.invariant
    (fun past s => s.bumpAllocatorNext.toNat = unboundedCounter past % 2 ^ 32) ?_ ?_
  · rintro start rfl
    rfl
  · intro past before label after _ next step
    rw [unboundedCounter_append]
    exact step.counter next

/-- In every run an allocation owns what was asked for, unless it reports failure, exactly
when what is left of memory behind the counter fits it, or its address rounds to null. -/
theorem allocations_ownRequested_iff {trace : List AllocatorLabel} {final : AllocatorState}
    (history : allocatorSystem.History trace final) {past rest : List AllocatorLabel}
    {label : AllocatorLabel} (made : trace = past ++ label :: rest) :
    ((label.ReportsFailure ∨ label.OwnsRequested) ↔
      label.RoundsToNull (unboundedCounter past % 2 ^ 32) ∨
        label.Fits (unboundedCounter past % 2 ^ 32)) ∧
    (label.OwnsRequested ↔ label.Fits (unboundedCounter past % 2 ^ 32)) := by
  subst made
  obtain ⟨before, after, earlier, step⟩ := history.exists_step
  rw [← bumpAllocatorNext_eq earlier, step.ownsRequested_iff, step.reportsFailure_iff]
  exact ⟨Iff.rfl, Iff.rfl⟩

/-- The second allocation of a run: its address is rounded up past the gap behind the first. -/
theorem allocations_ownRequested_iff_second :
    allocatorSystem.History
        [.ntAllocateVirtualMemory 0 0x12345 ⟨0xA0000000, 0x20000⟩,
          .mmAllocatePhysicalMemoryEx 1 0x20001 0x40000 ⟨0xA0040000, 0x30000⟩]
        ((AllocatorState.initial.ntAllocateVirtualMemory 0x12345).2.mmAllocatePhysicalMemoryEx
          0x20001 0x40000).2 ∧
      (AllocatorLabel.mmAllocatePhysicalMemoryEx 1 0x20001 0x40000
        ⟨0xA0040000, 0x30000⟩).OwnsRequested := by
  let first := AllocatorLabel.ntAllocateVirtualMemory 0 0x12345 ⟨0xA0000000, 0x20000⟩
  let second := AllocatorLabel.mmAllocatePhysicalMemoryEx 1 0x20001 0x40000 ⟨0xA0040000, 0x30000⟩
  let earlier := (AllocatorState.initial.ntAllocateVirtualMemory 0x12345).2
  have stepFirst : AllocatorStep .initial first earlier :=
    .ntAllocateVirtualMemory 0 0x12345 rfl
  have result : (earlier.mmAllocatePhysicalMemoryEx 0x20001 0x40000).1 =
      ⟨0xA0040000, 0x30000⟩ := by decide
  have stepSecond : AllocatorStep earlier second
      (earlier.mmAllocatePhysicalMemoryEx 0x20001 0x40000).2 := by
    have step := AllocatorStep.mmAllocatePhysicalMemoryEx (s := earlier) 1 0x20001 0x40000 rfl
    rwa [result] at step
  have history : allocatorSystem.History [first, second] _ :=
    ⟨_, rfl, .head stepFirst (.single stepSecond)⟩
  have made : [first, second] = [first] ++ second :: [] := rfl
  refine ⟨history, (allocations_ownRequested_iff history made).2.mpr ?_⟩
  have counter : unboundedCounter [first] % 2 ^ 32 = 0xA0021000 := by decide
  have rounded : AllocatorLabel.unboundedPhysicalAddress 0xA0021000 0x40000 = 0xA0040000 := by
    decide
  rw [counter]
  change 0x20001 ≤ 0x20000000 ∧
    0xA0000000 ≤ AllocatorLabel.unboundedPhysicalAddress 0xA0021000 0x40000 ∧
    AllocatorLabel.unboundedPhysicalAddress 0xA0021000 0x40000 < 2 ^ 32 ∧
    AllocatorLabel.unboundedPhysicalAddress 0xA0021000 0x40000 + 0x20001 ≤ 2 ^ 32
  rw [rounded]
  decide

/-- A size that wraps when it is rounded up gets an empty block, and no failure is reported. -/
theorem wrappedSize_ownsNothing :
    allocatorSystem.History [.ntAllocateVirtualMemory 1 0xFFFF0001 ⟨0xA0000000, 0⟩]
        (AllocatorState.initial.ntAllocateVirtualMemory 0xFFFF0001).2 ∧
      ¬ ((AllocatorLabel.ntAllocateVirtualMemory 1 0xFFFF0001 ⟨0xA0000000, 0⟩).ReportsFailure ∨
        (AllocatorLabel.ntAllocateVirtualMemory 1 0xFFFF0001 ⟨0xA0000000, 0⟩).OwnsRequested) := by
  have step : AllocatorStep .initial
      (.ntAllocateVirtualMemory 1 0xFFFF0001 ⟨0xA0000000, 0⟩)
      (AllocatorState.initial.ntAllocateVirtualMemory 0xFFFF0001).2 :=
    .ntAllocateVirtualMemory 1 0xFFFF0001 rfl
  refine ⟨⟨_, rfl, .single step⟩, ?_⟩
  rintro (failure | owns)
  · exact failure
  · exact absurd (step.ownsRequested_iff.mp owns).2 (by decide)

end BumpinHost.Kernel
