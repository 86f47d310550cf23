import Mathlib.Data.List.Pairwise
import Mathlib.Data.Nat.Bitwise
import Mathlib.Order.CompletePartialOrder
import Mathlib.Order.Interval.Set.Disjoint

/-!
# Allocation from a growing counter

A counter only grows, and each allocation takes ranges between its old and its new
value, so that ranges of different allocations never meet.  Rounding up to an
alignment is the one operation that moves the start of a range.
-/

namespace BumpinHost.BumpAllocator

structure Range where
  start : Nat
  size : Nat
deriving DecidableEq, Repr

def Range.stop (range : Range) : Nat := range.start + range.size

def Range.addresses (range : Range) : Set Nat := Set.Ico range.start range.stop

/-- In the order of the list, each range ends at least `gap` before the next begins. -/
def Separated (gap : Nat) (ranges : List Range) : Prop :=
  ranges.Pairwise fun first second => first.stop + gap ≤ second.start

/-- All ranges, with the gap behind them, lie between two counter values. -/
def Between (gap lower upper : Nat) (ranges : List Range) : Prop :=
  ∀ range ∈ ranges, lower ≤ range.start ∧ range.stop + gap ≤ upper

variable {gap lower middle upper : Nat} {ranges fresh : List Range}

/-- Ranges taken later are separated from those taken earlier. -/
theorem Separated.append (separated : Separated gap ranges)
    (old : Between gap lower middle ranges) (separatedFresh : Separated gap fresh)
    (new : Between gap middle upper fresh) : Separated gap (ranges ++ fresh) := by
  apply List.pairwise_append.mpr
  refine ⟨separated, separatedFresh, ?_⟩
  intro first memberFirst second memberSecond
  exact (old first memberFirst).2.trans (new second memberSecond).1

theorem Separated.disjoint (separated : Separated gap ranges) :
    ranges.Pairwise fun first second => Disjoint first.addresses second.addresses := by
  apply List.Pairwise.imp _ separated
  intro first second apart
  rw [Set.disjoint_left]
  intro address inFirst inSecond
  exact absurd (inSecond.1.trans_lt inFirst.2) (by omega)

theorem Between.append (lowerMiddle : lower ≤ middle) (middleUpper : middle ≤ upper)
    (old : Between gap lower middle ranges) (new : Between gap middle upper fresh) :
    Between gap lower upper (ranges ++ fresh) := by
  intro range member
  rcases List.mem_append.mp member with earlier | later
  · exact ⟨(old range earlier).1, (old range earlier).2.trans middleUpper⟩
  · exact ⟨lowerMiddle.trans (new range later).1, (new range later).2⟩

theorem Separated.single (gap : Nat) (range : Range) : Separated gap [range] :=
  List.pairwise_singleton ..

theorem Between.single {range : Range} (start : lower ≤ range.start)
    (stop : range.stop + gap ≤ upper) : Between gap lower upper [range] := by
  intro member isMember
  rw [List.mem_singleton.mp isMember]
  exact ⟨start, stop⟩

/-- The next multiple of an alignment. -/
def alignUp (alignment n : Nat) : Nat := (n + alignment - 1) / alignment * alignment

theorem dvd_alignUp (alignment n : Nat) : alignment ∣ alignUp alignment n :=
  Nat.dvd_mul_left ..

theorem le_alignUp {alignment : Nat} (positive : 0 < alignment) (n : Nat) :
    n ≤ alignUp alignment n := by
  have division := Nat.div_add_mod (n + alignment - 1) alignment
  have remainder := Nat.mod_lt (n + alignment - 1) positive
  unfold alignUp
  rw [Nat.mul_comm]
  omega

/-- A multiple of the alignment is not passed. -/
theorem alignUp_le_of_dvd {alignment n limit : Nat} (divides : alignment ∣ limit)
    (below : n ≤ limit) : alignUp alignment n ≤ limit := by
  obtain ⟨parts, rfl⟩ := divides
  rcases Nat.eq_zero_or_pos alignment with zero | positive
  · rw [zero, alignUp, Nat.mul_zero, Nat.zero_mul]
  · have quotient : (n + alignment - 1) / alignment < parts + 1 := by
      rw [Nat.div_lt_iff_lt_mul positive, Nat.add_mul, Nat.one_mul, Nat.mul_comm]
      omega
    rw [alignUp, Nat.mul_comm]
    exact Nat.mul_le_mul_left alignment (Nat.lt_succ_iff.mp quotient)

/-- Whole multiples of the alignment stay outside the rounding. -/
theorem alignUp_add_mul {alignment : Nat} (positive : 0 < alignment) (n rounds : Nat) :
    alignUp alignment (n + alignment * rounds) = alignUp alignment n + alignment * rounds := by
  unfold alignUp
  rw [show n + alignment * rounds + alignment - 1 = n + alignment - 1 + alignment * rounds by
    omega, Nat.add_mul_div_left _ _ positive, Nat.add_mul, Nat.mul_comm rounds]

/-- Rounding up commutes with a wrap at a multiple of the alignment. -/
theorem alignUp_mod {alignment modulus : Nat} (positive : 0 < alignment)
    (divides : alignment ∣ modulus) (n : Nat) :
    alignUp alignment (n % modulus) % modulus = alignUp alignment n % modulus := by
  obtain ⟨parts, rfl⟩ := divides
  have whole := alignUp_add_mul positive (n % (alignment * parts))
    (parts * (n / (alignment * parts)))
  rw [← Nat.mul_assoc, Nat.mod_add_div] at whole
  rw [whole, Nat.add_mul_mod_self_left]

/-- A mask and its complement take a word apart. -/
theorem toNat_and_add_and_not {width : Nat} (word mask : BitVec width) :
    (word &&& mask).toNat + (word &&& ~~~mask).toNat = word.toNat := by
  have disjoint : (word &&& mask) &&& (word &&& ~~~mask) = 0 := by
    ext i
    simp only [BitVec.getElem_and, BitVec.getElem_not, BitVec.ofNat_eq_ofNat,
      BitVec.getElem_zero]
    cases word[i] <;> cases mask[i] <;> rfl
  have whole : (word &&& mask) ||| (word &&& ~~~mask) = word := by
    ext i
    simp only [BitVec.getElem_or, BitVec.getElem_and, BitVec.getElem_not]
    cases word[i] <;> cases mask[i] <;> rfl
  rw [← BitVec.toNat_add_of_and_eq_zero disjoint,
    BitVec.add_eq_or_of_and_eq_zero _ _ disjoint, whole]

theorem toNat_one_of_power {width bits : Nat} {alignment : BitVec width}
    (power : alignment.toNat = 2 ^ bits) : (1 : BitVec width).toNat = 1 := by
  apply BitVec.toNat_one
  have positive : 0 < 2 ^ bits := Nat.two_pow_pos bits
  cases width with
  | zero => exact absurd (power ▸ alignment.isLt) (by rw [pow_zero]; omega)
  | succ => omega

/-- Masking off the low bits rounds down. -/
theorem toNat_and_not_mask {width : Nat} (word : BitVec width) {bits : Nat}
    {alignment : BitVec width} (power : alignment.toNat = 2 ^ bits) :
    (word &&& ~~~(alignment - 1)).toNat = word.toNat / 2 ^ bits * 2 ^ bits := by
  have positive : 0 < 2 ^ bits := Nat.two_pow_pos bits
  have one := toNat_one_of_power power
  have mask : (alignment - 1).toNat = 2 ^ bits - 1 := by
    rw [BitVec.toNat_sub_of_le, power, one]
    rw [BitVec.le_def, one, power]
    exact positive
  have low : (word &&& (alignment - 1)).toNat = word.toNat % 2 ^ bits := by
    rw [BitVec.toNat_and, mask, Nat.and_two_pow_sub_one_eq_mod]
  have parts := toNat_and_add_and_not word (alignment - 1)
  have division := Nat.div_add_mod word.toNat (2 ^ bits)
  rw [low] at parts
  rw [Nat.mul_comm] at division
  omega

/-- Rounding a word up wraps as the rounded number does. -/
theorem toNat_alignUp_mod {width bits : Nat} {word alignment : BitVec width}
    (power : alignment.toNat = 2 ^ bits) :
    ((word + alignment - 1) &&& ~~~(alignment - 1)).toNat =
      alignUp alignment.toNat word.toNat % 2 ^ width := by
  have positive : 0 < 2 ^ bits := Nat.two_pow_pos bits
  have smaller : 2 ^ bits < 2 ^ width := power ▸ alignment.isLt
  have one := toNat_one_of_power power
  obtain ⟨parts, whole⟩ : 2 ^ bits ∣ 2 ^ width :=
    Nat.pow_dvd_pow 2 ((Nat.pow_lt_pow_iff_right (by decide)).mp smaller).le
  have sum : (word + alignment - 1).toNat = (word.toNat + 2 ^ bits - 1) % 2 ^ width := by
    rw [BitVec.toNat_sub, BitVec.toNat_add, one, power, Nat.add_mod_mod,
      show 2 ^ width - 1 + (word.toNat + 2 ^ bits) =
        word.toNat + 2 ^ bits - 1 + 2 ^ width by omega, Nat.add_mod_right]
  rw [toNat_and_not_mask _ power, sum, power, alignUp, whole, Nat.mod_mul_right_div_self,
    Nat.mul_comm (2 ^ bits) parts, Nat.mul_mod_mul_right]

end BumpinHost.BumpAllocator
