import Mathlib.Data.BitVec
import Mathlib.Order.Monotone.Basic

/-!
# Single precision floats

Every finite float is a multiple of the least positive one, `2 ^ -149`, so its value is an
integer count of these units.  The counts grow with the bits, which leaves two candidates for
the float nearest to a number.
-/

namespace BumpinHost.BinaryFloat

abbrev Single := BitVec 32

/-- The units of the float with these bits, the sign left out. -/
def units (bits : Nat) : Nat :=
  if bits / 2 ^ 23 = 0 then bits else (2 ^ 23 + bits % 2 ^ 23) * 2 ^ (bits / 2 ^ 23 - 1)

/-- All bits but the sign. -/
def magnitude (x : Single) : Nat :=
  x.toNat % 2 ^ 31

def IsFinite (x : Single) : Prop :=
  magnitude x < 255 * 2 ^ 23

def IsNaN (x : Single) : Prop :=
  255 * 2 ^ 23 < magnitude x

instance : DecidablePred IsFinite := fun x => inferInstanceAs (Decidable (magnitude x < _))

instance : DecidablePred IsNaN := fun x => inferInstanceAs (Decidable (_ < magnitude x))

/-- The units of a finite float. -/
def value (x : Single) : Int :=
  if x.msb then -(units (magnitude x)) else units (magnitude x)

def distance (target : Int) (x : Single) : Nat :=
  (target - value x).natAbs

/-- No finite float is nearer, and where another is as near, this one is even. -/
def NearestEven (target : Int) (x : Single) : Prop :=
  IsFinite x ∧ ∀ y, IsFinite y → distance target x ≤ distance target y ∧
    (distance target x = distance target y → value y = value x ∨ x.toNat % 2 = 0)

/-- The units from an exponent and a significand, which may be the one after the greatest. -/
theorem units_pack (e : Nat) {q : Nat} (normal : 2 ^ 23 ≤ q) (fits : q ≤ 2 ^ 24) :
    units (e * 2 ^ 23 + q) = q * 2 ^ e := by
  unfold units
  by_cases last : q = 2 ^ 24
  · have exponent : (e * 2 ^ 23 + q) / 2 ^ 23 = e + 2 := by omega
    have fraction : (e * 2 ^ 23 + q) % 2 ^ 23 = 0 := by omega
    rw [exponent, fraction, if_neg (by omega), last, Nat.add_zero,
      show e + 2 - 1 = e + 1 from rfl, Nat.pow_succ 2 e, show 2 ^ 24 = 2 ^ 23 * 2 from rfl,
      Nat.mul_assoc, Nat.mul_comm 2]
  · have exponent : (e * 2 ^ 23 + q) / 2 ^ 23 = e + 1 := by omega
    have fraction : 2 ^ 23 + (e * 2 ^ 23 + q) % 2 ^ 23 = q := by omega
    rw [exponent, fraction, if_neg (by omega), Nat.add_sub_cancel]

theorem units_subnormal {bits : Nat} (small : bits ≤ 2 ^ 23) : units bits = bits := by
  by_cases first : bits = 2 ^ 23
  · subst first
    rfl
  · rw [units, if_pos (by omega)]

theorem units_lt_succ (bits : Nat) : units bits < units (bits + 1) := by
  by_cases small : bits < 2 ^ 23
  · rw [units_subnormal small.le, units_subnormal (by omega)]
    exact Nat.lt_succ_self bits
  · obtain ⟨e, q, rfl, normal, fits⟩ :
        ∃ e q, bits = e * 2 ^ 23 + q ∧ 2 ^ 23 ≤ q ∧ q < 2 ^ 24 :=
      ⟨bits / 2 ^ 23 - 1, 2 ^ 23 + bits % 2 ^ 23, by omega, by omega, by omega⟩
    rw [units_pack e normal fits.le, Nat.add_assoc, units_pack e (by omega) (by omega)]
    exact Nat.mul_lt_mul_of_pos_right (Nat.lt_succ_self q) (Nat.two_pow_pos e)

theorem units_strictMono : StrictMono units :=
  strictMono_nat_of_lt_succ units_lt_succ

/-- No float lies between two with consecutive bits. -/
theorem value_le_or_ge (y : Single) (bits : Nat) :
    value y ≤ units bits ∨ (units (bits + 1) : Int) ≤ value y := by
  unfold value
  split
  case isTrue => omega
  case isFalse =>
      obtain below | above : magnitude y ≤ bits ∨ bits + 1 ≤ magnitude y := by omega
      · exact .inl (by exact_mod_cast units_strictMono.monotone below)
      · exact .inr (by exact_mod_cast units_strictMono.monotone above)

theorem magnitude_ofNat {bits : Nat} (small : bits < 2 ^ 31) :
    magnitude (BitVec.ofNat 32 bits) = bits := by
  rw [magnitude, BitVec.toNat_ofNat]
  omega

theorem value_ofNat {bits : Nat} (small : bits < 2 ^ 31) :
    value (BitVec.ofNat 32 bits) = units bits := by
  have positive : (BitVec.ofNat 32 bits).msb = false := by
    rw [BitVec.msb_eq_decide, BitVec.toNat_ofNat, decide_eq_false_iff_not]
    omega
  rw [value, positive, magnitude_ofNat small, if_neg (by decide)]

/-- Which of two consecutive floats a number between them is rounded to. -/
def RoundsBy (target : Int) (bits up : Nat) : Prop :=
  let twice : Int := units bits + units (bits + 1)
  up = 0 ∧ (2 * target < twice ∨ 2 * target = twice ∧ bits % 2 = 0) ∨
    up = 1 ∧ (twice < 2 * target ∨ 2 * target = twice ∧ bits % 2 = 1)

theorem nearestEven_of_roundsBy {target : Int} {bits up : Nat} (low : units bits ≤ target)
    (high : target ≤ units (bits + 1)) (rounds : RoundsBy target bits up)
    (finite : bits + up < 255 * 2 ^ 23) : NearestEven target (BitVec.ofNat 32 (bits + up)) := by
  have small : bits + up < 2 ^ 31 := by omega
  refine ⟨by rwa [IsFinite, magnitude_ofNat small], fun y _ => ?_⟩
  have sides := value_le_or_ge y bits
  rw [distance, distance, value_ofNat small, BitVec.toNat_ofNat]
  obtain ⟨rfl, nearer⟩ | ⟨rfl, nearer⟩ := rounds
  · rw [Nat.add_zero]
    omega
  · omega

/-- The significand of a number and what is left below decide the rounding. -/
theorem nearestEven_pack {e q rest up : Nat} (normal : 2 ^ 23 ≤ q) (fits : q < 2 ^ 24)
    (small : e < 253) (below : rest ≤ 2 ^ e)
    (rounds : up = 0 ∧ (2 * rest < 2 ^ e ∨ 2 * rest = 2 ^ e ∧ q % 2 = 0) ∨
      up = 1 ∧ (2 ^ e < 2 * rest ∨ 2 * rest = 2 ^ e ∧ q % 2 = 1)) :
    NearestEven (q * 2 ^ e + rest : Nat) (BitVec.ofNat 32 (e * 2 ^ 23 + q + up)) := by
  have lower := units_pack e normal fits.le
  have upper : units (e * 2 ^ 23 + q + 1) = q * 2 ^ e + 2 ^ e := by
    rw [Nat.add_assoc, units_pack e (by omega) (by omega), Nat.succ_mul]
  have parity : (e * 2 ^ 23 + q) % 2 = q % 2 := by omega
  refine nearestEven_of_roundsBy ?_ ?_ ?_ (by omega)
  · rw [lower]
    omega
  · rw [upper]
    omega
  · rw [RoundsBy, lower, upper, parity]
    generalize 2 ^ e = unit at *
    generalize q * unit = base at *
    omega

def negate (x : Single) : Single :=
  x + BitVec.intMin 32

theorem toNat_negate (x : Single) : (negate x).toNat = (x.toNat + 2 ^ 31) % 2 ^ 32 :=
  BitVec.toNat_add ..

@[simp]
theorem magnitude_negate (x : Single) : magnitude (negate x) = magnitude x := by
  rw [magnitude, magnitude, toNat_negate]
  omega

@[simp]
theorem value_negate (x : Single) : value (negate x) = -value x := by
  have bound := x.isLt
  rw [value, value, magnitude_negate, BitVec.msb_eq_decide, BitVec.msb_eq_decide, toNat_negate]
  simp only [decide_eq_true_eq]
  split <;> split <;> omega

theorem negate_negate (x : Single) : negate (negate x) = x := by
  have bound := x.isLt
  apply BitVec.eq_of_toNat_eq
  rw [toNat_negate, toNat_negate]
  omega

@[simp]
theorem distance_negate (target : Int) (x : Single) :
    distance (-target) (negate x) = distance target x := by
  rw [distance, distance, value_negate]
  omega

/-- Rounding to the nearest does not depend on the sign. -/
theorem NearestEven.negate {target : Int} {x : Single} (nearest : NearestEven target x) :
    NearestEven (-target) (negate x) := by
  refine ⟨by rw [IsFinite, magnitude_negate]; exact nearest.1, fun y finite => ?_⟩
  obtain ⟨le, tie⟩ := nearest.2 (BinaryFloat.negate y)
    (by rw [IsFinite, magnitude_negate]; exact finite)
  have other : distance (-target) y = distance target (BinaryFloat.negate y) := by
    rw [← distance_negate target, negate_negate]
  rw [distance_negate, other]
  refine ⟨le, fun equal => ?_⟩
  obtain same | even := tie equal
  · rw [value_negate] at same ⊢
    exact .inl (by omega)
  · rw [toNat_negate]
    exact .inr (by omega)

/-- The bits nearest to a natural number, from its highest 24 bits and the rest. -/
def roundNat (n : Nat) : Nat :=
  if n = 0 then 0
  else
    let e := n.log2 + 126
    let q := n * 2 ^ 149 / 2 ^ e
    let rest := n * 2 ^ 149 % 2 ^ e
    e * 2 ^ 23 + q + if 2 ^ e < 2 * rest ∨ 2 * rest = 2 ^ e ∧ q % 2 = 1 then 1 else 0

/-- The float nearest to an integer. -/
def roundInt (n : Int) : Single :=
  if n < 0 then negate (BitVec.ofNat 32 (roundNat n.natAbs))
  else BitVec.ofNat 32 (roundNat n.natAbs)

theorem nearestEven_zero : NearestEven 0 0 := by
  refine ⟨by decide, fun y _ => ⟨?_, fun _ => .inr rfl⟩⟩
  have zero : distance 0 0 = 0 := by decide
  rw [zero]
  exact Nat.zero_le _

theorem nearestEven_roundNat {n : Nat} (small : n.log2 < 127) :
    NearestEven (n * 2 ^ 149 : Nat) (BitVec.ofNat 32 (roundNat n)) := by
  by_cases zero : n = 0
  · subst zero
    exact nearestEven_zero
  · have normal : 2 ^ 23 ≤ n * 2 ^ 149 / 2 ^ (n.log2 + 126) := by
      rw [Nat.le_div_iff_mul_le (Nat.two_pow_pos _)]
      calc 2 ^ 23 * 2 ^ (n.log2 + 126) = 2 ^ n.log2 * 2 ^ 149 := by
            rw [← Nat.pow_add, ← Nat.pow_add]
            congr 1
            omega
        _ ≤ n * 2 ^ 149 := Nat.mul_le_mul_right _ (Nat.log2_self_le zero)
    have fits : n * 2 ^ 149 / 2 ^ (n.log2 + 126) < 2 ^ 24 := by
      rw [Nat.div_lt_iff_lt_mul (Nat.two_pow_pos _)]
      calc n * 2 ^ 149 < 2 ^ (n.log2 + 1) * 2 ^ 149 :=
            Nat.mul_lt_mul_of_pos_right Nat.lt_log2_self (Nat.two_pow_pos _)
        _ = 2 ^ 24 * 2 ^ (n.log2 + 126) := by
            rw [← Nat.pow_add, ← Nat.pow_add]
            congr 1
            omega
    have below := (Nat.mod_lt (n * 2 ^ 149) (Nat.two_pow_pos (n.log2 + 126))).le
    have whole := Nat.div_add_mod' (n * 2 ^ 149) (2 ^ (n.log2 + 126))
    rw [← whole, roundNat, if_neg zero]
    refine nearestEven_pack normal fits (by omega) below ?_
    split <;> omega

theorem nearestEven_roundInt {n : Int} (small : n.natAbs.log2 < 127) :
    NearestEven (n * 2 ^ 149) (roundInt n) := by
  have nearest := nearestEven_roundNat small
  unfold roundInt
  split
  case isTrue negative =>
      have target : n * 2 ^ 149 = -((n.natAbs * 2 ^ 149 : Nat) : Int) := by omega
      rw [target]
      exact nearest.negate
  case isFalse positive =>
      have target : n * 2 ^ 149 = ((n.natAbs * 2 ^ 149 : Nat) : Int) := by omega
      rw [target]
      exact nearest

end BumpinHost.BinaryFloat
