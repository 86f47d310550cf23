import Mathlib.Data.BitVec

/-!
# Lanes

A wide value is divided into lanes of equal width, lane 0 being the least significant.  A
value is known when its lanes are.
-/

namespace BumpinHost.Lanes

variable {width size : Nat}

def lane (width : Nat) (value : BitVec size) (index : Nat) : BitVec width :=
  value.extractLsb' (width * index) width

/-- The value with so many of these lanes. -/
def ofLanes (lanes : Nat → BitVec width) : Nat → BitVec size
  | 0 => 0
  | count + 1 => ofLanes lanes count ||| (lanes count).setWidth size <<< (width * count)

theorem getLsbD_lane (value : BitVec size) (index bit : Nat) :
    (lane width value index).getLsbD bit =
      (decide (bit < width) && value.getLsbD (width * index + bit)) :=
  BitVec.getLsbD_extractLsb' ..

/-- Values with the same lanes are the same. -/
theorem eq_of_lanes {first second : BitVec size} (count : Nat) (whole : size = width * count)
    (same : ∀ index < count, lane width first index = lane width second index) :
    first = second := by
  apply BitVec.eq_of_getLsbD_eq
  intro bit inside
  have positive : 0 < width := by
    by_contra none
    rw [Nat.eq_zero_of_not_pos none, Nat.zero_mul] at whole
    omega
  have index : bit / width < count := Nat.div_lt_of_lt_mul (whole ▸ inside)
  have bits := congrArg (BitVec.getLsbD · (bit % width)) (same (bit / width) index)
  simpa only [getLsbD_lane, Nat.mod_lt _ positive, decide_true, Bool.true_and,
    Nat.div_add_mod] using bits

theorem getLsbD_ofLanes (lanes : Nat → BitVec width) (count : Nat) {bit : Nat}
    (inside : bit < size) :
    (ofLanes lanes count : BitVec size).getLsbD bit =
      (decide (bit < width * count) && (lanes (bit / width)).getLsbD (bit % width)) := by
  induction count with
  | zero => simp [ofLanes]
  | succ count ih =>
      rw [ofLanes, BitVec.getLsbD_or, ih, BitVec.getLsbD_shiftLeft, BitVec.getLsbD_setWidth,
        Nat.mul_succ]
      by_cases earlier : bit < width * count
      · simp [earlier, Nat.lt_add_right width earlier]
      · by_cases own : bit < width * count + width
        · have positive : 0 < width := by omega
          have quotient : bit / width = count :=
            Nat.div_eq_of_lt_le (by rw [Nat.mul_comm]; omega) (by rw [Nat.succ_mul, Nat.mul_comm]; omega)
          have rest : bit % width = bit - width * count := by
            rw [Nat.mod_def, quotient]
          simp [earlier, own, inside, quotient, rest]
          omega
        · have beyond : (lanes count).getLsbD (bit - width * count) = false :=
            BitVec.getLsbD_of_ge _ _ (by omega)
          simp [earlier, own, beyond]

theorem lane_ofLanes (lanes : Nat → BitVec width) {index count : Nat} (isLane : index < count)
    (fits : width * count ≤ size) :
    lane width (ofLanes lanes count : BitVec size) index = lanes index := by
  apply BitVec.eq_of_getLsbD_eq
  intro bit small
  have below : width * index + bit < width * count := by
    calc width * index + bit < width * index + width := by omega
      _ = width * (index + 1) := by rw [Nat.mul_succ]
      _ ≤ width * count := Nat.mul_le_mul_left _ isLane
  rw [getLsbD_lane, getLsbD_ofLanes lanes count (below.trans_le fits)]
  simp [small, below, Nat.mul_add_div (by omega : 0 < width), Nat.div_eq_of_lt small,
    Nat.mod_eq_of_lt small]

/-- A lane of a lane. -/
theorem lane_lane (value : BitVec size) (parts : Nat) {index part : Nat} (inside : part < parts) :
    lane width (lane (width * parts) value index) part =
      lane width value (parts * index + part) := by
  apply BitVec.eq_of_getLsbD_eq
  intro bit small
  have below : width * part + bit < width * parts := by
    calc width * part + bit < width * part + width := by omega
      _ = width * (part + 1) := by rw [Nat.mul_succ]
      _ ≤ width * parts := Nat.mul_le_mul_left _ inside
  rw [getLsbD_lane, getLsbD_lane, getLsbD_lane, Nat.mul_add, ← Nat.mul_assoc, Nat.add_assoc]
  simp [below]

@[simp]
theorem lane_and (first second : BitVec size) (index : Nat) :
    lane width (first &&& second) index = lane width first index &&& lane width second index :=
  BitVec.extractLsb'_and

@[simp]
theorem lane_or (first second : BitVec size) (index : Nat) :
    lane width (first ||| second) index = lane width first index ||| lane width second index :=
  BitVec.extractLsb'_or

@[simp]
theorem lane_xor (first second : BitVec size) (index : Nat) :
    lane width (first ^^^ second) index = lane width first index ^^^ lane width second index :=
  BitVec.extractLsb'_xor

theorem lane_not (value : BitVec size) {index : Nat} (inside : width * index + width ≤ size) :
    lane width (~~~value) index = ~~~lane width value index := by
  apply BitVec.eq_of_getLsbD_eq
  intro bit small
  rw [getLsbD_lane, BitVec.getLsbD_not, BitVec.getLsbD_not, getLsbD_lane]
  have whole : width * index + bit < size := by omega
  simp [small, whole]

/-- The lowest lane is what is left modulo its range. -/
theorem toNat_lane (value : BitVec size) (index : Nat) :
    (lane width value index).toNat = value.toNat / 2 ^ (width * index) % 2 ^ width := by
  rw [lane, BitVec.extractLsb'_toNat, Nat.shiftRight_eq_div_pow]

/-- Without a common bit, exclusive or adds. -/
theorem xor_eq_add (x y : BitVec width) (disjoint : x &&& y = 0) : x ^^^ y = x + y := by
  rw [BitVec.add_eq_or_of_and_eq_zero x y disjoint]
  ext bit inside
  have both : (x &&& y)[bit] = false := by
    rw [disjoint]
    exact BitVec.getElem_zero inside
  simp only [BitVec.getElem_and] at both
  rw [BitVec.getElem_xor, BitVec.getElem_or]
  cases first : x[bit] <;> cases second : y[bit] <;> simp_all

theorem and_intMin (x : BitVec width) (positive : x.msb = false) :
    x &&& BitVec.intMin width = 0 := by
  apply BitVec.eq_of_getLsbD_eq
  intro bit inside
  rw [BitVec.getLsbD_and, BitVec.getLsbD_intMin]
  by_cases top : bit + 1 = width
  · have last : bit = width - 1 := by omega
    rw [BitVec.msb_eq_getLsbD_last, ← last] at positive
    simp [positive]
  · simp [top]

/-- Flipping the sign adds half the range. -/
theorem xor_intMin (x : BitVec width) :
    (x ^^^ BitVec.intMin width) = x + BitVec.intMin width := by
  by_cases sign : x.msb = false
  · exact xor_eq_add x _ (and_intMin x sign)
  · have flipped : (x ^^^ BitVec.intMin width).msb = false := by
      have wide : 0 < width := by
        by_contra none
        obtain rfl : width = 0 := by omega
        exact sign (BitVec.msb_zero_length x)
      rw [BitVec.msb_xor, BitVec.msb_intMin]
      simpa [wide] using sign
    have back := xor_eq_add _ _ (and_intMin _ flipped)
    rw [BitVec.xor_assoc, BitVec.xor_self, BitVec.xor_zero] at back
    calc (x ^^^ BitVec.intMin width) =
        (x ^^^ BitVec.intMin width) + BitVec.intMin width - BitVec.intMin width :=
          (BitVec.add_sub_cancel _ _).symm
      _ = x - BitVec.intMin width := by rw [← back]
      _ = x + BitVec.intMin width := by rw [BitVec.sub_eq_add_neg, BitVec.neg_intMin]

/-- A value with its sign flipped counts from the least signed value. -/
theorem toNat_xor_intMin {bits : Nat} (x : BitVec (bits + 1)) :
    ((x ^^^ BitVec.intMin (bits + 1)).toNat : Int) = x.toInt + 2 ^ bits := by
  have bound := x.isLt
  have half : (BitVec.intMin (bits + 1)).toNat = 2 ^ bits :=
    BitVec.toNat_intMin_of_pos (Nat.succ_pos bits)
  have twice : 2 ^ (bits + 1) = 2 * 2 ^ bits := Nat.pow_succ' ..
  rw [xor_intMin, BitVec.toNat_add, half, BitVec.toInt_eq_toNat_cond, twice]
  rw [twice] at bound
  have power : ((2 : Int) ^ bits) = ((2 ^ bits : Nat) : Int) := by simp
  rw [power]
  generalize 2 ^ bits = range at bound
  by_cases positive : x.toNat < range
  · rw [Nat.mod_eq_of_lt (by omega), if_pos (by omega)]
    omega
  · rw [Nat.mod_eq_sub_mod (by omega), Nat.mod_eq_of_lt (by omega), if_neg (by omega)]
    omega

theorem toInt_xor_intMin {bits : Nat} (x : BitVec (bits + 1)) :
    (x ^^^ BitVec.intMin (bits + 1)).toInt = x.toNat - 2 ^ bits := by
  have back := toNat_xor_intMin (x ^^^ BitVec.intMin (bits + 1))
  rw [BitVec.xor_assoc, BitVec.xor_self, BitVec.xor_zero] at back
  omega

end BumpinHost.Lanes
