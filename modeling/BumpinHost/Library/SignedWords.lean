import Mathlib.Data.BitVec

/-!
# Signed words that may overflow

An operation on signed words has a result when its mathematical value is that of some
word.  Otherwise it overflows, and nothing is said about what happens.
-/

namespace BumpinHost.SignedWords

variable {width : Nat}

/-- The word of a value, if it has one. -/
def represent (width : Nat) (value : Int) : Option (BitVec width) :=
  if (BitVec.ofInt width value).toInt = value then some (BitVec.ofInt width value) else none

def negate (word : BitVec width) : Option (BitVec width) :=
  represent width (-word.toInt)

def multiply (first second : BitVec width) : Option (BitVec width) :=
  represent width (first.toInt * second.toInt)

def add (first second : BitVec width) : Option (BitVec width) :=
  represent width (first.toInt + second.toInt)

/-- The quotient rounded towards zero. -/
def divide (dividend divisor : BitVec width) : Option (BitVec width) :=
  if divisor.toInt = 0 then none else represent width (dividend.toInt.tdiv divisor.toInt)

@[simp]
theorem represent_eq_some_iff {value : Int} {word : BitVec width} :
    represent width value = some word ↔ word.toInt = value := by
  unfold represent
  constructor
  · intro represented
    split at represented
    case isTrue same =>
        obtain rfl := Option.some.inj represented
        exact same
    case isFalse => cases represented
  · rintro rfl
    rw [BitVec.ofInt_toInt, if_pos rfl]

/-- The values of signed words. -/
theorem represent_isSome_iff (positive : 0 < width) (value : Int) :
    (represent width value).isSome ↔
      -2 ^ (width - 1) ≤ value ∧ value < 2 ^ (width - 1) := by
  constructor
  · intro represented
    obtain ⟨word, found⟩ := Option.isSome_iff_exists.mp represented
    rw [← represent_eq_some_iff.mp found]
    exact ⟨BitVec.le_toInt word, BitVec.toInt_lt⟩
  · rintro ⟨lower, upper⟩
    unfold represent
    rw [if_pos (BitVec.toInt_ofInt_eq_self positive lower upper)]
    rfl

/-- Only the least value has no negative. -/
theorem negate_isSome_iff (positive : 0 < width) (word : BitVec width) :
    (negate word).isSome ↔ word.toInt ≠ -2 ^ (width - 1) := by
  have lower := BitVec.le_toInt word
  have upper := @BitVec.toInt_lt width word
  rw [negate, represent_isSome_iff positive]
  omega

theorem negate_eq_some_iff {word negated : BitVec width} :
    negate word = some negated ↔ negated.toInt = -word.toInt :=
  represent_eq_some_iff

/-- A division by a positive word of one that is not negative does not overflow, and
rounds down. -/
theorem divide_of_nonneg {dividend divisor : BitVec width} (nonneg : 0 ≤ dividend.toInt)
    (divides : 0 < divisor.toInt) :
    ∃ quotient, divide dividend divisor = some quotient ∧
      quotient.toInt = dividend.toInt / divisor.toInt := by
  have positive : 0 < width := by
    apply Nat.pos_of_ne_zero
    rintro rfl
    rw [BitVec.toInt_zero_length] at divides
    exact absurd divides (lt_irrefl 0)
  have upper := @BitVec.toInt_lt width dividend
  have lower : (0 : Int) < 2 ^ (width - 1) := Int.pow_pos (by decide)
  have smaller := Int.ediv_le_self divisor.toInt nonneg
  have notNegative := Int.ediv_nonneg nonneg divides.le
  have representable := (represent_isSome_iff positive
    (dividend.toInt / divisor.toInt)).mpr ⟨by omega, by omega⟩
  obtain ⟨quotient, found⟩ := Option.isSome_iff_exists.mp representable
  refine ⟨quotient, ?_, represent_eq_some_iff.mp found⟩
  rw [divide, if_neg divides.ne', Int.tdiv_eq_ediv_of_nonneg nonneg, found]

end BumpinHost.SignedWords
