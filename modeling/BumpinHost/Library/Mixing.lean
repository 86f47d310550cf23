import BumpinHost.Library.ByteMemory

/-!
# Hashes that mix in one item at a time

A hash folds a step over its items.  When no item makes two states the same, nothing that
follows can make up for a difference: inputs that differ in one window only collide exactly
when their windows lead from one state to the same state.  The 32-bit FNV-1a step keeps apart
all windows of up to three bytes.
-/

namespace BumpinHost.Mixing

section Steps

variable {State Item : Type*} {step : State → Item → State}

/-- No item makes two states the same. -/
def Reversible (step : State → Item → State) : Prop :=
  ∀ item, Function.Injective fun state => step state item

/-- No two windows of this length lead from one state to the same state. -/
def Separates (step : State → Item → State) (length : Nat) : Prop :=
  ∀ (state : State) (first second : List Item), first.length = length → second.length = length →
    first.foldl step state = second.foldl step state → first = second

theorem Reversible.foldl (reversible : Reversible step) (items : List Item) {first second : State}
    (same : items.foldl step first = items.foldl step second) : first = second := by
  induction items generalizing first second with
  | nil => exact same
  | cons item rest ih => exact reversible item (ih same)

theorem Separates.pred {length : Nat} (separates : Separates step (length + 1)) (item : Item) :
    Separates step length := by
  intro state first second firstLength secondLength same
  have longer : first ++ [item] = second ++ [item] := by
    apply separates state
    · rw [List.length_append, firstLength, List.length_singleton]
    · rw [List.length_append, secondLength, List.length_singleton]
    · simp only [List.foldl_append, same]
  exact List.append_cancel_right longer

/-- What keeps windows of a length apart keeps shorter ones apart. -/
theorem Separates.of_le {length shorter : Nat} (separates : Separates step length) (item : Item)
    (le : shorter ≤ length) : Separates step shorter := by
  induction le with
  | refl => exact separates
  | step _ ih => exact ih (separates.pred item)

/-- Inputs that differ in one window do not collide. -/
theorem Separates.window {length : Nat} (separates : Separates step length)
    (reversible : Reversible step) {state : State} {before first second after : List Item}
    (firstLength : first.length = length) (secondLength : second.length = length)
    (collide : (before ++ first ++ after).foldl step state =
      (before ++ second ++ after).foldl step state) : first = second := by
  simp only [List.foldl_append] at collide
  exact separates _ first second firstLength secondLength (reversible.foldl after collide)

end Steps

def fnvPrime : Word := 16777619

/-- Mix in one byte. -/
def fnvStep (hash : Word) (byte : Byte) : Word :=
  (hash ^^^ byte.setWidth 32) * fnvPrime

theorem fnvPrime_mul_inverse : fnvPrime * 899433627 = 1 := by decide

theorem mul_fnvPrime_injective : Function.Injective fun word : Word => word * fnvPrime := by
  intro first second same
  have undone : first * fnvPrime * 899433627 = second * fnvPrime * 899433627 :=
    congrArg (· * 899433627) same
  rwa [mul_assoc, mul_assoc, fnvPrime_mul_inverse, mul_one, mul_one] at undone

theorem reversible_fnvStep : Reversible fnvStep := by
  intro byte first second same
  have mixed := mul_fnvPrime_injective same
  have undone := congrArg (· ^^^ byte.setWidth 32) mixed
  simpa only [BitVec.xor_assoc, BitVec.xor_self, BitVec.xor_zero] using undone

/-- A byte changes the lowest eight bits only. -/
theorem xor_byte_div (word : Word) (byte : Byte) :
    (word ^^^ byte.setWidth 32).toNat / 256 = word.toNat / 256 := by
  have upper : (word ^^^ byte.setWidth 32) >>> 8 = word >>> 8 := by
    ext bit inWord
    simp only [BitVec.getElem_ushiftRight, BitVec.getLsbD_xor, BitVec.getLsbD_setWidth]
    simp
  have values := congrArg BitVec.toNat upper
  simpa only [BitVec.toNat_ushiftRight, Nat.shiftRight_eq_div_pow] using values

theorem byte_eq_of_xor_eq {word : Word} {first second : Byte}
    (same : word ^^^ first.setWidth 32 = word ^^^ second.setWidth 32) : first = second := by
  have narrowed := congrArg (fun mixed => (word ^^^ mixed).setWidth 8) same
  simpa [← BitVec.xor_assoc] using narrowed

/-- Differences of up to 255 in the first state and up to 510 in the second do not cancel to
one below 256: that would take a multiple of 2^24 where there is none. -/
theorem noCancellation {d f r k : Int} (dLower : -255 ≤ d) (dUpper : d ≤ 255)
    (fLower : -510 ≤ f) (fUpper : f ≤ 510) (rLower : -255 ≤ r) (rUpper : r ≤ 255)
    (cancels : (d * 16777619 + f) * 16777619 - r = k * 4294967296) : d = 0 ∧ f = 0 := by
  obtain ⟨q, quotient⟩ : ∃ q, 256 * (k - 65536 * d) - 806 * d - f = q := ⟨_, rfl⟩
  have small : 162409 * d + 403 * f - r = 16777216 * q := by
    rw [← quotient]
    omega
  have qLower : -2 ≤ q := by omega
  have qUpper : q ≤ 2 := by omega
  have lower : (16777216 * q - 205785) / 162409 ≤ d := by omega
  have upper : d ≤ (16777216 * q + 205785) / 162409 := by omega
  interval_cases q <;> norm_num at lower upper <;> interval_cases d <;> omega

theorem exists_product (value : Nat) : ∃ low high,
    value * 16777619 % 4294967296 = low ∧ 4294967296 * high + low = value * 16777619 :=
  ⟨_, _, rfl, Nat.div_add_mod _ _⟩

/-- Two values that differ below 256, mixed once more, and then the same above 255. -/
theorem values_eq {x x' y y' : Nat} (small : y < 4294967296) (small' : y' < 4294967296)
    (first : x / 256 = x' / 256)
    (second : y / 256 = x * 16777619 % 4294967296 / 256)
    (second' : y' / 256 = x' * 16777619 % 4294967296 / 256)
    (third : y * 16777619 % 4294967296 / 256 = y' * 16777619 % 4294967296 / 256) :
    x = x' ∧ y = y' := by
  obtain ⟨u, a, uLow, xProduct⟩ := exists_product x
  obtain ⟨u', a', uLow', xProduct'⟩ := exists_product x'
  obtain ⟨z, b, zLow, yProduct⟩ := exists_product y
  obtain ⟨z', b', zLow', yProduct'⟩ := exists_product y'
  rw [uLow] at second
  rw [uLow'] at second'
  rw [zLow, zLow'] at third
  clear uLow uLow' zLow zLow'
  have cancels : (((x : Int) - x') * 16777619 + ((y - u : Int) - (y' - u'))) * 16777619 -
      ((z : Int) - z') = ((a - a' : Int) * 16777619 + (b - b')) * 4294967296 := by
    omega
  have same := noCancellation (by omega) (by omega) (by omega) (by omega) (by omega) (by omega)
    cancels
  omega

theorem toNat_mul_fnvPrime (word : Word) :
    (word * fnvPrime).toNat = word.toNat * 16777619 % 4294967296 := by
  have prime : fnvPrime.toNat = 16777619 := by decide
  rw [BitVec.toNat_mul, prime]

theorem states_eq {x x' y y' : Word} (first : x.toNat / 256 = x'.toNat / 256)
    (second : y.toNat / 256 = (x * fnvPrime).toNat / 256)
    (second' : y'.toNat / 256 = (x' * fnvPrime).toNat / 256)
    (third : (y * fnvPrime).toNat / 256 = (y' * fnvPrime).toNat / 256) : x = x' ∧ y = y' := by
  rw [toNat_mul_fnvPrime] at second second' third
  rw [toNat_mul_fnvPrime] at third
  have same := values_eq y.isLt y'.isLt first second second' third
  exact ⟨BitVec.eq_of_toNat_eq same.1, BitVec.eq_of_toNat_eq same.2⟩

/-- FNV-1a keeps apart all windows of three bytes, whatever the state before them. -/
theorem separates_fnvStep : Separates fnvStep 3 := by
  intro state first second firstLength secondLength same
  obtain ⟨a, b, c, rfl⟩ := List.length_eq_three.mp firstLength
  obtain ⟨a', b', c', rfl⟩ := List.length_eq_three.mp secondLength
  have last := mul_fnvPrime_injective same
  have firstAgree : (state ^^^ a.setWidth 32).toNat / 256 = (state ^^^ a'.setWidth 32).toNat / 256 :=
    (xor_byte_div state a).trans (xor_byte_div state a').symm
  have third := congrArg (fun word : Word => word.toNat / 256) last
  simp only [xor_byte_div] at third
  obtain ⟨sameFirst, sameSecond⟩ :=
    states_eq firstAgree (xor_byte_div _ b) (xor_byte_div _ b') third
  obtain rfl := byte_eq_of_xor_eq sameFirst
  obtain rfl := byte_eq_of_xor_eq sameSecond
  obtain rfl := byte_eq_of_xor_eq last
  rfl

/-- Windows of four bytes may collide. -/
example : ¬ Separates fnvStep 4 := by
  intro separates
  have same := separates 2166136261 [0xCC, 0x24, 0x31, 0xC4] [0xE0, 0x4D, 0x9F, 0xCB] rfl rfl
    (by decide)
  revert same
  decide

end BumpinHost.Mixing
