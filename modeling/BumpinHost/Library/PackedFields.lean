import BumpinHost.Library.BitFields

/-!
# Packed fields

Fields of known widths stand next to each other, the first one lowest.  Each is read back by
its position, whatever the others hold, and a number cut into words is read across their
borders.
-/

namespace BumpinHost.PackedFields

/-- A width and a value that fits it. -/
structure Field where
  width : Nat
  value : BitVec width

def pack : List Field → Nat
  | [] => 0
  | field :: rest => field.value.toNat + 2 ^ field.width * pack rest

def totalWidth (fields : List Field) : Nat :=
  (fields.map Field.width).sum

theorem pack_lt (fields : List Field) : pack fields < 2 ^ totalWidth fields := by
  induction fields with
  | nil => exact Nat.one_pos
  | cons field rest ih =>
      have bound := field.value.isLt
      calc pack (field :: rest) < 2 ^ field.width + 2 ^ field.width * pack rest :=
            Nat.add_lt_add_right bound _
        _ = 2 ^ field.width * (pack rest + 1) := by rw [Nat.mul_succ, Nat.add_comm]
        _ ≤ 2 ^ field.width * 2 ^ totalWidth rest := Nat.mul_le_mul_left _ ih
        _ = 2 ^ totalWidth (field :: rest) := by
            rw [← Nat.pow_add]
            rfl

/-- What stands from a position on. -/
theorem pack_div (before after : List Field) :
    pack (before ++ after) / 2 ^ totalWidth before = pack after := by
  induction before with
  | nil => exact Nat.div_one _
  | cons field before ih =>
      have wide : 2 ^ totalWidth (field :: before) = 2 ^ field.width * 2 ^ totalWidth before := by
        rw [← Nat.pow_add]
        rfl
      rw [wide, ← Nat.div_div_eq_div_mul, List.cons_append, pack,
        Nat.add_mul_div_left _ _ (Nat.two_pow_pos _), Nat.div_eq_of_lt field.value.isLt,
        Nat.zero_add, ih]

/-- Each field is at its position. -/
theorem pack_field (before : List Field) (field : Field) (after : List Field) :
    pack (before ++ field :: after) / 2 ^ totalWidth before % 2 ^ field.width =
      field.value.toNat := by
  rw [pack_div, pack, Nat.add_mul_mod_self_left, Nat.mod_eq_of_lt field.value.isLt]

section Words

variable {fields before after : List Field} {shift width : Nat} {mask : Word}

/-- A field of a word that is read by shift and mask. -/
theorem field_of_pack {value : BitVec width} (place : fields = before ++ ⟨width, value⟩ :: after)
    (whole : totalWidth fields = 32) (position : totalWidth before = shift)
    (masks : mask = BitVec.ofNat 32 (2 ^ width - 1)) :
    (BitVec.ofNat 32 (pack fields) >>> shift) &&& mask = value.setWidth 32 := by
  have bound := pack_lt fields
  rw [whole] at bound
  have narrow : width ≤ 32 := by
    rw [← whole, place, totalWidth, List.map_append, List.sum_append, List.map_cons,
      List.sum_cons]
    exact le_add_left (Nat.le_add_right _ _)
  have power : 2 ^ width ≤ 2 ^ 32 := Nat.pow_le_pow_right (by decide) narrow
  apply BitVec.eq_of_toNat_eq
  rw [masks, BitFields.toNat_field _ _ _ power, BitVec.toNat_ofNat, Nat.mod_eq_of_lt bound,
    place, ← position, pack_field before ⟨width, value⟩ after, BitVec.toNat_setWidth,
    Nat.mod_eq_of_lt (value.isLt.trans_le power)]

/-- The lowest field of a word, which is read without a shift. -/
theorem lowField_of_pack {value : BitVec width} (place : fields = ⟨width, value⟩ :: after)
    (whole : totalWidth fields = 32) (masks : mask = BitVec.ofNat 32 (2 ^ width - 1)) :
    BitVec.ofNat 32 (pack fields) &&& mask = value.setWidth 32 := by
  have first : fields = [] ++ ⟨width, value⟩ :: after := place
  have position : totalWidth [] = 0 := rfl
  have field := field_of_pack first whole position masks
  rwa [BitVec.ushiftRight_zero] at field

/-- A flag of a word. -/
theorem flag_of_pack {flag : Bool} (place : fields = before ++ ⟨1, .ofBool flag⟩ :: after)
    (whole : totalWidth fields = 32) (position : totalWidth before = shift) :
    (((BitVec.ofNat 32 (pack fields) >>> shift) &&& 0x1) != 0) = flag := by
  have masks : (0x1 : Word) = BitVec.ofNat 32 (2 ^ 1 - 1) := rfl
  rw [field_of_pack place whole position masks]
  cases flag <;> rfl

end Words

/-- Word `index` of a number. -/
def wordOf (number index : Nat) : Word :=
  BitVec.ofNat 32 (number / 2 ^ (32 * index))

theorem toNat_wordOf (number index : Nat) :
    (wordOf number index).toNat = number / 2 ^ (32 * index) % 2 ^ 32 :=
  BitVec.toNat_ofNat ..

theorem getLsbD_wordOf (number index bit : Nat) :
    (wordOf number index).getLsbD bit = (decide (bit < 32) && number.testBit (32 * index + bit)) := by
  rw [wordOf, BitVec.getLsbD_ofNat, Nat.testBit_div_two_pow, Nat.add_comm bit]

/-- The half words on both sides of a border. -/
theorem straddle (number index : Nat) :
    (wordOf number index >>> 16) ||| (wordOf number (index + 1) <<< 16) =
      BitVec.ofNat 32 (number / 2 ^ (32 * index + 16)) := by
  apply BitVec.eq_of_getLsbD_eq
  intro bit inside
  rw [BitVec.getLsbD_or, BitVec.getLsbD_ushiftRight, BitVec.getLsbD_shiftLeft, getLsbD_wordOf,
    getLsbD_wordOf, BitVec.getLsbD_ofNat, Nat.testBit_div_two_pow]
  by_cases low : bit < 16
  · have first : 32 * index + (16 + bit) = bit + (32 * index + 16) := by omega
    have present : 16 + bit < 32 := by omega
    simp [low, inside, first, present]
  · have second : 32 * (index + 1) + (bit - 16) = bit + (32 * index + 16) := by omega
    have absent : ¬16 + bit < 32 := by omega
    have present : bit - 16 < 32 := by omega
    simp only [absent, low, inside, second, present, decide_false, decide_true, Bool.false_and,
      Bool.not_false, Bool.true_and, Bool.false_or]

theorem pack_append (before after : List Field) :
    pack (before ++ after) = pack before + 2 ^ totalWidth before * pack after := by
  induction before with
  | nil => rw [List.nil_append, pack, totalWidth, List.map_nil, List.sum_nil, Nat.pow_zero,
      Nat.one_mul, Nat.zero_add]
  | cons field before ih =>
      have wide : 2 ^ totalWidth (field :: before) = 2 ^ field.width * 2 ^ totalWidth before := by
        rw [← Nat.pow_add]
        rfl
      rw [List.cons_append, pack, ih, pack, wide, Nat.mul_add, Nat.mul_assoc, Nat.add_assoc]

end BumpinHost.PackedFields
