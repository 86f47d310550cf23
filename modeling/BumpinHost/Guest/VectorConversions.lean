import BumpinHost.Library.BinaryFloat
import BumpinHost.Guest.Intrinsics

/-!
# Conversions between integer and float lanes

The guest converts unsigned integers to floats, and floats to signed integers with saturation.
The host converts signed integers only and has one indefinite result for every float that does
not fit.
-/

namespace BumpinHost.Guest

open Lanes (lane)
open BinaryFloat

/-- A float cut down to an integer. -/
def truncation (x : Single) : Int :=
  (value x).tdiv (2 ^ 149)

/-- What the host makes of a float: the indefinite integer when the cut one does not fit. -/
def hostTruncation (x : Single) : BitVec 32 :=
  if IsFinite x ∧ -2 ^ 31 ≤ truncation x ∧ truncation x < 2 ^ 31 then BitVec.ofInt 32 (truncation x)
  else BitVec.intMin 32

/-- What the guest makes of a float: the nearest bound when the cut one does not fit. -/
def saturatingTruncation (x : Single) : BitVec 32 :=
  if IsNaN x then 0
  else if IsFinite x then BitVec.ofInt 32 (max (-2 ^ 31) (min (2 ^ 31 - 1) (truncation x)))
  else if x.msb then BitVec.intMin 32 else BitVec.intMax 32

/-- The intrinsics on float lanes, under the rounding mode that a process starts with. -/
structure SimdePs extends Simde where
  cvtepi32Ps : Vec → Vec
  cvtepi32Ps_lane : ∀ a index, index < 4 →
    NearestEven ((lane 32 a index).toInt * 2 ^ 149) (lane 32 (cvtepi32Ps a) index)
  cvttpsEpi32 : Vec → Vec
  cvttpsEpi32_lane : Lanewise 32 cvttpsEpi32 hostTruncation
  cmpunordPs : Vec → Vec → Vec
  cmpunordPs_lane : Lanewise₂ 32 cmpunordPs fun a b => laneMask (IsNaN a || IsNaN b)

theorem log2_toInt_lt (x : BitVec 32) : x.toInt.natAbs.log2 < 127 := by
  have low := BitVec.le_toInt x
  have high := @BitVec.toInt_lt 32 x
  by_cases zero : x.toInt.natAbs = 0
  · rw [zero]
    decide
  · exact (Nat.log2_lt zero).2 (by omega)

/-- The intrinsics on float lanes, computed lane by lane. -/
def SimdePs.documented : SimdePs where
  toSimde := .documented
  cvtepi32Ps a := onLanes 32 (fun x => roundInt x.toInt) a
  cvtepi32Ps_lane a index inside := by
    rw [onLanes_lane 32 (fun x => roundInt x.toInt) a index inside]
    exact nearestEven_roundInt (log2_toInt_lt _)
  cvttpsEpi32 := onLanes 32 hostTruncation
  cvttpsEpi32_lane := onLanes_lane 32 hostTruncation
  cmpunordPs := onLanes₂ 32 fun a b => laneMask (IsNaN a || IsNaN b)
  cmpunordPs_lane := onLanes₂_lane _ _

def simdeMmCvtepu32Ps (simde : SimdePs) (src1 : Vec) : Vec :=
  let xmm1 := simde.addEpi32 src1 (simde.set1Epi32 127)
  let xmm0 := simde.slliEpi32 src1 (31 - 8)
  let xmm0 := simde.srliEpi32 xmm0 31
  let xmm0 := simde.addEpi32 xmm0 xmm1
  let xmm0 := simde.sraiEpi32 xmm0 8
  let xmm0 := simde.addEpi32 xmm0 (simde.set1Epi32 0x4F800000)
  let xmm2 := simde.cvtepi32Ps src1
  simde.blendvPs xmm2 xmm0 src1

def simdeMmVctsxs (simde : SimdePs) (src1 : Vec) : Vec :=
  let xmm2 := simde.cmpunordPs src1 src1
  let xmm0 := simde.cvttpsEpi32 src1
  let xmm1 := simde.cmpeqEpi32 xmm0 (simde.set1Epi32 (BitVec.intMin 32))
  let xmm1 := simde.andnotSi128 src1 xmm1
  let dest := simde.blendvPs xmm0 (simde.set1Epi32 (BitVec.intMax 32)) xmm1
  simde.andnotSi128 xmm2 dest

theorem not_laneMask_and {width : Nat} (holds : Bool) (x : BitVec width) :
    ~~~laneMask holds &&& x = if holds then 0 else x := by
  cases holds with
  | true => rw [laneMask, if_pos rfl, BitVec.not_allOnes, BitVec.zero_and, if_pos rfl]; rfl
  | false => rw [laneMask, if_neg (by decide), if_neg (by decide), BitVec.ofNat_eq_ofNat,
      BitVec.not_zero, BitVec.allOnes_and]

theorem msb_not_and_laneMask {bits : Nat} (holds : Bool) (x : BitVec (bits + 1)) :
    (~~~x &&& laneMask holds).msb = (holds && !x.msb) := by
  rw [BitVec.msb_and, BitVec.msb_not]
  cases holds <;> simp [laneMask, BitVec.msb_allOnes]

/-- The bits of a large unsigned integer's float. -/
def largeBits (x : BitVec 32) : BitVec 32 :=
  ((x <<< 23) >>> 31 + (x + 127)).sshiftRight 8 + 0x4F800000

/-- The lowest 8 bits are rounded away, half a unit to the even neighbour. -/
theorem toNat_largeBits {x : BitVec 32} (large : x.msb = true) :
    (largeBits x).toNat = 157 * 2 ^ 23 + (x.toNat + 127 + x.toNat / 256 % 2) / 256 := by
  have bound := x.isLt
  rw [BitVec.msb_eq_decide, decide_eq_true_eq] at large
  change 2 ^ 31 ≤ x.toNat at large
  have parity : ((x <<< 23) >>> 31).toNat = x.toNat / 256 % 2 := by
    rw [BitVec.toNat_ushiftRight, BitVec.toNat_shiftLeft, Nat.shiftLeft_eq,
      Nat.shiftRight_eq_div_pow]
    omega
  have sum : ((x <<< 23) >>> 31 + (x + 127)).toNat =
      (x.toNat + 127 + x.toNat / 256 % 2) % 2 ^ 32 := by
    rw [BitVec.toNat_add, parity, BitVec.toNat_add, show (127 : BitVec 32).toNat = 127 from rfl]
    omega
  have bias : (0x4F800000 : BitVec 32).toNat = 0x4F800000 := by decide
  rw [largeBits]
  generalize (x <<< 23) >>> 31 + (x + 127) = total at sum
  have bits := total.isLt
  have isBit : x.toNat / 256 % 2 < 2 := Nat.mod_lt _ (by decide)
  generalize x.toNat / 256 % 2 = round at *
  cases sign : total.msb with
  | true =>
      rw [BitVec.sshiftRight_eq_of_msb_true sign, BitVec.toNat_add, BitVec.toNat_not, BitVec.toNat_ushiftRight, BitVec.toNat_not,
        Nat.shiftRight_eq_div_pow, bias]
      rw [BitVec.msb_eq_decide, decide_eq_true_eq] at sign
      change 2 ^ 31 ≤ total.toNat at sign
      have whole : x.toNat + 127 + round = total.toNat := by omega
      rw [whole]
      omega
  | false =>
      rw [BitVec.sshiftRight_eq_of_msb_false sign, BitVec.toNat_add, BitVec.toNat_ushiftRight,
        Nat.shiftRight_eq_div_pow, bias]
      rw [BitVec.msb_eq_decide, decide_eq_false_iff_not] at sign
      change ¬2 ^ 31 ≤ total.toNat at sign
      have wrapped : x.toNat + 127 + round = 2 ^ 32 + total.toNat := by omega
      rw [wrapped]
      omega

theorem nearestEven_largeBits {x : BitVec 32} (large : x.msb = true) :
    NearestEven (x.toNat * 2 ^ 149 : Nat) (largeBits x) := by
  have bound := x.isLt
  have bits := toNat_largeBits large
  rw [BitVec.msb_eq_decide, decide_eq_true_eq] at large
  change 2 ^ 31 ≤ x.toNat at large
  have packed : largeBits x = BitVec.ofNat 32
      (157 * 2 ^ 23 + x.toNat / 256 + (x.toNat % 256 + 127 + x.toNat / 256 % 2) / 256) := by
    apply BitVec.eq_of_toNat_eq
    rw [bits, BitVec.toNat_ofNat]
    omega
  have parts : x.toNat * 2 ^ 149 = x.toNat / 256 * 2 ^ 157 + x.toNat % 256 * 2 ^ 149 := by omega
  rw [parts, packed]
  exact nearestEven_pack (by omega) (by omega) (by decide) (by omega) (by omega)

section Lanes

variable (simde : SimdePs) (a : Vec) {index : Nat}

/-- Every unsigned integer becomes the float nearest to it. -/
theorem nearestEven_simdeMmCvtepu32Ps (inside : index < 4) :
    NearestEven ((lane 32 a index).toNat * 2 ^ 149 : Nat)
      (lane 32 (simdeMmCvtepu32Ps simde a) index) := by
  unfold simdeMmCvtepu32Ps
  dsimp only
  rw [simde.blendvPs_lane _ _ _ _ inside]
  split
  case isTrue large =>
      rw [simde.addEpi32_lane _ _ _ inside, simde.sraiEpi32_lane _ _ _ inside,
        simde.addEpi32_lane _ _ _ inside, simde.srliEpi32_lane _ _ _ inside,
        simde.slliEpi32_lane _ _ _ inside, simde.addEpi32_lane _ _ _ inside,
        simde.set1Epi32_lane _ _ inside, simde.set1Epi32_lane _ _ inside]
      exact nearestEven_largeBits large
  case isFalse small =>
      have signed : (lane 32 a index).toInt = (lane 32 a index).toNat := by
        rw [BitVec.toInt_eq_msb_cond, if_neg small]
      have nearest := simde.cvtepi32Ps_lane a index inside
      rwa [signed] at nearest

end Lanes

theorem truncation_nonneg {x : Single} (positive : x.msb = false) : 0 ≤ truncation x := by
  rw [truncation, value, positive, if_neg (by decide)]
  exact Int.tdiv_nonneg (Int.natCast_nonneg _) (by decide)

theorem truncation_nonpos {x : Single} (negative : x.msb = true) : truncation x ≤ 0 := by
  rw [truncation, value, if_pos negative, Int.neg_tdiv]
  exact neg_nonpos.2 (Int.tdiv_nonneg (Int.natCast_nonneg _) (by decide))

/-- One lane of the saturating conversion. -/
def vctsxsLane (x : Single) : BitVec 32 :=
  if IsNaN x then 0
  else if hostTruncation x = BitVec.intMin 32 ∧ x.msb = false then BitVec.intMax 32
  else hostTruncation x

theorem ofInt_ne_intMin {t : Int} (nonneg : 0 ≤ t) (fits : t < 2 ^ 31) :
    BitVec.ofInt 32 t ≠ BitVec.intMin 32 := by
  intro same
  have signed := congrArg BitVec.toInt same
  rw [BitVec.toInt_ofInt_eq_self (by decide) (by omega) fits] at signed
  have least : (BitVec.intMin 32).toInt = -2 ^ 31 := by decide
  omega

/-- What does not fit is beyond the bound on its side of zero. -/
theorem saturatingTruncation_beyond {x : Single} (isNumber : ¬IsNaN x)
    (beyond : ¬(IsFinite x ∧ -2 ^ 31 ≤ truncation x ∧ truncation x < 2 ^ 31)) :
    saturatingTruncation x = if x.msb then BitVec.intMin 32 else BitVec.intMax 32 := by
  rw [saturatingTruncation, if_neg isNumber]
  by_cases finite : IsFinite x
  · have outside : ¬(-2 ^ 31 ≤ truncation x ∧ truncation x < 2 ^ 31) :=
      fun fits => beyond ⟨finite, fits⟩
    rw [if_pos finite]
    cases sign : x.msb with
    | true =>
        have side := truncation_nonpos sign
        have bound : max (-2 ^ 31) (min (2 ^ 31 - 1) (truncation x)) = -2 ^ 31 := by omega
        rw [bound]
        decide
    | false =>
        have side := truncation_nonneg sign
        have bound : max (-2 ^ 31) (min (2 ^ 31 - 1) (truncation x)) = 2 ^ 31 - 1 := by omega
        rw [bound]
        decide
  · rw [if_neg finite]

theorem vctsxsLane_eq (x : Single) : vctsxsLane x = saturatingTruncation x := by
  by_cases isNaN : IsNaN x
  · rw [vctsxsLane, saturatingTruncation, if_pos isNaN, if_pos isNaN]
  · rw [vctsxsLane, if_neg isNaN, hostTruncation]
    by_cases fits : IsFinite x ∧ -2 ^ 31 ≤ truncation x ∧ truncation x < 2 ^ 31
    · have inside : max (-2 ^ 31) (min (2 ^ 31 - 1) (truncation x)) = truncation x := by omega
      rw [if_pos fits, saturatingTruncation, if_neg isNaN, if_pos fits.1, inside, if_neg]
      rintro ⟨least, positive⟩
      exact ofInt_ne_intMin (truncation_nonneg positive) fits.2.2 least
    · rw [if_neg fits, saturatingTruncation_beyond isNaN fits]
      cases x.msb <;> simp

section Lanes

variable (simde : SimdePs) (a : Vec) {index : Nat}

theorem lane_simdeMmVctsxs (inside : index < 4) :
    lane 32 (simdeMmVctsxs simde a) index = saturatingTruncation (lane 32 a index) := by
  rw [← vctsxsLane_eq]
  unfold simdeMmVctsxs
  dsimp only
  rw [simde.andnotSi128_eq, Lanes.lane_and, simde.blendvPs_lane _ _ _ _ inside,
    simde.andnotSi128_eq, Lanes.lane_and, simde.cmpeqEpi32_lane _ _ _ inside,
    simde.set1Epi32_lane _ _ inside, simde.set1Epi32_lane _ _ inside,
    simde.cvttpsEpi32_lane _ _ inside, Lanes.lane_not _ (by omega), Lanes.lane_not _ (by omega),
    simde.cmpunordPs_lane _ _ _ inside]
  generalize lane 32 a index = x
  rw [not_laneMask_and, msb_not_and_laneMask, vctsxsLane]
  simp only [Bool.or_self, decide_eq_true_eq, Bool.and_eq_true, beq_iff_eq, Bool.not_eq_true']

end Lanes

/-- Under the rounding mode that a process starts with, an unsigned integer becomes the nearest
float, a tie going to the even one, and a float the integer it cuts down to: the nearest bound
when that does not fit, and 0 when it is no number. -/
theorem vectorConversions_exact (simde : SimdePs) (a : Vec) (index : Fin 4) :
    NearestEven ((lane 32 a index).toNat * 2 ^ 149 : Nat)
        (lane 32 (simdeMmCvtepu32Ps simde a) index) ∧
      lane 32 (simdeMmVctsxs simde a) index = saturatingTruncation (lane 32 a index) :=
  ⟨nearestEven_simdeMmCvtepu32Ps simde a index.isLt, lane_simdeMmVctsxs simde a index.isLt⟩

theorem vectorConversions_exact_tie :
    NearestEven (((0x80000180 : Vec).extractLsb' 0 32).toNat * 2 ^ 149 : Nat)
      (lane 32 (simdeMmCvtepu32Ps .documented 0x80000180) 0) :=
  (vectorConversions_exact .documented 0x80000180 0).1

end BumpinHost.Guest
