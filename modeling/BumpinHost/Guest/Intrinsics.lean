import BumpinHost.Library.Lanes

/-!
# Vector intrinsics

The vector helpers of the guest context are made of intrinsics of another library.  Each
comes with what its documentation says of its lanes.  Casts between integer and float
vectors keep all bits, so both are 128-bit values.
-/

namespace BumpinHost.Guest

open Lanes (lane ofLanes lane_ofLanes)

abbrev Vec := BitVec 128

/-- An operation on each lane of a vector. -/
def Lanewise (width : Nat) (op : Vec → Vec) (f : BitVec width → BitVec width) : Prop :=
  ∀ a index, index < 128 / width → lane width (op a) index = f (lane width a index)

/-- An operation on the lanes of two vectors. -/
def Lanewise₂ (width : Nat) (op : Vec → Vec → Vec)
    (f : BitVec width → BitVec width → BitVec width) : Prop :=
  ∀ a b index, index < 128 / width →
    lane width (op a b) index = f (lane width a index) (lane width b index)

/-- All bits of a lane, where a comparison holds. -/
def laneMask {width : Nat} (holds : Bool) : BitVec width :=
  if holds then BitVec.allOnes width else 0

/-- The rounded mean of unsigned values. -/
def unsignedAverage {width : Nat} (a b : BitVec width) : BitVec width :=
  BitVec.ofNat width ((a.toNat + b.toNat + 1) / 2)

/-- The intrinsics on integer lanes and their documented effect. -/
structure Simde where
  andSi128 : Vec → Vec → Vec
  andnotSi128 : Vec → Vec → Vec
  xorSi128 : Vec → Vec → Vec
  andSi128_eq : ∀ a b, andSi128 a b = a &&& b
  andnotSi128_eq : ∀ a b, andnotSi128 a b = ~~~a &&& b
  xorSi128_eq : ∀ a b, xorSi128 a b = a ^^^ b
  set1Epi8 : BitVec 8 → Vec
  set1Epi16 : BitVec 16 → Vec
  set1Epi32 : BitVec 32 → Vec
  set1Epi8_lane : ∀ value index, index < 16 → lane 8 (set1Epi8 value) index = value
  set1Epi16_lane : ∀ value index, index < 8 → lane 16 (set1Epi16 value) index = value
  set1Epi32_lane : ∀ value index, index < 4 → lane 32 (set1Epi32 value) index = value
  addEpi32 : Vec → Vec → Vec
  subEpi8 : Vec → Vec → Vec
  minEpu32 : Vec → Vec → Vec
  avgEpu8 : Vec → Vec → Vec
  avgEpu16 : Vec → Vec → Vec
  addEpi32_lane : Lanewise₂ 32 addEpi32 (· + ·)
  subEpi8_lane : Lanewise₂ 8 subEpi8 (· - ·)
  minEpu32_lane : Lanewise₂ 32 minEpu32 fun a b => if a ≤ b then a else b
  avgEpu8_lane : Lanewise₂ 8 avgEpu8 unsignedAverage
  avgEpu16_lane : Lanewise₂ 16 avgEpu16 unsignedAverage
  cmpeqEpi32 : Vec → Vec → Vec
  cmpgtEpi8 : Vec → Vec → Vec
  cmpgtEpi16 : Vec → Vec → Vec
  cmpeqEpi32_lane : Lanewise₂ 32 cmpeqEpi32 fun a b => laneMask (a == b)
  cmpgtEpi8_lane : Lanewise₂ 8 cmpgtEpi8 fun a b => laneMask (b.slt a)
  cmpgtEpi16_lane : Lanewise₂ 16 cmpgtEpi16 fun a b => laneMask (b.slt a)
  slliEpi32 : Vec → Nat → Vec
  srliEpi32 : Vec → Nat → Vec
  sraiEpi32 : Vec → Nat → Vec
  slliEpi64 : Vec → Nat → Vec
  srliEpi64 : Vec → Nat → Vec
  slliEpi32_lane : ∀ count, Lanewise 32 (slliEpi32 · count) (· <<< count)
  srliEpi32_lane : ∀ count, Lanewise 32 (srliEpi32 · count) (· >>> count)
  sraiEpi32_lane : ∀ count, Lanewise 32 (sraiEpi32 · count) (·.sshiftRight count)
  slliEpi64_lane : ∀ count, Lanewise 64 (slliEpi64 · count) (· <<< count)
  srliEpi64_lane : ∀ count, Lanewise 64 (srliEpi64 · count) (· >>> count)
  /-- The count is the lower half of the second vector. -/
  srlEpi64 : Vec → Vec → Vec
  srlEpi64_lane : ∀ count, Lanewise 64 (srlEpi64 · count) (· >>> (lane 64 count 0).toNat)
  /-- The count is in bytes. -/
  srliSi128 : Vec → Nat → Vec
  srliSi128_eq : ∀ a count, srliSi128 a count = a >>> (8 * count)
  /-- The bytes that a mask selects; a byte of the mask with its highest bit set gives zero. -/
  shuffleEpi8 : Vec → Vec → Vec
  shuffleEpi8_lane : ∀ a mask index, index < 16 → lane 8 (shuffleEpi8 a mask) index =
    if (lane 8 mask index).msb then 0 else lane 8 a ((lane 8 mask index).toNat % 16)
  /-- The second vector's lane where the highest bit of the mask's is set. -/
  blendvEpi8 : Vec → Vec → Vec → Vec
  blendvPs : Vec → Vec → Vec → Vec
  blendvEpi8_lane : ∀ a b mask index, index < 16 → lane 8 (blendvEpi8 a b mask) index =
    if (lane 8 mask index).msb then lane 8 b index else lane 8 a index
  blendvPs_lane : ∀ a b mask index, index < 4 → lane 32 (blendvPs a b mask) index =
    if (lane 32 mask index).msb then lane 32 b index else lane 32 a index
  /-- Bits 6 and 7 of the control select a lane of the second vector, bits 4 and 5 the lane
  that it replaces, and bits 0 to 3 the lanes that are cleared. -/
  insertPs : Vec → Vec → Nat → Vec
  insertPs_lane : ∀ a b control index, index < 4 → lane 32 (insertPs a b control) index =
    if control.testBit index then 0
    else if index = control / 16 % 4 then lane 32 b (control / 64 % 4) else lane 32 a index

def onLanes (width : Nat) (f : BitVec width → BitVec width) (a : Vec) : Vec :=
  ofLanes (fun index => f (lane width a index)) (128 / width)

def onLanes₂ (width : Nat) (f : BitVec width → BitVec width → BitVec width) (a b : Vec) : Vec :=
  ofLanes (fun index => f (lane width a index) (lane width b index)) (128 / width)

theorem onLanes_lane (width : Nat) (f : BitVec width → BitVec width) :
    Lanewise width (onLanes width f) f :=
  fun a _ inside => lane_ofLanes (fun index => f (lane width a index)) inside (Nat.mul_div_le ..)

theorem onLanes₂_lane (width : Nat) (f : BitVec width → BitVec width → BitVec width) :
    Lanewise₂ width (onLanes₂ width f) f :=
  fun a b _ inside =>
    lane_ofLanes (fun index => f (lane width a index) (lane width b index)) inside
      (Nat.mul_div_le ..)

/-- The intrinsics, computed lane by lane. -/
def Simde.documented : Simde where
  andSi128 a b := a &&& b
  andnotSi128 a b := ~~~a &&& b
  xorSi128 a b := a ^^^ b
  andSi128_eq _ _ := rfl
  andnotSi128_eq _ _ := rfl
  xorSi128_eq _ _ := rfl
  set1Epi8 value := ofLanes (fun _ => value) 16
  set1Epi16 value := ofLanes (fun _ => value) 8
  set1Epi32 value := ofLanes (fun _ => value) 4
  set1Epi8_lane value _ inside := lane_ofLanes (fun _ => value) inside (by decide)
  set1Epi16_lane value _ inside := lane_ofLanes (fun _ => value) inside (by decide)
  set1Epi32_lane value _ inside := lane_ofLanes (fun _ => value) inside (by decide)
  addEpi32 := onLanes₂ 32 (· + ·)
  subEpi8 := onLanes₂ 8 (· - ·)
  minEpu32 := onLanes₂ 32 fun a b => if a ≤ b then a else b
  avgEpu8 := onLanes₂ 8 unsignedAverage
  avgEpu16 := onLanes₂ 16 unsignedAverage
  addEpi32_lane := onLanes₂_lane _ _
  subEpi8_lane := onLanes₂_lane _ _
  minEpu32_lane := onLanes₂_lane _ _
  avgEpu8_lane := onLanes₂_lane _ _
  avgEpu16_lane := onLanes₂_lane _ _
  cmpeqEpi32 := onLanes₂ 32 fun a b => laneMask (a == b)
  cmpgtEpi8 := onLanes₂ 8 fun a b => laneMask (b.slt a)
  cmpgtEpi16 := onLanes₂ 16 fun a b => laneMask (b.slt a)
  cmpeqEpi32_lane := onLanes₂_lane _ _
  cmpgtEpi8_lane := onLanes₂_lane _ _
  cmpgtEpi16_lane := onLanes₂_lane _ _
  slliEpi32 a count := onLanes 32 (· <<< count) a
  srliEpi32 a count := onLanes 32 (· >>> count) a
  sraiEpi32 a count := onLanes 32 (·.sshiftRight count) a
  slliEpi64 a count := onLanes 64 (· <<< count) a
  srliEpi64 a count := onLanes 64 (· >>> count) a
  slliEpi32_lane count := onLanes_lane 32 (· <<< count)
  srliEpi32_lane count := onLanes_lane 32 (· >>> count)
  sraiEpi32_lane count := onLanes_lane 32 (·.sshiftRight count)
  slliEpi64_lane count := onLanes_lane 64 (· <<< count)
  srliEpi64_lane count := onLanes_lane 64 (· >>> count)
  srlEpi64 a count := onLanes 64 (· >>> (lane 64 count 0).toNat) a
  srlEpi64_lane count := onLanes_lane 64 (· >>> (lane 64 count 0).toNat)
  srliSi128 a count := a >>> (8 * count)
  srliSi128_eq _ _ := rfl
  shuffleEpi8 a mask := ofLanes (fun index =>
    if (lane 8 mask index).msb then 0 else lane 8 a ((lane 8 mask index).toNat % 16)) 16
  shuffleEpi8_lane _ _ _ inside := lane_ofLanes _ inside (by decide)
  blendvEpi8 a b mask := ofLanes (fun index =>
    if (lane 8 mask index).msb then lane 8 b index else lane 8 a index) 16
  blendvPs a b mask := ofLanes (fun index =>
    if (lane 32 mask index).msb then lane 32 b index else lane 32 a index) 4
  blendvEpi8_lane _ _ _ _ inside := lane_ofLanes _ inside (by decide)
  blendvPs_lane _ _ _ _ inside := lane_ofLanes _ inside (by decide)
  insertPs a b control := ofLanes (fun index =>
    if control.testBit index then 0
    else if index = control / 16 % 4 then lane 32 b (control / 64 % 4) else lane 32 a index) 4
  insertPs_lane _ _ _ _ inside := lane_ofLanes _ inside (by decide)

end BumpinHost.Guest
