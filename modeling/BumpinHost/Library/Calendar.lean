import Mathlib.Data.List.Basic
import Mathlib.Tactic.IntervalCases

/-!
# The Gregorian calendar

Days are counted from the first day of the year 1, before and after it.  Months and days of
a date are counted from zero.  Every day has one date.
-/

namespace BumpinHost.Calendar

/-- The part a position falls in and its place there, when parts of these sizes follow each
other. -/
def locate : List Nat → Nat → Nat × Nat
  | [], position => (0, position)
  | size :: sizes, position =>
      if position < size then (0, position)
      else ((locate sizes (position - size)).1 + 1, (locate sizes (position - size)).2)

theorem locate_spec {sizes : List Nat} {position : Nat} (inside : position < sizes.sum) :
    (locate sizes position).1 < sizes.length ∧
      (locate sizes position).2 < sizes.getD (locate sizes position).1 0 ∧
      (sizes.take (locate sizes position).1).sum + (locate sizes position).2 = position := by
  induction sizes generalizing position with
  | nil => exact absurd inside (Nat.not_lt_zero _)
  | cons size sizes ih =>
      unfold locate
      split
      case isTrue first => simpa using first
      case isFalse later =>
          rw [List.sum_cons] at inside
          obtain ⟨index, offset, total⟩ := ih (by omega : position - size < sizes.sum)
          refine ⟨Nat.succ_lt_succ index, by simpa using offset, ?_⟩
          rw [List.take_succ_cons, List.sum_cons, Nat.add_assoc, total]
          omega

/-- A place in a part is found again. -/
theorem locate_sum {sizes : List Nat} {index offset : Nat} (inside : offset < sizes.getD index 0) :
    locate sizes ((sizes.take index).sum + offset) = (index, offset) := by
  induction sizes generalizing index with
  | nil => exact absurd inside (Nat.not_lt_zero _)
  | cons size sizes ih =>
      cases index with
      | zero =>
          have first : offset < size := by simpa using inside
          simp [locate, first]
      | succ index =>
          have rest := ih (show offset < sizes.getD index 0 by simpa using inside)
          rw [List.take_succ_cons, List.sum_cons, locate, if_neg (by omega),
            show size + (sizes.take index).sum + offset - size =
              (sizes.take index).sum + offset by omega, rest]

def isLeap (year : Int) : Bool := year % 4 = 0 ∧ (year % 100 ≠ 0 ∨ year % 400 = 0)

/-- The days before the first day of a year. -/
def daysBeforeYear (year : Int) : Int :=
  365 * (year - 1) + (year - 1) / 4 - (year - 1) / 100 + (year - 1) / 400

def yearLength (year : Int) : Nat := if isLeap year then 366 else 365

theorem daysBeforeYear_succ (year : Int) :
    daysBeforeYear (year + 1) = daysBeforeYear year + yearLength year := by
  unfold daysBeforeYear yearLength isLeap
  split
  case isTrue leap =>
      obtain ⟨four, rest⟩ := of_decide_eq_true leap
      rcases rest with century | cycle <;> omega
  case isFalse common =>
      have common := mt decide_eq_true common
      rw [not_and_or, not_or, not_not] at common
      rcases common with four | ⟨century, cycle⟩ <;> omega

theorem daysBeforeYear_mono {first second : Int} (noLater : first ≤ second) :
    daysBeforeYear first ≤ daysBeforeYear second := by
  unfold daysBeforeYear
  omega

/-- The year of a day: cycles of 400 years, centuries, groups of four years and years, the
last century of a cycle and the last year of a group being the ones with the leap day. -/
def yearOf (day : Int) : Int :=
  let inCycle := day % 146097
  let century := min (inCycle / 36524) 3
  let inCentury := inCycle - century * 36524
  let inGroup := inCentury % 1461
  day / 146097 * 400 + century * 100 + inCentury / 1461 * 4 + min (inGroup / 365) 3 + 1

/-- The days before a year by its place in a cycle. -/
theorem daysBeforeYear_cycle (cycle : Int) {century group place : Int} (_ : 0 ≤ century)
    (_ : century ≤ 3) (_ : 0 ≤ group) (_ : group ≤ 24) (_ : 0 ≤ place) (_ : place ≤ 3) :
    daysBeforeYear (cycle * 400 + century * 100 + group * 4 + place + 1) =
      cycle * 146097 + century * 36524 + group * 1461 + place * 365 := by
  unfold daysBeforeYear
  omega

/-- The first day of the next year by its place in a cycle: it may begin a group, a century
or a cycle. -/
theorem lt_daysBeforeYear_succ (cycle : Int) {century group place rest : Int}
    (centuryBounds : 0 ≤ century ∧ century ≤ 3) (groupBounds : 0 ≤ group ∧ group ≤ 24)
    (placeBounds : 0 ≤ place ∧ place ≤ 3) (inYear : place < 3 → rest < 365)
    (inGroup : place * 365 + rest < 1461)
    (inCentury : century < 3 → group * 1461 + place * 365 + rest < 36524)
    (inCycle : century * 36524 + group * 1461 + place * 365 + rest < 146097) :
    cycle * 146097 + century * 36524 + group * 1461 + place * 365 + rest <
      daysBeforeYear (cycle * 400 + century * 100 + group * 4 + place + 1 + 1) := by
  by_cases lastYear : place < 3
  · have next := daysBeforeYear_cycle cycle centuryBounds.1 centuryBounds.2 groupBounds.1
      groupBounds.2 (by omega : 0 ≤ place + 1) (by omega)
    rw [← add_assoc] at next
    have short := inYear lastYear
    omega
  obtain rfl : place = 3 := by omega
  by_cases lastGroup : group < 24
  · have next := daysBeforeYear_cycle cycle centuryBounds.1 centuryBounds.2
      (by omega : 0 ≤ group + 1) (by omega) (le_refl 0) (by decide)
    rw [show cycle * 400 + century * 100 + group * 4 + 3 + 1 + 1 =
      cycle * 400 + century * 100 + (group + 1) * 4 + 0 + 1 by omega]
    omega
  obtain rfl : group = 24 := by omega
  by_cases lastCentury : century < 3
  · have next := daysBeforeYear_cycle cycle (by omega : 0 ≤ century + 1) (by omega) (le_refl 0)
      (by decide) (le_refl 0) (by decide)
    have short := inCentury lastCentury
    rw [show cycle * 400 + century * 100 + 24 * 4 + 3 + 1 + 1 =
      cycle * 400 + (century + 1) * 100 + 0 * 4 + 0 + 1 by omega]
    omega
  · obtain rfl : century = 3 := by omega
    have next := daysBeforeYear_cycle (cycle + 1) (le_refl 0) (by decide) (le_refl 0) (by decide)
      (le_refl 0) (by decide)
    rw [show cycle * 400 + 3 * 100 + 24 * 4 + 3 + 1 + 1 =
      (cycle + 1) * 400 + 0 * 100 + 0 * 4 + 0 + 1 by omega]
    omega

theorem daysBeforeYear_yearOf (day : Int) :
    daysBeforeYear (yearOf day) ≤ day ∧ day < daysBeforeYear (yearOf day + 1) := by
  unfold yearOf
  dsimp only
  generalize cycleEq : day / 146097 = cycle
  generalize inCycleEq : day % 146097 = inCycle
  have inCycleBounds : 0 ≤ inCycle ∧ inCycle < 146097 := by omega
  generalize centuryEq : min (inCycle / 36524) 3 = century
  have centuryBounds : 0 ≤ century ∧ century ≤ 3 := by omega
  generalize inCenturyEq : inCycle - century * 36524 = inCentury
  have inCenturyBounds : 0 ≤ inCentury ∧ inCentury ≤ 36524 ∧
      (century < 3 → inCentury < 36524) := by omega
  generalize groupEq : inCentury / 1461 = group
  generalize inGroupEq : inCentury % 1461 = inGroup
  have groupBounds : 0 ≤ group ∧ group ≤ 24 := by omega
  have inGroupBounds : 0 ≤ inGroup ∧ inGroup < 1461 := by omega
  generalize placeEq : min (inGroup / 365) 3 = place
  have placeBounds : 0 ≤ place ∧ place ≤ 3 := by omega
  have rest : 0 ≤ inGroup - place * 365 ∧ (place < 3 → inGroup - place * 365 < 365) := by omega
  have whole : day = cycle * 146097 + century * 36524 + group * 1461 + place * 365 +
      (inGroup - place * 365) := by omega
  constructor
  · rw [daysBeforeYear_cycle cycle centuryBounds.1 centuryBounds.2 groupBounds.1 groupBounds.2
      placeBounds.1 placeBounds.2]
    omega
  · conv_lhs => rw [whole]
    exact lt_daysBeforeYear_succ cycle centuryBounds groupBounds placeBounds rest.2
      (by omega) (by omega) (by omega)

/-- A year is the only one that has a day between its first day and the next year's. -/
theorem yearOf_eq {day year : Int} (began : daysBeforeYear year ≤ day)
    (goesOn : day < daysBeforeYear (year + 1)) : yearOf day = year := by
  obtain ⟨first, last⟩ := daysBeforeYear_yearOf day
  rcases lt_trichotomy (yearOf day) year with earlier | same | later
  · have next := daysBeforeYear_mono (Int.add_one_le_of_lt earlier)
    omega
  · exact same
  · have next := daysBeforeYear_mono (Int.add_one_le_of_lt later)
    omega

/-- The lengths of the months of a year. -/
def monthLengths (year : Int) : List Nat :=
  [31, if isLeap year then 29 else 28, 31, 30, 31, 30, 31, 31, 30, 31, 30, 31]

theorem sum_monthLengths (year : Int) : (monthLengths year).sum = yearLength year := by
  unfold monthLengths yearLength
  split <;> rfl

/-- A date that exists. -/
@[ext]
structure Date where
  year : Int
  month : Nat
  day : Nat
  month_lt : month < 12
  day_lt : day < (monthLengths year).getD month 0
deriving Repr

/-- The days before a date. -/
def Date.ordinal (date : Date) : Int :=
  daysBeforeYear date.year + (((monthLengths date.year).take date.month).sum + date.day : Nat)

/-- The place of a day in its year. -/
def dayOfYear (day : Int) : Nat := (day - daysBeforeYear (yearOf day)).toNat

theorem daysBeforeYear_add_dayOfYear (day : Int) :
    daysBeforeYear (yearOf day) + dayOfYear day = day := by
  have began := (daysBeforeYear_yearOf day).1
  unfold dayOfYear
  omega

theorem dayOfYear_lt (day : Int) : dayOfYear day < (monthLengths (yearOf day)).sum := by
  have goesOn := (daysBeforeYear_yearOf day).2
  rw [daysBeforeYear_succ] at goesOn
  have whole := daysBeforeYear_add_dayOfYear day
  rw [sum_monthLengths]
  omega

def dateOf (day : Int) : Date where
  year := yearOf day
  month := (locate (monthLengths (yearOf day)) (dayOfYear day)).1
  day := (locate (monthLengths (yearOf day)) (dayOfYear day)).2
  month_lt := (locate_spec (dayOfYear_lt day)).1
  day_lt := (locate_spec (dayOfYear_lt day)).2.1

@[simp]
theorem ordinal_dateOf (day : Int) : (dateOf day).ordinal = day := by
  unfold Date.ordinal dateOf
  dsimp only
  rw [(locate_spec (dayOfYear_lt day)).2.2, daysBeforeYear_add_dayOfYear]

/-- The part of a list that ends in one of its parts is no longer than the list. -/
theorem sum_take_add_lt {sizes : List Nat} {index offset : Nat}
    (inside : offset < sizes.getD index 0) : (sizes.take index).sum + offset < sizes.sum := by
  induction sizes generalizing index with
  | nil => exact absurd inside (Nat.not_lt_zero _)
  | cons size sizes ih =>
      cases index with
      | zero =>
          have first : offset < size := by simpa using inside
          simp only [List.take_zero, List.sum_nil, List.sum_cons]
          omega
      | succ index =>
          have rest := ih (show offset < sizes.getD index 0 by simpa using inside)
          rw [List.take_succ_cons, List.sum_cons, List.sum_cons]
          omega

@[simp]
theorem dateOf_ordinal (date : Date) : dateOf date.ordinal = date := by
  have inYear := sum_take_add_lt date.day_lt
  rw [sum_monthLengths] at inYear
  have year : yearOf date.ordinal = date.year := by
    apply yearOf_eq
    · unfold Date.ordinal
      omega
    · rw [daysBeforeYear_succ]
      unfold Date.ordinal
      omega
  have place : dayOfYear date.ordinal =
      ((monthLengths date.year).take date.month).sum + date.day := by
    unfold dayOfYear
    rw [year]
    unfold Date.ordinal
    omega
  have found := locate_sum date.day_lt
  rw [← place] at found
  ext
  · exact year
  · show (locate (monthLengths (yearOf date.ordinal)) (dayOfYear date.ordinal)).1 = date.month
    rw [year, found]
  · show (locate (monthLengths (yearOf date.ordinal)) (dayOfYear date.ordinal)).2 = date.day
    rw [year, found]

end BumpinHost.Calendar
