import BumpinHost.Library.ByteMemory
import BumpinHost.Library.Calendar

/-!
# System time and its fields

The system time counts units of 100 nanoseconds since the year 1601.  The C library breaks
seconds since 1970 up into the fields of a date, and the title gets them as eight 16-bit
values.
-/

namespace BumpinHost.Kernel

open Calendar (Date dateOf daysBeforeYear monthLengths)
open Memory

/-- The seconds from the start of 1601 to the start of 1970. -/
def kFiletimeEpochOffsetSeconds : BitVec 64 := 11644473600

/-- The fields of `std::tm` that are used. -/
structure Tm where
  tm_year : Int
  tm_mon : Int
  tm_mday : Int
  tm_hour : Int
  tm_min : Int
  tm_sec : Int
  tm_wday : Int
deriving DecidableEq, Repr

/-- `gmtime_r` of the C library, for seconds before and after the start of 1970. -/
def gmtime (unixSeconds : Int) : Tm :=
  let date := dateOf (unixSeconds / 86400 + daysBeforeYear 1970)
  let second := unixSeconds % 86400
  { tm_year := date.year - 1900
    tm_mon := date.month
    tm_mday := date.day + 1
    tm_hour := second / 3600
    tm_min := second / 60 % 60
    tm_sec := second % 60
    tm_wday := (unixSeconds / 86400 + 4) % 7 }

/-- `TIME_FIELDS`. -/
@[ext]
structure TimeFields where
  year : BitVec 16
  month : BitVec 16
  day : BitVec 16
  hour : BitVec 16
  minute : BitVec 16
  second : BitVec 16
  milliseconds : BitVec 16
  weekday : BitVec 16
deriving DecidableEq, Repr

namespace TimeFields

def toList (fields : TimeFields) : List (BitVec 16) :=
  [fields.year, fields.month, fields.day, fields.hour, fields.minute, fields.second,
    fields.milliseconds, fields.weekday]

/-- The fields that `RtlTimeToTimeFields` computes. -/
def ofFiletime (filetime : BitVec 64) : TimeFields :=
  let unixSeconds := filetime / 10000000 - kFiletimeEpochOffsetSeconds
  let milliseconds := filetime / 10000 % 1000
  let tm := gmtime unixSeconds.toInt
  { year := BitVec.ofInt 16 (tm.tm_year + 1900)
    month := BitVec.ofInt 16 (tm.tm_mon + 1)
    day := BitVec.ofInt 16 tm.tm_mday
    hour := BitVec.ofInt 16 tm.tm_hour
    minute := BitVec.ofInt 16 tm.tm_min
    second := BitVec.ofInt 16 tm.tm_sec
    milliseconds := milliseconds.setWidth 16
    weekday := BitVec.ofInt 16 tm.tm_wday }

end TimeFields

/-- 16-bit values one after the other. -/
def storeFields (mem : Memory) (addr : Word) : List (BitVec 16) → Memory
  | [] => mem
  | field :: fields => storeFields (storeU16 mem addr field) (addr + 2) fields

def loadFields (mem : Memory) (addr : Word) : Nat → List (BitVec 16)
  | 0 => []
  | count + 1 => loadU16 mem addr.toNat :: loadFields mem (addr + 2) count

def rtlTimeToTimeFields (mem : Memory) (inputTimePtr outputFieldsPtr : Word) : Memory :=
  storeFields mem outputFieldsPtr (TimeFields.ofFiletime (loadU64 mem inputTimePtr)).toList

/-- `time` gives the seconds since 1970. -/
def keQuerySystemTime (mem : Memory) (outPtr : Word) (unixSeconds : BitVec 64) : Memory :=
  storeU64 mem outPtr ((unixSeconds + kFiletimeEpochOffsetSeconds) * 10000000)

namespace TimeFields

/-- The days from the start of 1601 to the date. -/
def days (fields : TimeFields) : Int :=
  daysBeforeYear fields.year.toNat +
    (((monthLengths fields.year.toNat).take (fields.month.toNat - 1)).sum +
      (fields.day.toNat - 1) : Nat) - daysBeforeYear 1601

/-- The milliseconds from the start of 1601. -/
def sinceEpoch (fields : TimeFields) : Int :=
  ((((fields.days * 24 + fields.hour.toNat) * 60 + fields.minute.toNat) * 60 +
    fields.second.toNat) * 1000 + fields.milliseconds.toNat)

/-- A time of a day that exists.  The year 1601 began on a Monday. -/
structure IsValid (fields : TimeFields) : Prop where
  month : 1 ≤ fields.month.toNat ∧ fields.month.toNat ≤ 12
  day : 1 ≤ fields.day.toNat ∧
    fields.day.toNat ≤ (monthLengths fields.year.toNat).getD (fields.month.toNat - 1) 0
  hour : fields.hour.toNat < 24
  minute : fields.minute.toNat < 60
  second : fields.second.toNat < 60
  milliseconds : fields.milliseconds.toNat < 1000
  weekday : (fields.weekday.toNat : Int) = (fields.days + 1) % 7

end TimeFields

/-- Addresses of 16-bit values that have no byte in common, in an address space that wraps. -/
def Apart16 (first second : Word) : Prop :=
  2 ≤ (first - second).toNat ∧ 2 ≤ (second - first).toNat

theorem loadU16_storeU16_apart (mem : Memory) {addr other : Word} {value : BitVec 16}
    (apart : Apart16 addr other) :
    loadU16 (storeU16 mem addr value) other.toNat = loadU16 mem other.toNat := by
  obtain ⟨above, below⟩ := apart
  apply loadU16_congr
  intro position lower upper
  apply storeU16_of_outside
  bv_omega

theorem loadU16_storeFields_apart (mem : Memory) {addr other : Word} {fields : List (BitVec 16)}
    (apart : ∀ index < fields.length, Apart16 (addr + BitVec.ofNat 32 (2 * index)) other) :
    loadU16 (storeFields mem addr fields) other.toNat = loadU16 mem other.toNat := by
  induction fields generalizing mem addr with
  | nil => rfl
  | cons field fields ih =>
      have first : Apart16 addr other := by simpa using apart 0 (Nat.succ_pos _)
      rw [storeFields, ih, loadU16_storeU16_apart mem first]
      intro index inside
      have later := apart (index + 1) (Nat.succ_lt_succ inside)
      rwa [show addr + BitVec.ofNat 32 (2 * (index + 1)) = addr + 2 + BitVec.ofNat 32 (2 * index)
        by bv_omega] at later

theorem loadFields_storeFields (mem : Memory) (addr : Word) {fields : List (BitVec 16)}
    (few : fields.length < 2 ^ 31) :
    loadFields (storeFields mem addr fields) addr fields.length = fields := by
  induction fields generalizing mem addr with
  | nil => rfl
  | cons field fields ih =>
      rw [List.length_cons] at few
      rw [storeFields, List.length_cons, loadFields, ih _ _ (by omega),
        loadU16_storeFields_apart, loadU16_storeU16_same]
      intro index inside
      constructor <;> bv_omega

@[simp]
theorem loadU64_storeU64_same (mem : Memory) (addr : Word) (value : BitVec 64) :
    loadU64 (storeU64 mem addr value) addr = value := by
  have bytes : loadU64 (storeU64 mem addr value) addr =
      ((value.extractLsb' 56 8 ++ value.extractLsb' 48 8) ++
        (value.extractLsb' 40 8 ++ value.extractLsb' 32 8)) ++
      ((value.extractLsb' 24 8 ++ value.extractLsb' 16 8) ++
        (value.extractLsb' 8 8 ++ value.extractLsb' 0 8)) := by
    have byte : ∀ index < 8, storeU64 mem addr value (addr.toNat + index) =
        value.extractLsb' (8 * (7 - index)) 8 := by
      intro index inside
      rw [storeU64, if_pos (by omega), Nat.add_sub_add_left]
    have first := byte 0 (by decide)
    rw [Nat.add_zero] at first
    simp only [loadU64, loadU16, Nat.add_assoc, Nat.reduceAdd, first, byte 1 (by decide),
      byte 2 (by decide), byte 3 (by decide), byte 4 (by decide), byte 5 (by decide),
      byte 6 (by decide), byte 7 (by decide), Nat.reduceSub, Nat.reduceMul]
  rw [bytes]
  have pair (start : Nat) : value.extractLsb' (start + 8) 8 ++ value.extractLsb' start 8 =
      value.extractLsb' start 16 :=
    BitVec.extractLsb'_append_extractLsb'_eq_extractLsb' rfl
  have word (start : Nat) : value.extractLsb' (start + 16) 16 ++ value.extractLsb' start 16 =
      value.extractLsb' start 32 :=
    BitVec.extractLsb'_append_extractLsb'_eq_extractLsb' rfl
  rw [pair 48, pair 32, pair 16, pair 0, word 32, word 0,
    BitVec.extractLsb'_append_extractLsb'_eq_extractLsb' (by decide)]
  exact BitVec.extractLsb'_eq_self

theorem toInt_unixSeconds (filetime : BitVec 64) :
    (filetime / 10000000 - kFiletimeEpochOffsetSeconds).toInt =
      (filetime.toNat / 10000000 : Nat) - 11644473600 := by
  have seconds : (filetime / 10000000).toNat = filetime.toNat / 10000000 := by
    rw [BitVec.toNat_udiv]
    rfl
  have bound := filetime.isLt
  have offset : kFiletimeEpochOffsetSeconds.toNat = 11644473600 := by decide
  rw [BitVec.toInt_eq_toNat_cond, BitVec.toNat_sub, seconds, offset]
  split <;> omega

theorem toNat_milliseconds (filetime : BitVec 64) :
    ((filetime / 10000 % 1000).setWidth 16).toNat = filetime.toNat / 10000 % 1000 := by
  have quotient : (filetime / 10000 % 1000).toNat = filetime.toNat / 10000 % 1000 := by
    rw [BitVec.toNat_umod, BitVec.toNat_udiv]
    rfl
  rw [BitVec.toNat_setWidth, quotient]
  omega

theorem toNat_ofInt_small {value : Int} {n : Nat} (same : value = n) (small : n < 2 ^ 16) :
    (BitVec.ofInt 16 value).toNat = n := by
  rw [same, BitVec.ofInt_natCast, BitVec.toNat_ofNat, Nat.mod_eq_of_lt small]

/-- A date from 1601 on has a year that fits, unless it is too far in the future. -/
theorem year_bounds {day : Int} (lower : daysBeforeYear 1601 ≤ day)
    (upper : day < daysBeforeYear 65536) :
    1601 ≤ (dateOf day).year ∧ (dateOf day).year < 65536 := by
  obtain ⟨began, goesOn⟩ := Calendar.daysBeforeYear_yearOf day
  constructor
  · by_contra early
    have next := Calendar.daysBeforeYear_mono (by omega : (dateOf day).year + 1 ≤ 1601)
    exact absurd (goesOn.trans_le next) (by omega)
  · by_contra late
    have start := Calendar.daysBeforeYear_mono (by omega : 65536 ≤ (dateOf day).year)
    exact absurd (start.trans began) (by omega)

/-- The fields of a second of a day. -/
structure FieldsOf (fields : TimeFields) (today : Int) (second milliseconds : Nat) : Prop where
  year : (fields.year.toNat : Int) = (dateOf today).year
  month : fields.month.toNat = (dateOf today).month + 1
  day : fields.day.toNat = (dateOf today).day + 1
  hour : fields.hour.toNat = second / 3600
  minute : fields.minute.toNat = second / 60 % 60
  second : fields.second.toNat = second % 60
  milliseconds : fields.milliseconds.toNat = milliseconds
  weekday : (fields.weekday.toNat : Int) = (today - daysBeforeYear 1601 + 1) % 7

theorem monthLengths_le (year : Int) (month : Nat) : (monthLengths year).getD month 0 ≤ 31 := by
  by_cases inside : month < 12
  · unfold monthLengths
    split <;> interval_cases month <;> decide
  · have none : (monthLengths year)[month]? = none :=
      List.getElem?_eq_none (Nat.le_of_not_lt inside)
    rw [List.getD_eq_getElem?_getD, none]
    exact Nat.zero_le _

/-- The days of 1601 and the days of 1970 are counted from one another. -/
theorem fieldsOf_ofFiletime (filetime : BitVec 64) :
    FieldsOf (.ofFiletime filetime)
      ((filetime.toNat / 10000000 / 86400 : Nat) + daysBeforeYear 1601)
      (filetime.toNat / 10000000 % 86400) (filetime.toNat / 10000 % 1000) := by
  have bound := filetime.isLt
  have start1601 : daysBeforeYear 1601 = 584388 := by decide
  have start1970 : daysBeforeYear 1970 = 719162 := by decide
  have start65536 : daysBeforeYear 65536 = 23936166 := by decide
  generalize secondsEq : filetime.toNat / 10000000 = seconds
  have unix : (filetime / 10000000 - kFiletimeEpochOffsetSeconds).toInt =
      (seconds : Int) - 11644473600 := by
    rw [toInt_unixSeconds, secondsEq]
  generalize dayEq : ((seconds / 86400 : Nat) : Int) + daysBeforeYear 1601 = day
  have sameDay : ((seconds : Int) - 11644473600) / 86400 + daysBeforeYear 1970 = day := by omega
  have year := @year_bounds day (by omega) (by omega)
  have dayBound := (dateOf day).day_lt.trans_le (monthLengths_le _ _)
  have monthBound := (dateOf day).month_lt
  have fields : TimeFields.ofFiletime filetime =
      { year := BitVec.ofInt 16 ((dateOf day).year - 1900 + 1900)
        month := BitVec.ofInt 16 ((dateOf day).month + 1)
        day := BitVec.ofInt 16 ((dateOf day).day + 1)
        hour := BitVec.ofInt 16 (((seconds : Int) - 11644473600) % 86400 / 3600)
        minute := BitVec.ofInt 16 (((seconds : Int) - 11644473600) % 86400 / 60 % 60)
        second := BitVec.ofInt 16 (((seconds : Int) - 11644473600) % 86400 % 60)
        milliseconds := (filetime / 10000 % 1000).setWidth 16
        weekday := BitVec.ofInt 16 ((((seconds : Int) - 11644473600) / 86400 + 4) % 7) } := by
    unfold TimeFields.ofFiletime gmtime
    dsimp only
    rw [unix, sameDay]
  rw [fields]
  constructor
  · rw [toNat_ofInt_small (n := (dateOf day).year.toNat) (by omega) (by omega)]
    omega
  · exact toNat_ofInt_small (by omega) (by omega)
  · exact toNat_ofInt_small (by omega) (by omega)
  · exact toNat_ofInt_small (by omega) (by omega)
  · exact toNat_ofInt_small (by omega) (by omega)
  · exact toNat_ofInt_small (by omega) (by omega)
  · exact toNat_milliseconds filetime
  · rw [toNat_ofInt_small (n := (day - daysBeforeYear 1601 + 1).toNat % 7) (by omega) (by omega)]
    omega

namespace FieldsOf

variable {fields : TimeFields} {today : Int} {second milliseconds : Nat}
  (ofDay : FieldsOf fields today second milliseconds)

include ofDay

theorem days_eq : fields.days = today - daysBeforeYear 1601 := by
  have ordinal := Calendar.ordinal_dateOf today
  unfold Date.ordinal at ordinal
  unfold TimeFields.days
  rw [ofDay.year, ofDay.month, ofDay.day, Nat.add_sub_cancel, Nat.add_sub_cancel, ordinal]

theorem isValid (inDay : second < 86400) (inSecond : milliseconds < 1000) : fields.IsValid where
  month := by
    have := (dateOf today).month_lt
    rw [ofDay.month]
    omega
  day := by
    have := (dateOf today).day_lt
    rw [ofDay.year, ofDay.month, ofDay.day, Nat.add_sub_cancel]
    omega
  hour := by rw [ofDay.hour]; omega
  minute := by rw [ofDay.minute]; omega
  second := by rw [ofDay.second]; omega
  milliseconds := by rw [ofDay.milliseconds]; exact inSecond
  weekday := by rw [ofDay.weekday, ofDay.days_eq]

theorem sinceEpoch_eq :
    fields.sinceEpoch = ((today - daysBeforeYear 1601) * 86400 + second) * 1000 + milliseconds := by
  unfold TimeFields.sinceEpoch
  rw [ofDay.days_eq, ofDay.hour, ofDay.minute, ofDay.second, ofDay.milliseconds]
  omega

end FieldsOf

namespace TimeFields.IsValid

variable {fields other : TimeFields}

/-- The date of valid fields. -/
def date (valid : fields.IsValid) : Date where
  year := fields.year.toNat
  month := fields.month.toNat - 1
  day := fields.day.toNat - 1
  month_lt := by
    have := valid.month
    omega
  day_lt := by
    have := valid.day
    omega

theorem ordinal_date (valid : fields.IsValid) :
    valid.date.ordinal = fields.days + daysBeforeYear 1601 := by
  unfold TimeFields.days Date.ordinal date
  dsimp only
  omega

/-- One time has one value of each field. -/
theorem eq_of_sinceEpoch (valid : fields.IsValid) (otherValid : other.IsValid)
    (same : fields.sinceEpoch = other.sinceEpoch) : fields = other := by
  unfold TimeFields.sinceEpoch at same
  obtain ⟨month, day, hour, minute, second, milliseconds, weekday⟩ := valid
  obtain ⟨month', day', hour', minute', second', milliseconds', weekday'⟩ := otherValid
  have sameDays : fields.days = other.days := by omega
  have sameDate : date ⟨month, day, hour, minute, second, milliseconds, weekday⟩ =
      date ⟨month', day', hour', minute', second', milliseconds', weekday'⟩ := by
    rw [← Calendar.dateOf_ordinal (date _), ordinal_date, sameDays, ← ordinal_date,
      Calendar.dateOf_ordinal]
  have sameYear := congrArg Date.year sameDate
  have sameMonth := congrArg Date.month sameDate
  have sameDay := congrArg Date.day sameDate
  simp only [date] at sameYear sameMonth sameDay
  rw [sameDays, ← weekday'] at weekday
  apply TimeFields.ext <;> apply BitVec.eq_of_toNat_eq <;> omega

end TimeFields.IsValid

/-- What a title reads back from the eight values. -/
def loadTimeFields (mem : Memory) (addr : Word) : TimeFields :=
  let field (index : Nat) : BitVec 16 := (loadFields mem addr 8).getD index 0
  ⟨field 0, field 1, field 2, field 3, field 4, field 5, field 6, field 7⟩

theorem loadTimeFields_rtlTimeToTimeFields (mem : Memory) (inputTimePtr outputFieldsPtr : Word) :
    loadTimeFields (rtlTimeToTimeFields mem inputTimePtr outputFieldsPtr) outputFieldsPtr =
      .ofFiletime (loadU64 mem inputTimePtr) := by
  have loaded : loadFields (rtlTimeToTimeFields mem inputTimePtr outputFieldsPtr)
      outputFieldsPtr 8 = (TimeFields.ofFiletime (loadU64 mem inputTimePtr)).toList :=
    loadFields_storeFields mem outputFieldsPtr (by simp [TimeFields.toList])
  unfold loadTimeFields
  rw [loaded]
  rfl

/-- For every memory, system time and pair of pointers, the fields are those of a time that
exists, the system time without what is below a millisecond, and no other valid fields are
fields of that time. -/
theorem rtlTimeToTimeFields_exact (mem : Memory) (inputTimePtr outputFieldsPtr : Word) :
    let fields := loadTimeFields (rtlTimeToTimeFields mem inputTimePtr outputFieldsPtr)
      outputFieldsPtr
    fields.IsValid ∧ fields.sinceEpoch = ((loadU64 mem inputTimePtr).toNat / 10000 : Nat) ∧
      ∀ other : TimeFields, other.IsValid →
        other.sinceEpoch = ((loadU64 mem inputTimePtr).toNat / 10000 : Nat) → other = fields := by
  dsimp only
  rw [loadTimeFields_rtlTimeToTimeFields]
  generalize loadU64 mem inputTimePtr = filetime
  have ofDay := fieldsOf_ofFiletime filetime
  have valid := ofDay.isValid (Nat.mod_lt _ (by decide)) (Nat.mod_lt _ (by decide))
  have time : (TimeFields.ofFiletime filetime).sinceEpoch =
      (filetime.toNat / 10000 : Nat) := by
    rw [ofDay.sinceEpoch_eq]
    omega
  exact ⟨valid, time, fun other otherValid same =>
    otherValid.eq_of_sinceEpoch valid (same.trans time.symm)⟩

/-- The fields of the time that `KeQuerySystemTime` gives are those of the host's clock, as
long as the count of 100 nanoseconds has room. -/
theorem rtlTimeToTimeFields_keQuerySystemTime (mem : Memory) (timePtr outputFieldsPtr : Word)
    {unixSeconds : Nat} (room : (unixSeconds + 11644473600) * 10000000 < 2 ^ 64) :
    (loadTimeFields (rtlTimeToTimeFields
      (keQuerySystemTime mem timePtr (BitVec.ofNat 64 unixSeconds)) timePtr outputFieldsPtr)
      outputFieldsPtr).sinceEpoch = (unixSeconds + 11644473600 : Int) * 1000 := by
  have time : ((BitVec.ofNat 64 unixSeconds + kFiletimeEpochOffsetSeconds) * 10000000).toNat =
      (unixSeconds + 11644473600) * 10000000 := by
    rw [BitVec.toNat_mul, BitVec.toNat_add, BitVec.toNat_ofNat,
      show kFiletimeEpochOffsetSeconds.toNat = 11644473600 by decide,
      show (10000000 : BitVec 64).toNat = 10000000 by decide]
    omega
  rw [loadTimeFields_rtlTimeToTimeFields, keQuerySystemTime, loadU64_storeU64_same,
    (fieldsOf_ofFiletime _).sinceEpoch_eq, time]
  omega

/-- The last second of the 20th century. -/
example : TimeFields.ofFiletime ((978307199 + 11644473600) * 10000000 + 9990000) =
    ⟨2000, 12, 31, 23, 59, 59, 999, 0⟩ := by decide

end BumpinHost.Kernel
