import BumpinHost.Kernel.ApcOwners
import BumpinHost.Library.SignedWords
import Mathlib.Algebra.Order.Group.Unbundled.Int

/-!
# Relative timeouts

A timeout in guest memory is a signed number of 100 nanoseconds, and a negative one is
relative.  The waits count it in milliseconds, the delay in nanoseconds, and the delay
scales before it takes the minimum.  A bounded wait on the condition variable is a wait until
a time of the steady clock, in nanoseconds again.
-/

namespace BumpinHost.Kernel

open Memory SignedWords

/-- The milliseconds of a timeout, if it is relative.  No result when the conversion
overflows. -/
def relativeMilliseconds (mem : Memory) (timeoutPtr : Word) : Option (Option (BitVec 64)) :=
  if timeoutPtr ≠ 0 then
    let timeoutValue := loadU64 mem timeoutPtr
    if timeoutValue.toInt < 0 then do
      let hundredNsUnits ← negate timeoutValue
      let durationMs ← divide hundredNsUnits 10000
      some (some durationMs)
    else some none
  else some none

/-- `wait_for` waits until `steady_clock::now() + durationMs`, a sum of nanoseconds. -/
def waitDeadline (now durationMs : BitVec 64) : Option (BitVec 64) := do
  let nanoseconds ← multiply durationMs 1000000
  add now nanoseconds

/-- How long a wait lasts at most, and until when. -/
structure WaitBound where
  durationMs : BitVec 64
  deadline : BitVec 64
deriving DecidableEq, Repr

/-- The wait of `NtWaitForSingleObjectEx` once the handle has been found, and its bound if it
has one.  No result when an operation on the way overflows. -/
def ntWaitForSingleObjectEx (now : BitVec 64) (mem : Memory) (handle : Word) (alertable : Bool)
    (timeoutPtr : Word) : Option (WaitCall × Option WaitBound) := do
  match ← relativeMilliseconds mem timeoutPtr with
  | some durationMs =>
      let deadline ← waitDeadline now durationMs
      some (⟨handle, alertable, true⟩, some ⟨durationMs, deadline⟩)
  | none => some (⟨handle, alertable, false⟩, none)

/-- How long `KeWaitForSingleObject` sleeps, if it does, and its status. -/
def keWaitForSingleObject (mem : Memory) (timeoutPtr : Word) :
    Option (Option (BitVec 64) × Word) :=
  (relativeMilliseconds mem timeoutPtr).map fun durationMs =>
    (durationMs, if durationMs.isSome then kStatusTimeout else 0)

/-- One millisecond. -/
def kMaxSleep : BitVec 64 := 1000000

/-- How many nanoseconds `KeDelayExecutionThread` sleeps, and its status. -/
def keDelayExecutionThread (mem : Memory) (intervalPtr : Word) : Option (BitVec 64 × Word) :=
  if intervalPtr ≠ 0 then
    let interval := loadU64 mem intervalPtr
    if interval.toInt < 0 then do
      let hundredNsUnits ← negate interval
      let requested ← multiply hundredNsUnits 100
      some (if kMaxSleep.toInt < requested.toInt then kMaxSleep else requested, 0)
    else some (kMaxSleep, 0)
  else some (kMaxSleep, 0)

/-- A duration is not negative and has its mathematical value. -/
structure IsDuration (duration : BitVec 64) (expected : Int) : Prop where
  nonneg : 0 ≤ duration.toInt
  value : duration.toInt = expected

/-- Every wait with this timeout is bounded by its milliseconds, from now on. -/
def NtWaitConverts (now : BitVec 64) (mem : Memory) (timeoutPtr : Word) : Prop :=
  ∀ handle alertable, ∃ bound,
    ntWaitForSingleObjectEx now mem handle alertable timeoutPtr =
        some (⟨handle, alertable, true⟩, some bound) ∧
      IsDuration bound.durationMs (|(loadU64 mem timeoutPtr).toInt| / 10000) ∧
      bound.deadline.toInt = now.toInt + bound.durationMs.toInt * 1000000

def KeWaitConverts (mem : Memory) (timeoutPtr : Word) : Prop :=
  ∃ durationMs, keWaitForSingleObject mem timeoutPtr = some (some durationMs, kStatusTimeout) ∧
    IsDuration durationMs (|(loadU64 mem timeoutPtr).toInt| / 10000)

def KeDelayConverts (mem : Memory) (intervalPtr : Word) : Prop :=
  ∃ sleepDuration, keDelayExecutionThread mem intervalPtr = some (sleepDuration, 0) ∧
    IsDuration sleepDuration (min (|(loadU64 mem intervalPtr).toInt| * 100) 1000000)

/-- All three convert the timeout at the pointer without overflow. -/
structure TimeoutConverts (now : BitVec 64) (mem : Memory) (timeoutPtr : Word) : Prop where
  ntWait : NtWaitConverts now mem timeoutPtr
  keWait : KeWaitConverts mem timeoutPtr
  keDelay : KeDelayConverts mem timeoutPtr

variable {now : BitVec 64} {mem : Memory} {timeoutPtr : Word}

theorem relativeMilliseconds_converts_iff (pointer : timeoutPtr ≠ 0)
    (relative : (loadU64 mem timeoutPtr).toInt < 0) :
    (∃ durationMs, relativeMilliseconds mem timeoutPtr = some (some durationMs) ∧
        IsDuration durationMs (|(loadU64 mem timeoutPtr).toInt| / 10000)) ↔
      (loadU64 mem timeoutPtr).toInt ≠ -2 ^ 63 := by
  have negates := negate_isSome_iff (by decide) (loadU64 mem timeoutPtr)
  unfold relativeMilliseconds
  rw [if_pos pointer]
  dsimp only
  rw [if_pos relative, abs_of_neg relative]
  constructor
  · rintro ⟨durationMs, converted, -⟩
    rw [← negates]
    cases negated : negate (loadU64 mem timeoutPtr) with
    | none =>
        rw [negated] at converted
        cases converted
    | some hundredNsUnits => rfl
  · intro above
    obtain ⟨hundredNsUnits, negated⟩ := Option.isSome_iff_exists.mp (negates.mpr above)
    have units := negate_eq_some_iff.mp negated
    have nonneg : 0 ≤ hundredNsUnits.toInt := by omega
    have divides : 0 < (10000 : BitVec 64).toInt := by decide
    obtain ⟨durationMs, divided, quotient⟩ := divide_of_nonneg nonneg divides
    refine ⟨durationMs, ?_, ?_, ?_⟩
    · rw [negated, Option.bind_eq_bind, Option.bind_some, divided]
      rfl
    · rw [quotient, units]
      exact Int.ediv_nonneg (by omega) (by decide)
    · rw [quotient, units]
      rfl

theorem waitDeadline_eq_some {durationMs deadline : BitVec 64}
    (found : waitDeadline now durationMs = some deadline) :
    (∃ nanoseconds : BitVec 64, nanoseconds.toInt = durationMs.toInt * 1000000) ∧
      deadline.toInt = now.toInt + durationMs.toInt * 1000000 := by
  have scale : (1000000 : BitVec 64).toInt = 1000000 := by decide
  obtain ⟨nanoseconds, multiplied, added⟩ := Option.bind_eq_some_iff.mp found
  have product := represent_eq_some_iff.mp multiplied
  rw [scale] at product
  have sum := represent_eq_some_iff.mp added
  rw [product] at sum
  exact ⟨⟨nanoseconds, product⟩, sum⟩

/-- Neither the product nor the sum overflows. -/
theorem waitDeadline_isSome_iff {durationMs : BitVec 64} (nonneg : 0 ≤ durationMs.toInt) :
    (∃ deadline, waitDeadline now durationMs = some deadline) ↔
      durationMs.toInt * 1000000 < 2 ^ 63 ∧ now.toInt + durationMs.toInt * 1000000 < 2 ^ 63 := by
  constructor
  · rintro ⟨deadline, found⟩
    obtain ⟨⟨nanoseconds, product⟩, sum⟩ := waitDeadline_eq_some found
    rw [← sum, ← product]
    exact ⟨BitVec.toInt_lt, BitVec.toInt_lt⟩
  · rintro ⟨productLt, sumLt⟩
    have scale : (1000000 : BitVec 64).toInt = 1000000 := by decide
    have lower := BitVec.le_toInt now
    have representable : (multiply durationMs 1000000).isSome := by
      rw [multiply, represent_isSome_iff (by decide), scale]
      omega
    obtain ⟨nanoseconds, multiplied⟩ := Option.isSome_iff_exists.mp representable
    have product := represent_eq_some_iff.mp multiplied
    rw [scale] at product
    have sums : (add now nanoseconds).isSome := by
      rw [add, represent_isSome_iff (by decide), product]
      omega
    obtain ⟨deadline, added⟩ := Option.isSome_iff_exists.mp sums
    exact ⟨deadline, Option.bind_eq_some_iff.mpr ⟨nanoseconds, multiplied, added⟩⟩

theorem ntWaitForSingleObjectEx_eq_iff (handle : Word) (alertable : Bool) (bound : WaitBound) :
    ntWaitForSingleObjectEx now mem handle alertable timeoutPtr =
        some (⟨handle, alertable, true⟩, some bound) ↔
      relativeMilliseconds mem timeoutPtr = some (some bound.durationMs) ∧
        waitDeadline now bound.durationMs = some bound.deadline := by
  unfold ntWaitForSingleObjectEx
  rw [Option.bind_eq_bind, Option.bind_eq_some_iff]
  constructor
  · rintro ⟨relative, converted, waits⟩
    cases relative with
    | none => simp at waits
    | some durationMs =>
        obtain ⟨deadline, reached, same⟩ := Option.bind_eq_some_iff.mp waits
        obtain rfl : ⟨durationMs, deadline⟩ = bound := by simpa using same
        exact ⟨converted, reached⟩
  · rintro ⟨converted, reached⟩
    exact ⟨some bound.durationMs, converted,
      Option.bind_eq_some_iff.mpr ⟨bound.deadline, reached, rfl⟩⟩

theorem keWaitForSingleObject_eq_iff (durationMs : BitVec 64) :
    keWaitForSingleObject mem timeoutPtr = some (some durationMs, kStatusTimeout) ↔
      relativeMilliseconds mem timeoutPtr = some (some durationMs) := by
  unfold keWaitForSingleObject
  rw [Option.map_eq_some_iff]
  constructor
  · rintro ⟨found, converted, same⟩
    rw [converted, (Prod.mk.inj same).1]
  · intro converted
    exact ⟨_, converted, rfl⟩

theorem ntWaitConverts_iff (pointer : timeoutPtr ≠ 0)
    (relative : (loadU64 mem timeoutPtr).toInt < 0) :
    NtWaitConverts now mem timeoutPtr ↔
      |(loadU64 mem timeoutPtr).toInt| / 10000 * 1000000 < 2 ^ 63 ∧
        now.toInt + |(loadU64 mem timeoutPtr).toInt| / 10000 * 1000000 < 2 ^ 63 := by
  simp only [NtWaitConverts, ntWaitForSingleObjectEx_eq_iff, forall_const]
  constructor
  · rintro ⟨bound, ⟨-, reached⟩, duration, -⟩
    rw [← duration.value]
    exact (waitDeadline_isSome_iff duration.nonneg).mp ⟨_, reached⟩
  · intro small
    have least : (loadU64 mem timeoutPtr).toInt ≠ -2 ^ 63 := by
      have product := small.1
      rw [abs_of_neg relative] at product
      omega
    obtain ⟨durationMs, converted, duration⟩ :=
      (relativeMilliseconds_converts_iff pointer relative).mpr least
    rw [← duration.value] at small
    obtain ⟨deadline, reached⟩ := (waitDeadline_isSome_iff duration.nonneg).mpr small
    exact ⟨⟨durationMs, deadline⟩, ⟨converted, reached⟩, duration,
      (waitDeadline_eq_some reached).2⟩

theorem keWaitConverts_iff (pointer : timeoutPtr ≠ 0)
    (relative : (loadU64 mem timeoutPtr).toInt < 0) :
    KeWaitConverts mem timeoutPtr ↔ (loadU64 mem timeoutPtr).toInt ≠ -2 ^ 63 := by
  simp only [KeWaitConverts, keWaitForSingleObject_eq_iff]
  exact relativeMilliseconds_converts_iff pointer relative

/-- The delay scales before it takes the minimum. -/
theorem keDelayConverts_iff (pointer : timeoutPtr ≠ 0)
    (relative : (loadU64 mem timeoutPtr).toInt < 0) :
    KeDelayConverts mem timeoutPtr ↔ |(loadU64 mem timeoutPtr).toInt| * 100 < 2 ^ 63 := by
  have scale : (100 : BitVec 64).toInt = 100 := by decide
  have sleep : kMaxSleep.toInt = 1000000 := by decide
  unfold KeDelayConverts keDelayExecutionThread
  rw [if_pos pointer]
  dsimp only
  rw [if_pos relative, abs_of_neg relative]
  constructor
  · rintro ⟨sleepDuration, delays, -⟩
    obtain ⟨hundredNsUnits, negated, delays⟩ := Option.bind_eq_some_iff.mp delays
    obtain ⟨requested, multiplied, -⟩ := Option.bind_eq_some_iff.mp delays
    have units := negate_eq_some_iff.mp negated
    have product := represent_eq_some_iff.mp multiplied
    have upper := @BitVec.toInt_lt 64 requested
    rw [scale, units] at product
    omega
  · intro small
    have least : (loadU64 mem timeoutPtr).toInt ≠ -2 ^ (64 - 1) := by omega
    obtain ⟨hundredNsUnits, negated⟩ :=
      Option.isSome_iff_exists.mp ((negate_isSome_iff (by decide) _).mpr least)
    have units := negate_eq_some_iff.mp negated
    have representable : (multiply hundredNsUnits 100).isSome := by
      rw [multiply, represent_isSome_iff (by decide), scale]
      omega
    obtain ⟨requested, multiplied⟩ := Option.isSome_iff_exists.mp representable
    have product := represent_eq_some_iff.mp multiplied
    rw [scale, units] at product
    rw [negated, Option.bind_eq_bind, Option.bind_some, multiplied, Option.bind_some]
    refine ⟨_, rfl, ?_⟩
    split
    case isTrue longer =>
        rw [min_eq_right (by omega)]
        exact ⟨by omega, sleep⟩
    case isFalse shorter =>
        rw [min_eq_left (by omega)]
        exact ⟨by omega, product⟩

/-- A relative timeout is converted by the first wait exactly when its end is a time of the
clock, by the second when it is not the least value, by the delay when its nanoseconds are a
value, and so by all three when both its nanoseconds and the end of the wait are. -/
theorem relativeTimeout_converts_iff (pointer : timeoutPtr ≠ 0)
    (relative : (loadU64 mem timeoutPtr).toInt < 0) :
    (NtWaitConverts now mem timeoutPtr ↔
        |(loadU64 mem timeoutPtr).toInt| / 10000 * 1000000 < 2 ^ 63 ∧
          now.toInt + |(loadU64 mem timeoutPtr).toInt| / 10000 * 1000000 < 2 ^ 63) ∧
      (KeWaitConverts mem timeoutPtr ↔ (loadU64 mem timeoutPtr).toInt ≠ -2 ^ 63) ∧
      (KeDelayConverts mem timeoutPtr ↔
        |(loadU64 mem timeoutPtr).toInt| * 100 < 2 ^ 63) ∧
      (TimeoutConverts now mem timeoutPtr ↔
        |(loadU64 mem timeoutPtr).toInt| * 100 < 2 ^ 63 ∧
          now.toInt + |(loadU64 mem timeoutPtr).toInt| / 10000 * 1000000 < 2 ^ 63) := by
  have ntWait := @ntWaitConverts_iff now mem timeoutPtr pointer relative
  have keWait := keWaitConverts_iff pointer relative
  have keDelay := keDelayConverts_iff pointer relative
  refine ⟨ntWait, keWait, keDelay, ?_⟩
  constructor
  · intro converts
    exact ⟨keDelay.mp converts.keDelay, (ntWait.mp converts.ntWait).2⟩
  · rintro ⟨small, ends⟩
    have least : (loadU64 mem timeoutPtr).toInt ≠ -2 ^ 63 := by
      have small := small
      rw [abs_of_neg relative] at small
      omega
    exact ⟨ntWait.mpr ⟨by omega, ends⟩, keWait.mpr least, keDelay.mpr small⟩

/-- Memory with one timeout at every multiple of eight. -/
def timeoutMemory (timeout : BitVec 64) : Memory := fun position =>
  timeout.extractLsb' (8 * (7 - position % 8)) 8

/-- Thirty milliseconds, one hour after the clock's start. -/
theorem relativeTimeout_converts_iff_thirty :
    (loadU64 (timeoutMemory (-300000)) 8).toInt = -300000 ∧
      TimeoutConverts 3600000000000 (timeoutMemory (-300000)) 8 := by
  have value : (loadU64 (timeoutMemory (-300000)) 8).toInt = -300000 := by decide
  have relative : (loadU64 (timeoutMemory (-300000)) 8).toInt < 0 := by
    rw [value]
    decide
  refine ⟨value, (relativeTimeout_converts_iff (by decide) relative).2.2.2.mpr ?_⟩
  rw [value]
  decide

/-- The least value, which no negation and no scaling survives, whatever the time. -/
theorem leastTimeout_overflows :
    (loadU64 (timeoutMemory (BitVec.intMin 64)) 8).toInt = -2 ^ 63 ∧
      (∀ now, ¬ NtWaitConverts now (timeoutMemory (BitVec.intMin 64)) 8) ∧
      ¬ KeWaitConverts (timeoutMemory (BitVec.intMin 64)) 8 ∧
      ¬ KeDelayConverts (timeoutMemory (BitVec.intMin 64)) 8 := by
  have value : (loadU64 (timeoutMemory (BitVec.intMin 64)) 8).toInt = -2 ^ 63 := by decide
  have pointer : (8 : Word) ≠ 0 := by decide
  have relative : (loadU64 (timeoutMemory (BitVec.intMin 64)) 8).toInt < 0 := by
    rw [value]
    decide
  refine ⟨value, fun now => ?_, ?_, ?_⟩
  · rw [ntWaitConverts_iff pointer relative, value]
    exact fun small => absurd small.1 (by decide)
  · rw [keWaitConverts_iff pointer relative, value]
    exact not_not.mpr rfl
  · rw [keDelayConverts_iff pointer relative, value]
    decide

end BumpinHost.Kernel
