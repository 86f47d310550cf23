import Mathlib.Tactic.Linarith

/-!
# Bounded waits

A loop looks for a condition again and again, and gives up once a clock shows more than a
limit.  When every round takes at least a fixed time, so many rounds are enough.
-/

namespace BumpinHost.BoundedWait

/-- How a wait ends, with the number of checks before the last one. -/
inductive Outcome
  | satisfied (checks : Nat)
  | gaveUp (checks : Nat)
deriving DecidableEq, Repr

/-- The wait from one check on, as far as so many rounds take it. -/
def poll (done : Nat → Bool) (elapsed : Nat → Nat) (limit : Nat) : Nat → Nat → Option Outcome
  | 0, _ => none
  | rounds + 1, check =>
      if done check then some (.satisfied check)
      else if limit < elapsed check then some (.gaveUp check)
      else poll done elapsed limit rounds (check + 1)

variable {done : Nat → Bool} {elapsed : Nat → Nat} {limit : Nat}

/-- The wait is still on after these checks. -/
def Waits (done : Nat → Bool) (elapsed : Nat → Nat) (limit first checks : Nat) : Prop :=
  ∀ check, first ≤ check → check < checks → done check = false ∧ elapsed check ≤ limit

/-- What an outcome says of all checks. -/
def Outcome.Holds (done : Nat → Bool) (elapsed : Nat → Nat) (limit first : Nat) :
    Outcome → Prop
  | .satisfied checks => Waits done elapsed limit first checks ∧ done checks = true
  | .gaveUp checks =>
      Waits done elapsed limit first checks ∧ done checks = false ∧ limit < elapsed checks

theorem Waits.cons {first checks : Nat} (off : done first = false) (inTime : elapsed first ≤ limit)
    (later : Waits done elapsed limit (first + 1) checks) :
    Waits done elapsed limit first checks := by
  intro check from_ before
  obtain rfl | after : check = first ∨ first + 1 ≤ check := by omega
  · exact ⟨off, inTime⟩
  · exact later check after before

theorem Waits.none (first : Nat) : Waits done elapsed limit first first :=
  fun check from_ before => absurd before (by omega)

/-- The outcome of a wait holds. -/
theorem poll_holds {rounds first : Nat} {outcome : Outcome}
    (ends : poll done elapsed limit rounds first = some outcome) :
    outcome.Holds done elapsed limit first := by
  induction rounds generalizing first with
  | zero => cases ends
  | succ rounds ih =>
      unfold poll at ends
      by_cases now : done first = true
      · rw [if_pos now] at ends
        obtain rfl := Option.some.inj ends
        exact ⟨.none first, now⟩
      · rw [if_neg now] at ends
        have off : done first = false := Bool.eq_false_iff.mpr now
        by_cases late : limit < elapsed first
        · rw [if_pos late] at ends
          obtain rfl := Option.some.inj ends
          exact ⟨.none first, off, late⟩
        · rw [if_neg late] at ends
          have inTime : elapsed first ≤ limit := by omega
          have later := ih ends
          cases outcome with
          | satisfied checks => exact ⟨.cons off inTime later.1, later.2⟩
          | gaveUp checks => exact ⟨.cons off inTime later.1, later.2⟩

/-- A wait that is still on has used up its rounds without a check after the limit. -/
theorem waits_of_poll_none {rounds first : Nat}
    (open_ : poll done elapsed limit rounds first = none) :
    Waits done elapsed limit first (first + rounds) := by
  induction rounds generalizing first with
  | zero => exact .none first
  | succ rounds ih =>
      unfold poll at open_
      by_cases now : done first = true
      · rw [if_pos now] at open_
        cases open_
      · rw [if_neg now] at open_
        by_cases late : limit < elapsed first
        · rw [if_pos late] at open_
          cases open_
        · rw [if_neg late] at open_
          have later := ih open_
          rw [show first + 1 + rounds = first + (rounds + 1) by omega] at later
          exact .cons (Bool.eq_false_iff.mpr now) (by omega) later

/-- When every round takes at least a period, the limit is passed after so many rounds. -/
theorem poll_ends {period rounds : Nat} (sleeps : ∀ check, period * check ≤ elapsed check)
    (enough : limit < period * rounds) :
    ∃ outcome, poll done elapsed limit (rounds + 1) 0 = some outcome := by
  cases ends : poll done elapsed limit (rounds + 1) 0 with
  | some outcome => exact ⟨outcome, rfl⟩
  | none =>
      obtain ⟨-, inTime⟩ := waits_of_poll_none ends rounds (Nat.zero_le _) (by omega)
      have slept := sleeps rounds
      omega

/-- A wait cannot outlast the checks before the limit. -/
theorem Outcome.Holds.checks_lt {period rounds : Nat} {outcome : Outcome}
    (holds : outcome.Holds done elapsed limit 0)
    (sleeps : ∀ check, period * check ≤ elapsed check) (enough : limit < period * rounds) :
    (match outcome with | .satisfied checks | .gaveUp checks => checks) ≤ rounds := by
  have bound : ∀ checks, Waits done elapsed limit 0 checks → checks ≤ rounds := by
    intro checks waits
    by_contra more
    have inTime := (waits rounds (Nat.zero_le _) (by omega)).2
    have slept := sleeps rounds
    omega
  cases outcome with
  | satisfied checks => exact bound checks holds.1
  | gaveUp checks => exact bound checks holds.1

/-- With enough rounds a wait gives up exactly if no check in time finds the condition.  The
first check after the limit is still in time. -/
theorem gaveUp_iff {period rounds : Nat} (sleeps : ∀ check, period * check ≤ elapsed check)
    (enough : limit < period * rounds) :
    (∃ checks, poll done elapsed limit (rounds + 1) 0 = some (.gaveUp checks)) ↔
      ∀ check, (∀ earlier < check, elapsed earlier ≤ limit) → done check = false := by
  constructor
  · rintro ⟨checks, ends⟩ check inTime
    obtain ⟨waits, off, late⟩ := poll_holds ends
    obtain before | same | after : check < checks ∨ check = checks ∨ checks < check := by omega
    · exact (waits check (Nat.zero_le _) before).1
    · rwa [same]
    · have early := inTime checks after
      omega
  · intro never
    obtain ⟨outcome, ends⟩ := @poll_ends done elapsed limit period rounds sleeps enough
    cases outcome with
    | gaveUp checks => exact ⟨checks, ends⟩
    | satisfied checks =>
        obtain ⟨waits, found⟩ := poll_holds ends
        have off := never checks fun earlier before => (waits earlier (Nat.zero_le _) before).2
        rw [found] at off
        cases off

end BumpinHost.BoundedWait
