import Mathlib.Data.List.Infix

/-!
# Devices with a sticky failure

A device answers calls.  Some calls make it fail, and from then on it answers as a
failed device.  Its answers depend on nothing but the call as long as no call that
is answered after a failure would have been answered differently before.
-/

namespace BumpinHost.StickyFailure

structure Device (Call Answer : Type*) where
  /-- The call makes a working device fail. -/
  fails : Call → Bool
  working : Call → Answer
  failed : Call → Answer

namespace Device

variable {Call Answer : Type*} (device : Device Call Answer)

def answer (hasFailed : Bool) (call : Call) : Answer :=
  if hasFailed then device.failed call else device.working call

def next (hasFailed : Bool) (call : Call) : Bool := hasFailed || device.fails call

def afterCalls (hasFailed : Bool) (calls : List Call) : Bool :=
  calls.foldl device.next hasFailed

/-- Each call is answered as if it were the first one. -/
def HistoryFree (hasFailed : Bool) (calls : List Call) : Prop :=
  ∀ past call, past ++ [call] <+: calls →
    device.answer (device.afterCalls hasFailed past) call = device.answer hasFailed call

theorem afterCalls_eq (hasFailed : Bool) (calls : List Call) :
    device.afterCalls hasFailed calls = (hasFailed || calls.any device.fails) := by
  induction calls generalizing hasFailed with
  | nil => simp [afterCalls]
  | cons call calls ih =>
      change device.afterCalls (device.next hasFailed call) calls = _
      rw [ih, next, List.any_cons, Bool.or_assoc]

theorem historyFree_iff (hasFailed : Bool) (calls : List Call) :
    device.HistoryFree hasFailed calls ↔
      hasFailed = true ∨ ∀ past call, past ++ [call] <+: calls →
        (∃ earlier ∈ past, device.fails earlier = true) →
          device.failed call = device.working call := by
  unfold HistoryFree
  cases hasFailed with
  | true =>
      refine iff_of_true ?_ (.inl rfl)
      intro past call _
      rw [afterCalls_eq, Bool.true_or]
  | false =>
      simp only [afterCalls_eq, Bool.false_or, Bool.false_eq_true, false_or]
      apply forall_congr'
      intro past
      apply forall_congr'
      intro call
      apply imp_congr_right
      intro _
      rw [← List.any_eq_true]
      cases past.any device.fails <;> simp [answer]

end Device

end BumpinHost.StickyFailure
