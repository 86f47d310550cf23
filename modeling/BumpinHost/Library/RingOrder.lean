import Mathlib.Data.Nat.Basic
import Mathlib.Tactic.SplitIfs

/-!
# Order on a ring

Positions on a ring are ordered as seen from one of them: the distance from a
position to another counts the steps forward, past the end of the ring if need be.
Unlike a circular order, this tells an empty stretch from a whole lap.
-/

namespace BumpinHost.RingOrder

/-- Steps forward from one position to another. -/
def distance (capacity first second : Nat) : Nat :=
  (second + (capacity - first)) % capacity

/-- Going forward from the first position, one meets the second no later than the third. -/
def Between (capacity first second third : Nat) : Prop :=
  distance capacity first second ≤ distance capacity first third

instance (capacity first second third : Nat) : Decidable (Between capacity first second third) :=
  inferInstanceAs (Decidable (_ ≤ _))

variable {capacity first second third last : Nat}

theorem distance_of_le (ordered : first ≤ second) (secondLt : second < capacity) :
    distance capacity first second = second - first := by
  have lap : second + (capacity - first) = second - first + capacity := by omega
  rw [distance, lap, Nat.add_mod_right, Nat.mod_eq_of_lt (by omega)]

theorem distance_of_lt (behind : second < first) (firstLt : first < capacity) :
    distance capacity first second = second + (capacity - first) :=
  Nat.mod_eq_of_lt (by omega)

theorem distance_eq (firstLt : first < capacity) (secondLt : second < capacity) :
    distance capacity first second =
      if first ≤ second then second - first else second + (capacity - first) := by
  split_ifs with ordered
  · exact distance_of_le ordered secondLt
  · exact distance_of_lt (Nat.lt_of_not_le ordered) firstLt

namespace Between

/-- Every position lies at or after the one counted from. -/
theorem start (firstLt : first < capacity) : Between capacity first first third := by
  rw [Between, distance_of_le (Nat.le_refl first) firstLt, Nat.sub_self]
  exact Nat.zero_le _

theorem of_le (ordered : first ≤ second) (secondLe : second ≤ third)
    (thirdLt : third < capacity) : Between capacity first second third := by
  rw [Between, distance_of_le ordered (by omega), distance_of_le (by omega) thirdLt]
  omega

/-- Before the end of the ring, when the third position lies beyond it. -/
theorem of_tail (ordered : first ≤ second) (secondLt : second < capacity)
    (beyond : third < first) : Between capacity first second third := by
  rw [Between, distance_of_le ordered secondLt, distance_of_lt beyond (by omega)]
  omega

/-- Beyond the end of the ring. -/
theorem of_head (secondLe : second ≤ third) (beyond : third < first)
    (firstLt : first < capacity) : Between capacity first second third := by
  rw [Between, distance_of_lt (by omega) firstLt, distance_of_lt beyond firstLt]
  omega

/-- What lies ahead of a position that lies ahead. -/
theorem trans (near : Between capacity first second last)
    (far : Between capacity second third last) (firstLt : first < capacity)
    (secondLt : second < capacity) (thirdLt : third < capacity) (lastLt : last < capacity) :
    Between capacity first third last := by
  unfold Between at *
  rw [distance_eq firstLt secondLt, distance_eq firstLt lastLt] at near
  rw [distance_eq secondLt thirdLt, distance_eq secondLt lastLt] at far
  rw [distance_eq firstLt thirdLt, distance_eq firstLt lastLt]
  split_ifs at near far ⊢
  all_goals omega

end Between

end BumpinHost.RingOrder
