import Mathlib.Data.List.Infix
import Mathlib.Data.Nat.ModEq

/-!
# Streams of records on a ring

A stream is a list of nonempty records of varying length, laid out one after
another.  On a ring of a fixed capacity the stream positions wrap; a record that
lies wholly inside the ring never straddles the wrap.
-/

namespace BumpinHost.RecordStream

variable {Element : Type*}

/-- Where record number `n` starts. -/
def position (records : List (List Element)) (n : Nat) : Nat :=
  (records.take n).flatten.length

@[simp]
theorem position_zero (records : List (List Element)) : position records 0 = 0 := rfl

theorem position_succ {records : List (List Element)} {n : Nat} (indexLt : n < records.length) :
    position records (n + 1) = position records n + records[n].length := by
  rw [position, ← List.take_append_getElem indexLt, List.flatten_append, List.length_append]
  simp [position]

theorem position_append_left (records more : List (List Element)) {n : Nat}
    (indexLe : n ≤ records.length) : position (records ++ more) n = position records n := by
  rw [position, List.take_append_of_le_length indexLe, position]

theorem position_le_of_le {records : List (List Element)} {first second : Nat}
    (ordered : first ≤ second) : position records first ≤ position records second := by
  exact (List.take_prefix_take_left ordered).flatten.length_le

section Nonempty

variable {records : List (List Element)}
  (nonempty : ∀ n (indexLt : n < records.length), 0 < records[n].length)

include nonempty

theorem position_lt_of_lt {first second : Nat} (ordered : first < second)
    (secondLe : second ≤ records.length) : position records first < position records second := by
  have step : position records (first + 1) = position records first + records[first].length :=
    position_succ (by omega)
  have positive := nonempty first (by omega)
  have rest : position records (first + 1) ≤ position records second :=
    position_le_of_le ordered
  omega

theorem le_of_position_le {first second : Nat} (firstLe : first ≤ records.length)
    (positionLe : position records first ≤ position records second) : first ≤ second := by
  by_contra ordered
  have strict := position_lt_of_lt nonempty (Nat.lt_of_not_le ordered) firstLe
  omega

theorem eq_of_position_eq {first second : Nat} (firstLe : first ≤ records.length)
    (secondLe : second ≤ records.length)
    (positionEq : position records first = position records second) : first = second :=
  Nat.le_antisymm (le_of_position_le nonempty firstLe (Nat.le_of_eq positionEq))
    (le_of_position_le nonempty secondLe (Nat.le_of_eq positionEq.symm))

end Nonempty

section Capacity

variable {capacity first second : Nat}

/-- Positions less than one lap apart have different slots. -/
theorem mod_ne_of_lt (ordered : first < second) (withinLap : second < first + capacity) :
    first % capacity ≠ second % capacity := by
  intro same
  have divides : capacity ∣ second - first :=
    (Nat.modEq_iff_dvd' (Nat.le_of_lt ordered)).mp same
  have lap := Nat.le_of_dvd (by omega) divides
  omega

/-- The distance to a later position of the same lap. -/
theorem eq_add_of_mod_le (ordered : first ≤ second) (withinLap : second < first + capacity)
    (slotLe : first % capacity ≤ second % capacity) :
    second = first + (second % capacity - first % capacity) := by
  have positive : 0 < capacity := by omega
  have firstSplit := Nat.div_add_mod first capacity
  have secondSplit := Nat.div_add_mod second capacity
  have firstLt := Nat.mod_lt first positive
  have secondLt := Nat.mod_lt second positive
  have laps : second / capacity = first / capacity := by
    apply Nat.le_antisymm
    · by_contra later
      have next : first / capacity + 1 ≤ second / capacity := by omega
      have scaled := Nat.mul_le_mul_left capacity next
      rw [Nat.mul_add, Nat.mul_one] at scaled
      omega
    · exact Nat.div_le_div_right ordered
  rw [laps] at secondSplit
  omega

/-- The distance to a position of the next lap. -/
theorem eq_add_of_mod_lt (ordered : first ≤ second) (withinLap : second < first + capacity)
    (slotLt : second % capacity < first % capacity) :
    second = first + (capacity - first % capacity) + second % capacity := by
  have positive : 0 < capacity := by omega
  have firstSplit := Nat.div_add_mod first capacity
  have secondSplit := Nat.div_add_mod second capacity
  have firstLt := Nat.mod_lt first positive
  have laps : second / capacity = first / capacity + 1 := by
    apply Nat.le_antisymm
    · by_contra later
      have next : first / capacity + 2 ≤ second / capacity := by omega
      have scaled := Nat.mul_le_mul_left capacity next
      rw [Nat.mul_add] at scaled
      omega
    · by_contra same
      have equal : second / capacity ≤ first / capacity := by omega
      have scaled := Nat.mul_le_mul_left capacity equal
      omega
  rw [laps, Nat.mul_add, Nat.mul_one] at secondSplit
  omega

/-- The distance to a slot behind one's own, which may be the end of the ring. -/
theorem eq_add_of_behind {slot : Nat} (slots : first % capacity = slot % capacity)
    (slotLe : slot ≤ capacity) (ordered : first ≤ second)
    (withinLap : second < first + capacity) (behind : second % capacity < slot) :
    second = first + (capacity - slot) + second % capacity := by
  rcases Nat.lt_or_ge slot capacity with inRing | atEnd
  · rw [Nat.mod_eq_of_lt inRing] at slots
    have wrapped := eq_add_of_mod_lt ordered withinLap (by omega)
    rwa [slots] at wrapped
  · obtain rfl : slot = capacity := by omega
    rw [Nat.mod_self] at slots
    have sameLap := eq_add_of_mod_le ordered withinLap (by omega)
    omega

/-- If no record straddles the end of the ring, every end of the ring that the stream
has reached is a record boundary. -/
theorem exists_position_eq {records : List (List Element)} {boundary count : Nat}
    (countLe : count ≤ records.length) (atEnd : boundary % capacity = 0)
    (reached : boundary ≤ position records count)
    (inside : ∀ n (indexLt : n < records.length),
      position records n % capacity + records[n].length ≤ capacity) :
    ∃ n, n ≤ count ∧ position records n = boundary := by
  induction count with
  | zero =>
      refine ⟨0, Nat.le_refl 0, ?_⟩
      rw [position_zero] at reached ⊢
      omega
  | succ count ih =>
      by_cases before : boundary ≤ position records count
      · obtain ⟨n, indexLe, found⟩ := ih (by omega) before
        exact ⟨n, by omega, found⟩
      · have step : position records (count + 1) =
            position records count + records[count].length := position_succ (by omega)
        have fits := inside count (by omega)
        have recordSplit := Nat.div_add_mod (position records count) capacity
        have boundarySplit := Nat.div_add_mod boundary capacity
        rw [atEnd, Nat.add_zero] at boundarySplit
        have nextLap : position records count / capacity + 1 ≤ boundary / capacity := by
          by_contra sameLap
          have lapLe : boundary / capacity ≤ position records count / capacity := by omega
          have scaled := Nat.mul_le_mul_left capacity lapLe
          omega
        have scaled := Nat.mul_le_mul_left capacity nextLap
        rw [Nat.mul_add, Nat.mul_one] at scaled
        exact ⟨count + 1, Nat.le_refl _, by omega⟩

end Capacity

end BumpinHost.RecordStream
