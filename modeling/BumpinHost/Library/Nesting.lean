import Mathlib.Data.List.Infix

/-!
# Scanning up to a closing item

Items open or close a level, or do neither.  A scan that starts at some depth takes
items until one closes the last level.  It takes a given list, and stops at the closing
item behind it, exactly when no prefix of the list closes all levels and the whole list
closes all but one.
-/

namespace BumpinHost.Nesting

inductive Kind
  | opens
  | closes
  | neither
deriving DecidableEq, Repr

variable {Item : Type*} (kind : Item → Kind)

/-- The items in front of the one that closes the last level. -/
def taken : Nat → List Item → List Item
  | _, [] => []
  | depth, item :: rest =>
      match kind item with
      | .opens => item :: taken (depth + 1) rest
      | .closes => if depth - 1 = 0 then [] else item :: taken (depth - 1) rest
      | .neither => item :: taken depth rest

def opened (items : List Item) : Nat :=
  items.countP fun item => kind item = .opens

def closed (items : List Item) : Nat :=
  items.countP fun item => kind item = .closes

/-- No prefix closes all levels, and one level is left open at the end. -/
structure Settles (depth : Nat) (items : List Item) : Prop where
  open_prefix : ∀ front, front <+: items → closed kind front < depth + opened kind front
  one_left : depth + opened kind items = closed kind items + 1

variable {kind} {depth : Nat} {item : Item} {items rest : List Item}

theorem settles_nil : Settles kind depth [] ↔ depth = 1 := by
  constructor
  · exact fun settles => settles.one_left
  · rintro rfl
    refine ⟨fun front shorter => ?_, rfl⟩
    rw [List.prefix_nil.mp shorter]
    exact Nat.zero_lt_one

variable (kind item) in
theorem opened_cons (front : List Item) :
    opened kind (item :: front) = opened kind [item] + opened kind front := by
  change opened kind ([item] ++ front) = _
  exact List.countP_append

variable (kind item) in
theorem closed_cons (front : List Item) :
    closed kind (item :: front) = closed kind [item] + closed kind front := by
  change closed kind ([item] ++ front) = _
  exact List.countP_append

/-- A list settles when its tail does from the depth behind its first item. -/
theorem settles_cons {later : Nat} (positive : 0 < depth)
    (step : depth + opened kind [item] = later + closed kind [item]) :
    Settles kind depth (item :: items) ↔ 0 < later ∧ Settles kind later items := by
  have openedCons := opened_cons kind item
  have closedCons := closed_cons kind item
  constructor
  · intro settles
    have first := settles.open_prefix [item] ⟨items, rfl⟩
    refine ⟨by omega, fun front shorter => ?_, ?_⟩
    · have whole := settles.open_prefix (item :: front) ((List.prefix_cons_inj item).mpr shorter)
      rw [openedCons, closedCons] at whole
      omega
    · have whole := settles.one_left
      rw [openedCons, closedCons] at whole
      omega
  · rintro ⟨laterPositive, settles⟩
    refine ⟨fun front shorter => ?_, ?_⟩
    · obtain rfl | ⟨front, rfl, inTail⟩ := List.prefix_cons_iff.mp shorter
      · exact Nat.lt_of_lt_of_le positive (Nat.le_add_right depth _)
      · have rest := settles.open_prefix front inTail
        rw [openedCons, closedCons]
        omega
    · have rest := settles.one_left
      rw [openedCons, closedCons]
      omega

theorem settles_opens (positive : 0 < depth) (opens : kind item = .opens) :
    Settles kind depth (item :: items) ↔ Settles kind (depth + 1) items := by
  have step : depth + opened kind [item] = depth + 1 + closed kind [item] := by
    simp [opened, closed, opens]
  rw [settles_cons positive step]
  exact and_iff_right (Nat.succ_pos depth)

theorem settles_closes (positive : 0 < depth) (closes : kind item = .closes) :
    Settles kind depth (item :: items) ↔ 0 < depth - 1 ∧ Settles kind (depth - 1) items := by
  have step : depth + opened kind [item] = depth - 1 + closed kind [item] := by
    simp [opened, closed, closes]
    omega
  exact settles_cons positive step

theorem settles_neither (positive : 0 < depth) (neither : kind item = .neither) :
    Settles kind depth (item :: items) ↔ Settles kind depth items := by
  have step : depth + opened kind [item] = depth + closed kind [item] := by
    simp [opened, closed, neither]
  rw [settles_cons positive step]
  exact and_iff_right positive

/-- What a scan takes, by cases on the first item. -/
theorem taken_opens (opens : kind item = .opens) :
    taken kind depth (item :: rest) = item :: taken kind (depth + 1) rest := by
  rw [taken, opens]

theorem taken_closes (closes : kind item = .closes) :
    taken kind depth (item :: rest) =
      if depth - 1 = 0 then [] else item :: taken kind (depth - 1) rest := by
  rw [taken, closes]

theorem taken_neither (neither : kind item = .neither) :
    taken kind depth (item :: rest) = item :: taken kind depth rest := by
  rw [taken, neither]

/-- The scan takes exactly the items in front of a closing item when they settle.  The
induction is on the items. -/
theorem taken_eq_iff {closing : Item} (closes : kind closing = .closes)
    (positive : 0 < depth) :
    taken kind depth (items ++ closing :: rest) = items ↔ Settles kind depth items := by
  induction items generalizing depth with
  | nil =>
      rw [List.nil_append, taken_closes closes, settles_nil]
      by_cases last : depth - 1 = 0
      · rw [if_pos last]
        exact iff_of_true rfl (by omega)
      · rw [if_neg last]
        exact iff_of_false (List.cons_ne_nil _ _) (by omega)
  | cons item items ih =>
      rw [List.cons_append]
      cases sort : kind item with
      | opens =>
          rw [taken_opens sort, List.cons_inj_right, ih (Nat.succ_pos depth),
            settles_opens positive sort]
      | closes =>
          rw [taken_closes sort, settles_closes positive sort]
          by_cases last : depth - 1 = 0
          · rw [if_pos last]
            exact iff_of_false (List.cons_ne_nil _ _).symm (by omega)
          · rw [if_neg last, List.cons_inj_right, ih (by omega)]
            exact (and_iff_right (by omega)).symm
      | neither =>
          rw [taken_neither sort, List.cons_inj_right, ih positive,
            settles_neither positive sort]

end BumpinHost.Nesting
