import BumpinHost.Library.Transition
import Mathlib.Logic.Function.Basic

/-!
# Cells

Cells that are written and read in any order.  What a cell holds, and so what a read
gives, is what was written to it last.
-/

namespace BumpinHost.Cells

open Transition (System)

variable {Cell Value : Type*}

inductive Access (Cell Value : Type*)
  | write (cell : Cell) (value : Value)
  | read (cell : Cell) (value : Value)
deriving DecidableEq, Repr

variable [DecidableEq Cell]

/-- A write changes its cell alone; a read gives what the cell holds. -/
inductive Step : (Cell → Value) → Access Cell Value → (Cell → Value) → Prop
  | write (contents : Cell → Value) (cell : Cell) (value : Value) :
      Step contents (.write cell value) (Function.update contents cell value)
  | read (contents : Cell → Value) (cell : Cell) :
      Step contents (.read cell (contents cell)) contents

/-- Cells that all hold the same value at first. -/
def cells (initial : Value) : System (Cell → Value) (Access Cell Value) where
  init := (· = fun _ => initial)
  step := Step

/-- What an access leaves in a cell. -/
def Access.leaves (cell : Cell) (held : Value) : Access Cell Value → Value
  | .write other value => if other = cell then value else held
  | .read .. => held

/-- The value written to a cell last, or the one it held at first. -/
def lastWritten (initial : Value) (cell : Cell) (accesses : List (Access Cell Value)) : Value :=
  accesses.foldl (Access.leaves cell) initial

theorem Step.leaves {before after : Cell → Value} {access : Access Cell Value}
    (step : Step before access after) (cell : Cell) :
    after cell = access.leaves cell (before cell) := by
  cases step with
  | write other value => simp only [Access.leaves, Function.update_apply, eq_comm]
  | read => rfl

variable {initial : Value} {start final : Cell → Value} {accesses : List (Access Cell Value)}

theorem contents_eq (run : (cells initial).Run start accesses final) (cell : Cell) :
    final cell = lastWritten (start cell) cell accesses := by
  induction run with
  | refl => rfl
  | tail _ step ih =>
      rw [lastWritten, List.foldl_append, List.foldl_cons, List.foldl_nil, ← lastWritten, ← ih]
      exact Step.leaves step cell

/-- A read gives what was written last. -/
theorem read_eq {past future : List (Access Cell Value)} {cell : Cell} {value : Value}
    (run : (cells initial).Run start (past ++ .read cell value :: future) final) :
    value = lastWritten (start cell) cell past := by
  obtain ⟨middle, earlier, later⟩ := run.split
  obtain ⟨after, step, -⟩ := later.of_cons
  rw [← contents_eq earlier]
  generalize isRead : Access.read cell value = access at step
  cases step with
  | write => cases isRead
  | read =>
      obtain ⟨rfl, rfl⟩ := Access.read.inj isRead
      rfl

end BumpinHost.Cells
