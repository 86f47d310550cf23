import Mathlib.Data.List.Basic

/-!
# Computations in sequence that may fail

A sequence succeeds when all of its parts do, and otherwise fails as the first part
that fails.
-/

namespace BumpinHost.Fallible

universe u

variable {Error : Type*} {Value Result : Type u} {first : Except Error Value}
  {next : Value → Except Error Result}

theorem ok_bind (value : Value) (next : Value → Except Error Result) :
    (.ok value >>= next) = next value :=
  rfl

theorem bind_eq_ok_iff {result : Result} :
    (first >>= next) = .ok result ↔ ∃ value, first = .ok value ∧ next value = .ok result := by
  cases first with
  | error reason => simp [bind, Except.bind]
  | ok value => simp [bind, Except.bind]

theorem bind_eq_error_iff {reason : Error} :
    (first >>= next) = .error reason ↔
      first = .error reason ∨ ∃ value, first = .ok value ∧ next value = .error reason := by
  cases first with
  | error reason => simp [bind, Except.bind]
  | ok value => simp [bind, Except.bind]

end BumpinHost.Fallible
