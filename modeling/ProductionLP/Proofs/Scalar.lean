import Mathlib.Algebra.Order.AbsoluteValue.Basic
import Mathlib.Algebra.Order.Field.Rat
import ProductionLP.Scalar

/- Exact numbers.

   On rationals the comparisons and the magnitude of the method are the usual ones, and every
   number is equal to itself. -/
namespace ProductionLP.Scalar

variable {a b : Rat}

@[simp] theorem lt_iff : lt a b = true ↔ a < b := decide_eq_true_iff

@[simp] theorem le_iff : le a b = true ↔ a ≤ b := decide_eq_true_iff

@[simp] theorem eq_iff : eq a b = true ↔ a = b := decide_eq_true_iff

theorem abs_eq (a : Rat) : abs a = |a| := by
  show (if a < 0 then -a else a) = |a|
  split
  · next h => rw [abs_of_neg h]
  · next h => rw [abs_of_nonneg (not_lt.1 h)]

@[simp] theorem undefined_eq (a : Rat) : undefined a = false := by
  rw [undefined, eq_iff.2 rfl, Bool.not_true]

end ProductionLP.Scalar
