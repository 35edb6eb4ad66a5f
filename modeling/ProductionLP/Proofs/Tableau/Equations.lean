import Mathlib.Algebra.BigOperators.Field
import Mathlib.Algebra.Module.Pi
import Mathlib.Tactic.FieldSimp
import Mathlib.Tactic.Linarith
import ProductionLP.Proofs.Tableau.Entry

/- Rows as equations.

   Every row of a tableau is an equation between a sum over the variables and its right-hand
   side. A vector leaves a residual in each row, and a pivot acts on the residuals as it acts
   on the entries (`residual_pivot`). So a pivot at an entry that is not zero does not change
   which vectors satisfy rows that the pivot row is among (`residual_eq_zero_pivot_iff`): the
   constraint rows (`solves_pivot_iff`) or all rows (`solvesAll_pivot_iff`). On the solutions of
   the constraint rows it keeps the residual of the objective row (`residual_zero_pivot`). -/
namespace ProductionLP.Tableau

open Finset

/-- The sum over the variables in a row. -/
def rowSum (t : Tableau Rat) (i : Nat) (z : Nat → Rat) : Rat :=
  ∑ j ∈ range (t.width - 1), t.entry i j * z j

/-- The right-hand side of a row. -/
def rhs (t : Tableau Rat) (i : Nat) : Rat := t.entry i (t.width - 1)

/-- By how much a vector misses the equation of a row. -/
def residual (t : Tableau Rat) (i : Nat) (z : Nat → Rat) : Rat := t.rowSum i z - t.rhs i

/-- The vector satisfies every constraint row. -/
def Solves (t : Tableau Rat) (z : Nat → Rat) : Prop :=
  ∀ i, 1 ≤ i → i < t.height → t.residual i z = 0

/-- The vector satisfies the equation of every row, the objective row included. -/
def SolvesAll (t : Tableau Rat) (z : Nat → Rat) : Prop :=
  ∀ i < t.height, t.rowSum i z = t.rhs i

variable {t : Tableau Rat} {r c : Nat}

theorem rowSum_add (t : Tableau Rat) (i : Nat) (z d : Nat → Rat) :
    t.rowSum i (z + d) = t.rowSum i z + t.rowSum i d := by
  simp only [rowSum, Pi.add_apply, mul_add, sum_add_distrib]

theorem rowSum_smul (t : Tableau Rat) (i : Nat) (a : Rat) (d : Nat → Rat) :
    t.rowSum i (a • d) = a * t.rowSum i d := by
  simp only [rowSum, Pi.smul_apply, smul_eq_mul, mul_left_comm, mul_sum]

/-- Adding to a vector adds the row sum of what is added to every residual. -/
theorem residual_add (t : Tableau Rat) (i : Nat) (z d : Nat → Rat) :
    t.residual i (z + d) = t.residual i z + t.rowSum i d := by
  rw [residual, rowSum_add, residual]
  ring

/-! ## Pivots -/

theorem rhs_pivot (hc : c < t.width) (i : Nat) :
    (t.pivot r c).rhs i =
      if i = r then t.rhs r / t.entry r c
      else t.rhs i - t.entry i c * (t.rhs r / t.entry r c) :=
  entry_pivot hc i (t.width - 1)

theorem rowSum_pivot (hc : c < t.width) (i : Nat) (z : Nat → Rat) :
    (t.pivot r c).rowSum i z =
      if i = r then t.rowSum r z / t.entry r c
      else t.rowSum i z - t.entry i c * (t.rowSum r z / t.entry r c) := by
  simp only [rowSum, width_pivot, entry_pivot hc]
  split
  · rw [sum_div]
    exact sum_congr rfl fun j _ => by ring
  · rw [sum_div, mul_sum, ← sum_sub_distrib]
    exact sum_congr rfl fun j _ => by ring

/-- A pivot acts on residuals as on entries. -/
theorem residual_pivot (hc : c < t.width) (i : Nat) (z : Nat → Rat) :
    (t.pivot r c).residual i z =
      if i = r then t.residual r z / t.entry r c
      else t.residual i z - t.entry i c * (t.residual r z / t.entry r c) := by
  rw [residual, rowSum_pivot hc, rhs_pivot hc]
  split
  · rw [residual, sub_div]
  · rw [residual, residual, sub_div]
    ring

/-- A pivot keeps the vectors that satisfy the equations of any rows with the pivot row among
    them. -/
theorem residual_eq_zero_pivot_iff (hc : c < t.width) (hp : t.entry r c ≠ 0) {P : Nat → Prop}
    (hr : P r) (z : Nat → Rat) :
    (∀ i, P i → (t.pivot r c).residual i z = 0) ↔ ∀ i, P i → t.residual i z = 0 := by
  -- the pivot row comes first: every other row changes by a multiple of it
  have hself : (t.pivot r c).residual r z = t.residual r z / t.entry r c := by
    rw [residual_pivot hc, if_pos rfl]
  constructor
  · intro h i hi
    have hzero : t.residual r z = 0 := by
      have := h r hr
      rw [hself, div_eq_zero_iff] at this
      exact this.resolve_right hp
    by_cases hir : i = r
    · rw [hir, hzero]
    · have := h i hi
      rw [residual_pivot hc, if_neg hir, hzero] at this
      simpa using this
  · intro h i hi
    have hzero := h r hr
    rw [residual_pivot hc]
    split
    · rw [hzero, zero_div]
    · rw [h i hi, hzero]
      ring

/-- A pivot in a constraint row keeps the solutions of the constraint rows. -/
theorem solves_pivot_iff (hc : c < t.width) (hr : 1 ≤ r) (hrt : r < t.height)
    (hp : t.entry r c ≠ 0) (z : Nat → Rat) : (t.pivot r c).Solves z ↔ t.Solves z := by
  simpa only [Solves, height_pivot, and_imp] using
    residual_eq_zero_pivot_iff (P := fun i => 1 ≤ i ∧ i < t.height) hc hp ⟨hr, hrt⟩ z

/-- A pivot keeps the solutions of all rows. -/
theorem solvesAll_pivot_iff (hc : c < t.width) (hrt : r < t.height) (hp : t.entry r c ≠ 0)
    (z : Nat → Rat) : (t.pivot r c).SolvesAll z ↔ t.SolvesAll z := by
  simpa only [SolvesAll, residual, sub_eq_zero, height_pivot] using
    residual_eq_zero_pivot_iff (P := (· < t.height)) hc hp hrt z

/-- On solutions a pivot in a constraint row keeps the residual of the objective row. -/
theorem residual_zero_pivot (hc : c < t.width) (hr : 1 ≤ r) (hrt : r < t.height)
    {z : Nat → Rat} (hz : t.Solves z) : (t.pivot r c).residual 0 z = t.residual 0 z := by
  rw [residual_pivot hc, if_neg (by omega), hz r hr hrt]
  ring

end ProductionLP.Tableau
