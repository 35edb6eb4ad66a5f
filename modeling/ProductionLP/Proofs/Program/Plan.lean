import Mathlib.Algebra.BigOperators.Field
import Mathlib.Algebra.Module.Pi
import Mathlib.Tactic.Linarith
import Mathlib.Tactic.Ring
import ProductionLP.Proofs.Program.Valid

/- Plans.

   A program is read as the numbers `cost j`, `coefficient i j` and `bound i`. A plan is a
   vector that is not negative and keeps all constraints; its worth is its inner product with
   the costs. With one slack variable for each constraint the constraints become equations
   (`Balanced`), and the plans are the parts of the balanced vectors without a negative entry
   (`isPlan_of_balanced`, `withSlack_nonneg`). -/
namespace ProductionLP.Program

open Finset

section Numbers

variable {α : Type} [Zero α]

/-- What a unit of a variable is worth. -/
def cost (p : Program α) (j : Nat) : α := p.objective.entries.getD j 0

/-- What a unit of a variable uses of a constraint. -/
def coefficient (p : Program α) (i j : Nat) : α := p.coefficients.entries.getD (i * p.n.toNat + j) 0

/-- What there is of a constraint. -/
def bound (p : Program α) (i : Nat) : α := p.bounds.entries.getD i 0

/-- The coefficients of a constraint. -/
def row (p : Program α) (i : Nat) : List α :=
  (p.coefficients.entries.drop (i * p.n.toNat)).take p.n.toNat

theorem getD_row (p : Program α) (i : Nat) {j : Nat} (hj : j < p.n.toNat) :
    (p.row i).getD j 0 = p.coefficient i j := by
  rw [row, coefficient, List.getD_eq_getElem?_getD, List.getElem?_take, if_pos hj,
    List.getElem?_drop, List.getD_eq_getElem?_getD]

end Numbers

theorem IsValid.length_row {α : Type} [Scalar α] {p : Program α} (hp : p.IsValid) {i : Nat}
    (hi : i < p.m.toNat) : (p.row i).length = p.n.toNat := by
  have hsize := Block.size_of_matrix hp.coefficients_shape
  have hroom : (i + 1) * p.n.toNat ≤ p.m.toNat * p.n.toNat := Nat.mul_le_mul_right _ hi
  rw [Nat.add_mul, Nat.one_mul] at hroom
  rw [row, List.length_take, List.length_drop]
  omega

theorem IsValid.length_bounds {α : Type} [Scalar α] {p : Program α} (hp : p.IsValid) :
    p.bounds.entries.length = p.m.toNat :=
  Block.size_of_vector hp.bounds_shape

/-- The left-hand side of a constraint. -/
def load (p : Program Rat) (i : Nat) (x : Nat → Rat) : Rat :=
  ∑ j ∈ range p.n.toNat, p.coefficient i j * x j

/-- The objective at a vector. -/
def worth (p : Program Rat) (x : Nat → Rat) : Rat := ∑ j ∈ range p.n.toNat, p.cost j * x j

/-- A vector that is not negative and keeps all constraints. Entries past the number of
    variables play no part. -/
structure IsPlan (p : Program Rat) (x : Nat → Rat) : Prop where
  nonneg : ∀ j < p.n.toNat, 0 ≤ x j
  load_le : ∀ i < p.m.toNat, p.load i x ≤ p.bound i

/-- What a vector leaves of a constraint. -/
def slack (p : Program Rat) (x : Nat → Rat) (i : Nat) : Rat := p.bound i - p.load i x

/-- A vector followed by what it leaves of the constraints. -/
def withSlack (p : Program Rat) (x : Nat → Rat) (k : Nat) : Rat :=
  if k < p.n.toNat then x k else p.slack x (k - p.n.toNat)

/-- A vector of decision and slack variables that satisfies the constraints as equations. -/
def Balanced (p : Program Rat) (z : Nat → Rat) : Prop :=
  ∀ i < p.m.toNat, p.load i z + z (p.n.toNat + i) = p.bound i

variable {p : Program Rat} {x y z : Nat → Rat}

theorem load_congr (h : ∀ j < p.n.toNat, x j = y j) (i : Nat) : p.load i x = p.load i y :=
  sum_congr rfl fun j hj => by rw [h j (mem_range.1 hj)]

theorem worth_congr (h : ∀ j < p.n.toNat, x j = y j) : p.worth x = p.worth y :=
  sum_congr rfl fun j hj => by rw [h j (mem_range.1 hj)]

theorem load_add (p : Program Rat) (i : Nat) (x y : Nat → Rat) :
    p.load i (x + y) = p.load i x + p.load i y := by
  simp only [load, Pi.add_apply, mul_add, sum_add_distrib]

theorem worth_add (p : Program Rat) (x y : Nat → Rat) :
    p.worth (x + y) = p.worth x + p.worth y := by
  simp only [worth, Pi.add_apply, mul_add, sum_add_distrib]

theorem withSlack_of_lt {k : Nat} (h : k < p.n.toNat) : p.withSlack x k = x k := if_pos h

theorem withSlack_add (p : Program Rat) (x : Nat → Rat) (i : Nat) :
    p.withSlack x (p.n.toNat + i) = p.slack x i := by
  rw [withSlack, if_neg (by omega), Nat.add_sub_cancel_left]

theorem balanced_withSlack (p : Program Rat) (x : Nat → Rat) : p.Balanced (p.withSlack x) := by
  intro i _
  rw [withSlack_add, load_congr (y := x) (fun j hj => withSlack_of_lt hj), slack]
  ring

theorem worth_withSlack (p : Program Rat) (x : Nat → Rat) : p.worth (p.withSlack x) = p.worth x :=
  worth_congr fun _ hj => withSlack_of_lt hj

/-- The slack variables of a balanced vector are what its decision variables leave. -/
theorem Balanced.slack_eq (h : p.Balanced z) {i : Nat} (hi : i < p.m.toNat) :
    p.slack z i = z (p.n.toNat + i) := by
  have := h i hi
  rw [slack]
  linarith

/-- A balanced vector without a negative entry is a plan. -/
theorem isPlan_of_balanced (h : p.Balanced z)
    (hz : ∀ k < p.n.toNat + p.m.toNat, 0 ≤ z k) : p.IsPlan z := by
  refine ⟨fun j hj => hz j (by omega), fun i hi => ?_⟩
  have hslack := h.slack_eq hi
  have hpos := hz (p.n.toNat + i) (by omega)
  rw [← hslack, slack] at hpos
  linarith

/-- With its slack a plan has no negative entry. -/
theorem IsPlan.withSlack_nonneg (h : p.IsPlan x) {k : Nat} (hk : k < p.n.toNat + p.m.toNat) :
    0 ≤ p.withSlack x k := by
  rw [withSlack]
  split
  · next hlt => exact h.nonneg k hlt
  · next hge =>
    have := h.load_le (k - p.n.toNat) (by omega)
    rw [slack]
    linarith

/-- The bounds of a valid program are not negative. -/
theorem IsValid.bound_nonneg (hp : p.IsValid) (i : Nat) : 0 ≤ p.bound i := by
  rw [bound, List.getD_eq_getElem?_getD]
  rcases Nat.lt_or_ge i p.bounds.entries.length with hi | hi
  · rw [List.getElem?_eq_getElem hi]
    have hlt : decide (p.bounds.entries[i] < 0) = false :=
      hp.bounds_nonneg _ (List.getElem_mem hi)
    simpa using hlt
  · rw [List.getElem?_eq_none hi]
    exact le_refl 0

end ProductionLP.Program
