import Mathlib.Algebra.Order.BigOperators.Group.Finset
import ProductionLP.Proofs.Snapshots

/- Shadow prices.

   The objective row holds a price for every constraint, in the column of its slack variable.

   1. On a stage that represents a program the prices account for the whole objective row: a
      reduced cost is what a unit of the variable uses at these prices less what it is worth,
      and the corner is what there is of all constraints at these prices
      (`Represents.entry_zero_eq`, `Represents.corner_eq`).
   2. A constraint of which the basic solution leaves something has no price
      (`Represents.price_mul_slack`).
   3. Prices that are not negative and charge every variable at least its worth bound the worth
      of every plan (`worth_le_stock`). The last prices of an optimal run are of this kind.

   None of this asks whether basic solutions are plans, so it holds with any tolerance: on
   `thinRow` the reported plan is no plan, and the reported objective is a bound all the same. -/
namespace ProductionLP

open Finset

namespace Program

/-- The price of a constraint: the objective row in the column of its slack variable. -/
def price (p : Program Rat) (t : Tableau Rat) (i : Nat) : Rat := t.entry 0 (p.n.toNat + i)

/-- What a unit of a variable uses, at given prices. -/
def charge (p : Program Rat) (y : Nat → Rat) (j : Nat) : Rat :=
  ∑ i ∈ range p.m.toNat, p.coefficient i j * y i

/-- What there is of all constraints, at given prices. -/
def stock (p : Program Rat) (y : Nat → Rat) : Rat := ∑ i ∈ range p.m.toNat, p.bound i * y i

variable {p : Program Rat} {g : Stage Rat} {x y : Nat → Rat}

/-! ## Prices of a program -/

theorem load_zero (p : Program Rat) (i : Nat) : p.load i 0 = 0 :=
  sum_eq_zero fun _ _ => mul_zero _

theorem worth_zero (p : Program Rat) : p.worth 0 = 0 := sum_eq_zero fun _ _ => mul_zero _

/-- A sum at a single unit of a variable. -/
theorem sum_mul_single {n j : Nat} (hj : j < n) (f : Nat → Rat) :
    ∑ k ∈ range n, f k * (Pi.single j 1 : Nat → Rat) k = f j := by
  rw [sum_eq_single_of_mem j (mem_range.2 hj), Pi.single_eq_same, mul_one]
  intro k _ hk
  rw [Pi.single_eq_of_ne hk, mul_zero]

theorem load_single {j : Nat} (hj : j < p.n.toNat) (i : Nat) :
    p.load i (Pi.single j 1) = p.coefficient i j :=
  sum_mul_single hj (p.coefficient i)

theorem worth_single {j : Nat} (hj : j < p.n.toNat) : p.worth (Pi.single j 1) = p.cost j :=
  sum_mul_single hj p.cost

/-- Charging the variables comes to the same as pricing the loads. -/
theorem sum_charge_mul (p : Program Rat) (y x : Nat → Rat) :
    ∑ j ∈ range p.n.toNat, p.charge y j * x j = ∑ i ∈ range p.m.toNat, p.load i x * y i := by
  simp only [charge, load, sum_mul]
  rw [sum_comm]
  exact sum_congr rfl fun i _ => sum_congr rfl fun j _ => by ring

/-- Prices that charge every variable at least its worth bound the worth of every plan. -/
theorem worth_le_stock (hy : ∀ i < p.m.toNat, 0 ≤ y i)
    (hcharge : ∀ j < p.n.toNat, p.cost j ≤ p.charge y j) (hx : p.IsPlan x) :
    p.worth x ≤ p.stock y := by
  calc p.worth x ≤ ∑ j ∈ range p.n.toNat, p.charge y j * x j :=
        sum_le_sum fun j hj => mul_le_mul_of_nonneg_right (hcharge j (mem_range.1 hj))
          (hx.nonneg j (mem_range.1 hj))
    _ = ∑ i ∈ range p.m.toNat, p.load i x * y i := p.sum_charge_mul y x
    _ ≤ p.stock y :=
        sum_le_sum fun i hi => mul_le_mul_of_nonneg_right (hx.load_le i (mem_range.1 hi))
          (hy i (mem_range.1 hi))

/-! ## Prices of a stage -/

/-- The objective row is made of the prices of the constraints, and what the basic solution
    leaves of the constraints is worth nothing at these prices. -/
structure PricedAt (p : Program Rat) (g : Stage Rat) : Prop where
  reducedCost : ∀ j < p.n.toNat,
    g.tableau.entry 0 j = p.charge (p.price g.tableau) j - p.cost j
  corner : g.tableau.rhs 0 = p.stock (p.price g.tableau)
  slack : ∃ x, g.IsBasicSolution x ∧
    ∀ i < p.m.toNat, p.price g.tableau i * p.slack x i = 0

namespace Represents

/-- The objective row at any vector, with what the vector leaves of the constraints priced. -/
theorem sum_reducedCosts (h : p.Represents g) (x : Nat → Rat) :
    ∑ j ∈ range p.n.toNat, g.tableau.entry 0 j * x j +
        ∑ i ∈ range p.m.toNat, p.price g.tableau i * p.slack x i =
      g.tableau.rhs 0 - p.worth x := by
  have hrow : g.tableau.rowSum 0 (p.withSlack x) =
      ∑ j ∈ range p.n.toNat, g.tableau.entry 0 j * x j +
        ∑ i ∈ range p.m.toNat, p.price g.tableau i * p.slack x i := by
    rw [Tableau.rowSum, h.width, Nat.add_sub_cancel, sum_range_add]
    congr 1
    · exact sum_congr rfl fun j hj => by rw [withSlack_of_lt (mem_range.1 hj)]
    · exact sum_congr rfl fun i _ => by rw [withSlack_add, price]
  have hworth := h.worth_eq_rowSum (p.balanced_withSlack x)
  rw [worth_withSlack, hrow] at hworth
  linarith

/-- The corner is what there is of the constraints, at their prices. -/
theorem corner_eq (h : p.Represents g) : g.tableau.rhs 0 = p.stock (p.price g.tableau) := by
  have hsum := h.sum_reducedCosts 0
  simp only [slack, load_zero, worth_zero, Pi.zero_apply, mul_zero, sum_const_zero, zero_add,
    sub_zero] at hsum
  rw [← hsum, stock]
  exact sum_congr rfl fun i _ => mul_comm _ _

/-- A reduced cost is what a unit of the variable uses at the prices, less what it is worth. -/
theorem entry_zero_eq (h : p.Represents g) {j : Nat} (hj : j < p.n.toNat) :
    g.tableau.entry 0 j = p.charge (p.price g.tableau) j - p.cost j := by
  have hsum := h.sum_reducedCosts (Pi.single j 1)
  have hleft : ∑ i ∈ range p.m.toNat, p.price g.tableau i * p.slack (Pi.single j 1) i =
      p.stock (p.price g.tableau) - p.charge (p.price g.tableau) j := by
    rw [stock, charge, ← sum_sub_distrib]
    exact sum_congr rfl fun i _ => by rw [slack, load_single hj]; ring
  rw [sum_mul_single hj, hleft, worth_single hj, h.corner_eq] at hsum
  linarith

/-- Of a constraint with a price the basic solution leaves nothing: its slack variable is not
    basic. -/
theorem price_mul_slack (h : p.Represents g) {i : Nat} (hi : i < p.m.toNat) :
    p.price g.tableau i * p.slack g.plan i = 0 := by
  rw [h.balanced_plan.slack_eq hi, price]
  by_cases hmem : p.n.toNat + i ∈ g.basis
  · rw [h.entry_zero_of_mem hmem, zero_mul]
  · rw [Stage.plan_of_not_mem hmem, mul_zero]

theorem pricedAt (h : p.Represents g) : p.PricedAt g :=
  ⟨fun _ hj => h.entry_zero_eq hj, h.corner_eq,
    g.plan, Stage.isBasicSolution_plan h.nodup, fun _ hi => h.price_mul_slack hi⟩

/-- When no reduced cost is negative, the prices charge every variable at least its worth. -/
theorem cost_le_charge (h : p.Represents g)
    (hcosts : ∀ j < p.n.toNat + p.m.toNat, 0 ≤ g.tableau.entry 0 j) {j : Nat}
    (hj : j < p.n.toNat) : p.cost j ≤ p.charge (p.price g.tableau) j := by
  have hnonneg := hcosts j (by omega)
  rw [h.entry_zero_eq hj] at hnonneg
  linarith

end Represents

end Program

variable {s : Settings Rat} {p : Program Rat}

/-- **Shadow prices certify the result.** They account for the objective row of every snapshot
    and charge nothing for what the basic solution leaves. The last prices of an optimal run are
    not negative and charge every variable at least its worth, so the objective that they come
    to bounds the worth of every plan. The tolerance plays no part. -/
theorem solve_priced (hvalid : p.validate = .ok ()) (htol : 0 ≤ s.pivotTol) :
    ∃ tr sol, trace s p = .ok tr ∧ solve s p = .ok sol ∧ sol.snapshots = tr.snapshots ∧
      (∀ (k : Nat) (sn : Snapshot Rat), tr.snapshots[k]? = some sn →
        p.PricedAt ⟨sn.tableau, tr.basisAt (slackBasis p.n.toNat p.m.toNat) k⟩) ∧
      (sol.status = .optimal → ∃ sn z, sol.snapshots.getLast? = some sn ∧
        sol.objective = .value z ∧ z = p.stock (p.price sn.tableau) ∧
        (∀ i < p.m.toNat, 0 ≤ p.price sn.tableau i) ∧
        (∀ j < p.n.toNat, p.cost j ≤ p.charge (p.price sn.tableau) j) ∧
        ∀ x, p.IsPlan x → p.worth x ≤ z) := by
  obtain ⟨g, tr, htrace, hrun⟩ := trace_of_isValid s ((Program.validate_eq_ok_iff p).1 hvalid)
  obtain ⟨status, hend, hsolve⟩ := hrun.solve_eq_ok htrace htol
  refine ⟨tr, _, htrace, hsolve, tr.snapshots_solution s p status,
    fun k sn hsn => ((hrun.canonical htol).represents k sn hsn).pricedAt, fun hstatus => ?_⟩
  rw [Trace.status_solution] at hstatus
  subst hstatus
  obtain ⟨sn, hget, htableau⟩ :=
    hrun.follows.getLast?_snapshots (by rw [hend]; exact fun h => by cases h)
  have hlast := hrun.represents_last htol
  have hcosts : ∀ j < p.n.toNat + p.m.toNat, 0 ≤ tr.last.tableau.entry 0 j := fun j hj =>
    hlast.reducedCost_nonneg (hrun.entering_of_optimal htol hend) hj
  have hprice : ∀ i < p.m.toNat, 0 ≤ p.price tr.last.tableau i := fun i hi =>
    hcosts _ (by omega)
  have hcharge : ∀ j < p.n.toNat, p.cost j ≤ p.charge (p.price tr.last.tableau) j := fun j hj =>
    hlast.cost_le_charge hcosts hj
  refine ⟨sn, tr.last.tableau.rhs 0, ?_, rfl, ?_, ?_, ?_, fun x hx => ?_⟩
  · rw [Trace.snapshots_solution]
    exact hget
  · rw [htableau]
    exact hlast.corner_eq
  · rw [htableau]
    exact hprice
  · rw [htableau]
    exact hcharge
  · rw [hlast.corner_eq]
    exact Program.worth_le_stock hprice hcharge hx

/-- The tolerance hides an entry of the thin row, and the run ends with a basic solution that
    is no plan. The prices are what they should be. -/
theorem solve_priced_thinRow :
    thinRow.validate = .ok () ∧ 0 ≤ blunt.pivotTol ∧
      ∃ tr sol, trace blunt thinRow = .ok tr ∧ solve blunt thinRow = .ok sol ∧
        ¬ tr.Harmless blunt.rule blunt.pivotTol ∧
        (∀ (k : Nat) (sn : Snapshot Rat), tr.snapshots[k]? = some sn →
          thinRow.PricedAt ⟨sn.tableau, tr.basisAt (slackBasis 2 2) k⟩) ∧
        ∃ sn z, sol.snapshots.getLast? = some sn ∧ sol.objective = .value z ∧
          z = thinRow.stock (thinRow.price sn.tableau) ∧
          (∀ i < 2, 0 ≤ thinRow.price sn.tableau i) ∧
          (∀ j < 2, thinRow.cost j ≤ thinRow.charge (thinRow.price sn.tableau) j) ∧
          ∀ x, thinRow.IsPlan x → thinRow.worth x ≤ z := by
  have hvalid : thinRow.validate = .ok () := rfl
  have htol : 0 ≤ blunt.pivotTol := by decide +kernel
  obtain ⟨tr, htrace, hharmful⟩ :
      ∃ tr, trace blunt thinRow = .ok tr ∧ ¬ tr.Harmless blunt.rule blunt.pivotTol :=
    exists_of_mem_toOption (by decide +kernel)
  obtain ⟨sol, hsolve, hstatus⟩ :
      ∃ sol, solve blunt thinRow = .ok sol ∧ sol.status = .optimal :=
    exists_of_mem_toOption (by decide +kernel)
  obtain ⟨tr', sol', htrace', hsolve', _, hpriced, hoptimal⟩ := solve_priced hvalid htol
  cases htrace.symm.trans htrace'
  cases hsolve.symm.trans hsolve'
  exact ⟨hvalid, htol, tr, sol, htrace, hsolve, hharmful, hpriced, hoptimal hstatus⟩

end ProductionLP
