import Mathlib.Algebra.Order.BigOperators.Group.Finset
import ProductionLP.Proofs.Solve

/- What the outcomes of a run mean.

   The last stage of a run stands for the program, so its objective row prices every plan:
   the worth of a plan is the corner less the reduced costs of the variables that are not
   basic (`Represents.worth_eq`).

   1. When no column enters, no reduced cost is negative, the corner bounds the worth of every
      plan (`Represents.worth_le`), and the basic solution attains it: an optimal solution
      reports the greatest worth (`objective_isGreatest`).
   2. When a column enters and no row leaves, no entry of the column stops its variable from
      growing (`Represents.isPlan_move`), and the worth grows with it past every number
      (`exists_isPlan_worth_gt`).

   Both need basic solutions that are plans, and so a tolerance that hides nothing. -/
namespace ProductionLP

variable {s : Settings Rat} {p : Program Rat} {g : Stage Rat} {tr : Trace Rat}
  {sol : Solution Rat}

namespace Program.Represents

/-! ## No column enters -/

/-- The corner bounds the worth of every plan when no reduced cost is negative. -/
theorem worth_le (h : p.Represents g)
    (hcosts : ∀ j < p.n.toNat + p.m.toNat, 0 ≤ g.tableau.entry 0 j) {x : Nat → Rat}
    (hx : p.IsPlan x) : p.worth x ≤ g.tableau.rhs 0 := by
  have hfree : 0 ≤ g.freeSum 0 (p.withSlack x) := by
    apply Finset.sum_nonneg
    intro j hj
    rw [Finset.mem_filter, Finset.mem_range, h.width] at hj
    exact mul_nonneg (hcosts j hj.1) (hx.withSlack_nonneg hj.1)
  calc p.worth x = p.worth (p.withSlack x) := (p.worth_withSlack x).symm
    _ = g.tableau.rhs 0 - g.freeSum 0 (p.withSlack x) := h.worth_eq (p.balanced_withSlack x)
    _ ≤ g.tableau.rhs 0 := by linarith

/-- The corner of a feasible stage without a negative reduced cost is the greatest worth. -/
theorem isGreatest_corner (h : p.Represents g) (hfeas : g.Feasible)
    (hcosts : ∀ j < p.n.toNat + p.m.toNat, 0 ≤ g.tableau.entry 0 j) :
    IsGreatest (p.worth '' {x | p.IsPlan x}) (g.tableau.rhs 0) := by
  constructor
  · exact ⟨g.plan, h.isPlan_plan hfeas, h.worth_plan⟩
  · rintro _ ⟨x, hx, rfl⟩
    exact h.worth_le hcosts hx

/-! ## A column enters and no row leaves -/

/-- A variable that no row stops can grow from the basic solution without an end. -/
theorem isPlan_move {c : Nat} (h : p.Represents g) (hfeas : g.Feasible)
    (hc : c < p.n.toNat + p.m.toNat) (hfree : c ∉ g.basis)
    (hstop : ∀ i, 1 ≤ i → i < g.tableau.height → g.tableau.entry i c ≤ 0) {a : Rat}
    (ha : 0 ≤ a) : p.IsPlan (g.plan + a • g.ray c) := by
  apply isPlan_of_balanced (h.balanced_move hc hfree h.balanced_plan a)
  intro k _
  have hplan := h.plan_nonneg hfeas k
  suffices hray : 0 ≤ g.ray c k by
    have := mul_nonneg ha hray
    show 0 ≤ g.plan k + a * g.ray c k
    linarith
  by_cases hk : k = c
  · rw [hk, Stage.ray_self]
    exact zero_le_one
  by_cases hmem : k ∈ g.basis
  · obtain ⟨i, hi, rfl⟩ := List.getElem_of_mem hmem
    have := hstop (i + 1) (Nat.le_add_left 1 i) (h.row_lt hi)
    rw [Stage.ray_getElem h.nodup hfree hi]
    linarith
  · rw [Stage.ray_of_not_mem hk hmem]

/-- Along a direction with a negative reduced cost the worth passes every number. -/
theorem exists_worth_gt {c : Nat} (h : p.Represents g) (hc : c < p.n.toNat + p.m.toNat)
    (hfree : c ∉ g.basis) (hneg : g.tableau.entry 0 c < 0) (K : Rat) :
    ∃ a : Rat, 0 ≤ a ∧ K < p.worth (g.plan + a • g.ray c) := by
  have hpos : 0 < -g.tableau.entry 0 c := neg_pos.2 hneg
  refine ⟨(|K - g.tableau.rhs 0| + 1) / -g.tableau.entry 0 c, ?_, ?_⟩
  · exact div_nonneg (by positivity) hpos.le
  have hgain : (|K - g.tableau.rhs 0| + 1) / -g.tableau.entry 0 c * -g.tableau.entry 0 c =
      |K - g.tableau.rhs 0| + 1 := div_mul_cancel₀ _ hpos.ne'
  have hle := le_abs_self (K - g.tableau.rhs 0)
  rw [h.worth_move hc hfree]
  linarith

end Program.Represents

/-! ## Optimal solutions -/

/-- **An optimal solution is the best there is.** Its objective is the greatest worth of all
    plans, and the basic solution of the last tableau is a plan of that worth. -/
theorem objective_isGreatest (htrace : trace s p = .ok tr) (hsolve : solve s p = .ok sol)
    (htol : 0 ≤ s.pivotTol) (hharmless : tr.Harmless s.rule s.pivotTol)
    (hstatus : sol.status = .optimal) :
    ∃ z, sol.objective = .value z ∧ IsGreatest (p.worth '' {x | p.IsPlan x}) z ∧
      ∃ x, tr.last.IsBasicSolution x ∧ p.IsPlan x ∧ p.worth x = z := by
  obtain ⟨g, hrun⟩ := isRun_of_trace htrace
  obtain ⟨hend, hsol⟩ := hrun.solution_of_solve htrace htol hsolve
  rw [hstatus] at hend
  have hlast := hrun.represents_last htol
  have hfeas := hrun.feasible_last htol hharmless
  have hnone := hrun.entering_of_optimal htol hend
  refine ⟨tr.last.tableau.rhs 0, ?_, ?_, tr.last.plan, Stage.isBasicSolution_plan hlast.nodup,
    hlast.isPlan_plan hfeas, hlast.worth_plan⟩
  · rw [hsol, hstatus]
    rfl
  · exact hlast.isGreatest_corner hfeas fun j hj => hlast.reducedCost_nonneg hnone hj

/-- Two products that share two machines. -/
def sharedMachines : Program Rat :=
  ⟨2, 2, .vector [3, 2], .matrix [[1, 1], [1, 3]] 2 (by decide), .vector [4, 6],
    [.atMost, .atMost]⟩

/-- A positive tolerance that hides nothing on the run on two shared machines. -/
def coarse : Settings Rat := ⟨100, .dantzig, 1 / 10, 1 / 10000000000⟩

theorem objective_isGreatest_sharedMachines :
    ∃ tr sol, trace coarse sharedMachines = .ok tr ∧ solve coarse sharedMachines = .ok sol ∧
      0 ≤ coarse.pivotTol ∧ tr.Harmless coarse.rule coarse.pivotTol ∧ sol.status = .optimal ∧
      ∃ z, sol.objective = .value z ∧
        IsGreatest (sharedMachines.worth '' {x | sharedMachines.IsPlan x}) z ∧
        ∃ x, tr.last.IsBasicSolution x ∧ sharedMachines.IsPlan x ∧
          sharedMachines.worth x = z := by
  obtain ⟨tr, htrace, hharmless⟩ :
      ∃ tr, trace coarse sharedMachines = .ok tr ∧ tr.Harmless coarse.rule coarse.pivotTol :=
    exists_of_mem_toOption (by decide +kernel)
  obtain ⟨sol, hsolve, hstatus⟩ :
      ∃ sol, solve coarse sharedMachines = .ok sol ∧ sol.status = .optimal :=
    exists_of_mem_toOption (by decide +kernel)
  have htol : 0 ≤ coarse.pivotTol := by decide +kernel
  exact ⟨tr, sol, htrace, hsolve, htol, hharmless, hstatus,
    objective_isGreatest htrace hsolve htol hharmless hstatus⟩

/-! ## Unbounded programs -/

/-- **An unbounded program has no best plan.** Some plan is worth more than any number. -/
theorem exists_isPlan_worth_gt (htrace : trace s p = .ok tr) (hsolve : solve s p = .ok sol)
    (htol : 0 ≤ s.pivotTol) (hharmless : tr.Harmless s.rule s.pivotTol)
    (hstatus : sol.status = .unbounded) (K : Rat) : ∃ x, p.IsPlan x ∧ K < p.worth x := by
  obtain ⟨g, hrun⟩ := isRun_of_trace htrace
  obtain ⟨hend, _⟩ := hrun.solution_of_solve htrace htol hsolve
  rw [hstatus] at hend
  have hlast := hrun.represents_last htol
  have hfeas := hrun.feasible_last htol hharmless
  obtain ⟨c, henters, hno⟩ := hrun.entering_of_unbounded htol hend
  obtain ⟨hc, hfree, hneg⟩ := hlast.enters henters
  have hstop : ∀ i, 1 ≤ i → i < tr.last.tableau.height → tr.last.tableau.entry i c ≤ 0 := by
    intro i hi hit
    have hle : tr.last.tableau.entry i c ≤ s.pivotTol := not_lt.1 fun hgt => hno i ⟨hi, hit, hgt⟩
    exact not_lt.1 fun hpos =>
      hrun.harmless_last hharmless (by rw [hend]; exact fun h => by cases h)
        c henters i hi hit ⟨hpos, hle⟩
  obtain ⟨a, ha, hgt⟩ := hlast.exists_worth_gt hc hfree hneg K
  exact ⟨_, hlast.isPlan_move hfeas hc hfree hstop ha, hgt⟩

/-- A product that makes up for what another one uses. -/
def openEnded : Program Rat :=
  ⟨2, 1, .vector [1, 1], .matrix [[1, -1]] 2 (by decide), .vector [2], [.atMost]⟩

theorem exists_isPlan_worth_gt_openEnded :
    ∃ tr sol, trace coarse openEnded = .ok tr ∧ solve coarse openEnded = .ok sol ∧
      0 ≤ coarse.pivotTol ∧ tr.Harmless coarse.rule coarse.pivotTol ∧ sol.status = .unbounded ∧
      ∃ x, openEnded.IsPlan x ∧ 1000 < openEnded.worth x := by
  obtain ⟨tr, htrace, hharmless⟩ :
      ∃ tr, trace coarse openEnded = .ok tr ∧ tr.Harmless coarse.rule coarse.pivotTol :=
    exists_of_mem_toOption (by decide +kernel)
  obtain ⟨sol, hsolve, hstatus⟩ :
      ∃ sol, solve coarse openEnded = .ok sol ∧ sol.status = .unbounded :=
    exists_of_mem_toOption (by decide +kernel)
  have htol : 0 ≤ coarse.pivotTol := by decide +kernel
  exact ⟨tr, sol, htrace, hsolve, htol, hharmless, hstatus,
    exists_isPlan_worth_gt htrace hsolve htol hharmless hstatus 1000⟩

end ProductionLP
