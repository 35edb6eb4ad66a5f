import Mathlib.Algebra.Order.BigOperators.Group.Finset
import ProductionLP.Proofs.Program.Feasible
import ProductionLP.Proofs.Solve

/- The reported plan.

   A run keeps a list of its basic columns, but the values of a solution are read off the last
   tableau by looking for unit columns. Basic columns are unit columns, so their variables get
   the values of the basic solution. A column that is not basic can pass for a unit column
   too (`Tableau.PassesFor`); then its variable is given the right-hand side of that row a
   second time, on top of the variable that is basic there. `Stage.stray` collects what is
   added in this way, and `reported_isPlan_iff` says what comes of it: the reported values are
   the basic solution and the stray amounts, and they are a plan of the reported worth exactly
   when the stray amounts fit into what the basic solution leaves of the constraints and are
   worth nothing. `reported_twins` is a run in which neither holds.

   `values_eq_plan_iff` needs no more of the tolerances than that basic columns are recognised:
   it says what is read off for each variable, and that the values are the basic solution
   exactly when every column that only passes for a unit column does so in a row whose
   right-hand side is zero. -/
namespace ProductionLP

/-- What the reading adds to the basic solution: a column that is not basic and passes for the
    unit column of a row is given the right-hand side of the row. -/
def Stage.stray (tol : Rat) (g : Stage Rat) (j : Nat) : Rat :=
  if j ∈ g.basis then 0
  else ∑ i ∈ Finset.range (g.tableau.height - 1),
    if g.tableau.PassesFor tol j (i + 1) then g.tableau.rhs (i + 1) else 0

variable {s : Settings Rat} {p : Program Rat} {g : Stage Rat} {tr : Trace Rat}
  {sol : Solution Rat} {tol : Rat}

theorem Stage.Feasible.stray_nonneg (hfeas : g.Feasible) (tol : Rat) (j : Nat) :
    0 ≤ g.stray tol j := by
  rw [Stage.stray]
  split
  · exact le_refl 0
  · apply Finset.sum_nonneg
    intro i hi
    have hit : i + 1 < g.tableau.height := by
      have := Finset.mem_range.1 hi
      omega
    split
    · exact hfeas (i + 1) (Nat.le_add_left 1 i) hit
    · exact le_refl 0

namespace Program.Represents

/-- What is read off for a variable is its part of the basic solution and its stray amount. -/
theorem valueAt_eq (h : p.Represents g) (hpos : 0 < tol) (hle : tol ≤ 1) (j : Nat) :
    g.tableau.valueAt tol j = g.plan j + g.stray tol j := by
  rw [Stage.stray]
  by_cases hj : j ∈ g.basis
  · obtain ⟨i, hi, rfl⟩ := List.getElem_of_mem hj
    have hvalue := Tableau.valueAt_unit hpos hle (h.row_lt hi) h.width_pos (h.unit i hi)
    rw [if_pos hj, hvalue, Stage.plan_getElem h.nodup hi, add_zero]
  · rw [if_neg hj, Stage.plan_of_not_mem hj, zero_add, Tableau.valueAt_eq_sum _ h.width_pos]

end Program.Represents

/-- The values of a solution with a limit are read off the last stage, one for each variable. -/
theorem IsRun.values_eq (h : IsRun s p g tr) (htrace : trace s p = .ok tr)
    (htol : 0 ≤ s.pivotTol) (hsolve : solve s p = .ok sol) (hstatus : sol.status ≠ .unbounded) :
    sol.values.length = p.n.toNat ∧ sol.objective = .value (tr.last.tableau.rhs 0) ∧
      ∀ j < p.n.toNat, sol.values.getD j 0 = tr.last.tableau.valueAt s.basicTol j := by
  obtain ⟨_, hsol⟩ := h.solution_of_solve htrace htol hsolve
  rw [Trace.solution, if_neg hstatus] at hsol
  rw [hsol]
  refine ⟨by rw [List.length_map, List.length_range], rfl, fun j hj => ?_⟩
  rw [List.getD_eq_getElem?_getD, List.getElem?_map, List.getElem?_range hj]
  rfl

/-- **The reported values are a plan of the reported worth exactly when the stray amounts do no
    harm.** They are the basic solution of the last tableau, which is a plan of the reported
    worth, and the stray amounts on top of it. -/
theorem reported_isPlan_iff (htrace : trace s p = .ok tr) (hsolve : solve s p = .ok sol)
    (htol : s.pivotTol = 0) (hpos : 0 < s.basicTol) (hle : s.basicTol ≤ 1)
    (hstatus : sol.status ≠ .unbounded) (hslack : 0 ≤ tol) :
    ∃ z, sol.objective = .value z ∧ p.IsPlan tr.last.plan ∧ p.worth tr.last.plan = z ∧
      (∀ j < p.n.toNat,
        sol.values.getD j 0 = tr.last.plan j + tr.last.stray s.basicTol j) ∧
      (p.feasible (.vector sol.values) tol = .ok true ∧
          p.worth (fun j => sol.values.getD j 0) = z ↔
        (∀ i < p.m.toNat,
          p.load i (tr.last.stray s.basicTol) ≤ p.slack tr.last.plan i + tol) ∧
        p.worth (tr.last.stray s.basicTol) = 0) := by
  obtain ⟨g, hrun⟩ := isRun_of_trace htrace
  have hlast := hrun.represents_last htol.ge
  have hfeas := hrun.feasible_last htol.ge (Trace.harmless_zero htol s.rule tr)
  obtain ⟨hlength, hobjective, hread⟩ := hrun.values_eq htrace htol.ge hsolve hstatus
  have hvalues : ∀ j < p.n.toNat,
      sol.values.getD j 0 = (tr.last.plan + tr.last.stray s.basicTol) j := fun j hj =>
    (hread j hj).trans (hlast.valueAt_eq hpos hle j)
  have hplan := hlast.isPlan_plan hfeas
  have hnonneg : ∀ j < p.n.toNat, -tol ≤ sol.values.getD j 0 := by
    intro j hj
    have hstray := hfeas.stray_nonneg s.basicTol j
    have := hplan.nonneg j hj
    rw [hvalues j hj]
    show -tol ≤ tr.last.plan j + tr.last.stray s.basicTol j
    linarith
  refine ⟨_, hobjective, hplan, hlast.worth_plan, hvalues, ?_⟩
  rw [Program.feasible_iff hrun.valid hlength, Program.worth_congr hvalues, Program.worth_add,
    hlast.worth_plan, add_eq_left]
  refine and_congr_left fun _ => ?_
  simp only [Program.load_congr hvalues, Program.load_add, Program.slack]
  constructor
  · intro h i hi
    have := h.2 i hi
    linarith
  · intro h
    refine ⟨hnonneg, fun i hi => ?_⟩
    have := h i hi
    linarith

/-- Two products that are the same in everything. -/
def twins : Program Rat :=
  ⟨2, 1, .vector [1, 1], .matrix [[1, 1]] 2 (by decide), .vector [1], [.atMost]⟩

/-- The standard settings with an exact ratio test. -/
def exactTest : Settings Rat := ⟨100, .dantzig, 0, 1 / 10000000000⟩

theorem reported_isPlan_iff_twins :
    ∃ tr sol, trace exactTest twins = .ok tr ∧ solve exactTest twins = .ok sol ∧
      exactTest.pivotTol = 0 ∧ 0 < exactTest.basicTol ∧ exactTest.basicTol ≤ 1 ∧
      sol.status ≠ .unbounded ∧ (0 : Rat) ≤ 1 / 1000000000 ∧
      ∃ z, sol.objective = .value z ∧ twins.IsPlan tr.last.plan ∧ twins.worth tr.last.plan = z ∧
        (∀ j < twins.n.toNat,
          sol.values.getD j 0 = tr.last.plan j + tr.last.stray exactTest.basicTol j) ∧
        (twins.feasible (.vector sol.values) (1 / 1000000000) = .ok true ∧
            twins.worth (fun j => sol.values.getD j 0) = z ↔
          (∀ i < twins.m.toNat, twins.load i (tr.last.stray exactTest.basicTol) ≤
            twins.slack tr.last.plan i + 1 / 1000000000) ∧
          twins.worth (tr.last.stray exactTest.basicTol) = 0) := by
  obtain ⟨sol, hsolve, hstatus⟩ :
      ∃ sol, solve exactTest twins = .ok sol ∧ sol.status ≠ .unbounded :=
    exists_of_mem_toOption (by decide +kernel)
  have hvalid : twins.validate = .ok () := rfl
  obtain ⟨g, tr, htrace, _⟩ :=
    trace_of_isValid exactTest ((Program.validate_eq_ok_iff twins).1 hvalid)
  have hpos : 0 < exactTest.basicTol := by decide +kernel
  have hle : exactTest.basicTol ≤ 1 := by decide +kernel
  have hslack : (0 : Rat) ≤ 1 / 1000000000 := by decide +kernel
  exact ⟨tr, sol, htrace, hsolve, rfl, hpos, hle, hstatus, hslack,
    reported_isPlan_iff htrace hsolve rfl hpos hle hstatus hslack⟩

/-- Both of the twins are given all that there is of the constraint. -/
theorem reported_twins :
    twins.validate = .ok () ∧ ∃ sol, solve exactTest twins = .ok sol ∧ sol.status = .optimal ∧
      sol.values = [1, 1] ∧ sol.objective = .value 1 ∧
      twins.feasible (.vector sol.values) (1 / 1000000000) = .ok false ∧
      twins.worth (fun j => sol.values.getD j 0) = 2 := by
  obtain ⟨sol, hsolve, hstatus, hvalues, hobjective⟩ : ∃ sol, solve exactTest twins = .ok sol ∧
      sol.status = .optimal ∧ sol.values = [1, 1] ∧ sol.objective = .value 1 :=
    exists_of_mem_toOption (by decide +kernel)
  have hvalid : twins.validate = .ok () := rfl
  refine ⟨hvalid, sol, hsolve, hstatus, hvalues, hobjective, ?_, ?_⟩
  · rw [hvalues, Program.feasible_eq_ok ((Program.validate_eq_ok_iff _).1 hvalid) rfl]
    congr 1
    decide +kernel
  · rw [hvalues]
    decide +kernel

/-! ## When the values are the basic solution -/

theorem Program.Represents.valueAt_of_label (h : p.Represents g) (hpos : 0 < tol) (hle : tol ≤ 1)
    {i j : Nat} (hj : g.basis[i]? = some j) : g.tableau.valueAt tol j = g.tableau.rhs (i + 1) := by
  obtain ⟨hi, rfl⟩ := List.getElem?_eq_some_iff.1 hj
  exact Tableau.valueAt_unit hpos hle (h.row_lt hi) h.width_pos (h.unit i hi)

theorem Program.Represents.plan_of_label (h : p.Represents g) {i j : Nat}
    (hj : g.basis[i]? = some j) : g.plan j = g.tableau.rhs (i + 1) := by
  obtain ⟨hi, rfl⟩ := List.getElem?_eq_some_iff.1 hj
  exact Stage.plan_getElem h.nodup hi

/-- The values of a solution with a limit, as they are read off the last tableau. -/
theorem IsRun.values_eq_map (h : IsRun s p g tr) (htrace : trace s p = .ok tr)
    (htol : 0 ≤ s.pivotTol) (hsolve : solve s p = .ok sol) (hstatus : sol.status ≠ .unbounded) :
    sol.values = (List.range p.n.toNat).map (tr.tableau.valueAt s.basicTol) := by
  obtain ⟨_, hsol⟩ := h.solution_of_solve htrace htol hsolve
  rw [Trace.solution, if_neg hstatus] at hsol
  rw [hsol]

/-- **What is read off for each variable, and when it is the basic solution.** A basic variable
    gets the right-hand side of its row. A variable that is not basic gets zero, unless its
    column passes for the unit column of a constraint row: then it gets the right-hand side of
    that row. So the values are the basic solution exactly when all such rows have the
    right-hand side zero. -/
theorem values_eq_plan_iff (htrace : trace s p = .ok tr) (hsolve : solve s p = .ok sol)
    (htol : 0 ≤ s.pivotTol) (hpos : 0 < s.basicTol) (hle : s.basicTol ≤ 1)
    (hstatus : sol.status ≠ .unbounded) :
    (∀ j < p.n.toNat, ∀ i, tr.basis[i]? = some j →
        sol.values[j]? = some (tr.tableau.rhs (i + 1))) ∧
      (∀ j < p.n.toNat, j ∉ tr.basis →
        (∀ r, 1 ≤ r → tr.tableau.PassesFor s.basicTol j r →
          sol.values[j]? = some (tr.tableau.rhs r)) ∧
        ((∀ r, 1 ≤ r → ¬ tr.tableau.PassesFor s.basicTol j r) → sol.values[j]? = some 0)) ∧
      (sol.values = (List.range p.n.toNat).map tr.last.plan ↔
        ∀ j < p.n.toNat, j ∉ tr.basis → ∀ r, 1 ≤ r → tr.tableau.PassesFor s.basicTol j r →
          tr.tableau.rhs r = 0) := by
  obtain ⟨g, hrun⟩ := isRun_of_trace htrace
  have hlast := hrun.represents_last htol
  have hwidth : 0 < tr.tableau.width := hlast.width_pos
  have hvalues := hrun.values_eq_map htrace htol hsolve hstatus
  have hread : ∀ j < p.n.toNat, sol.values[j]? = some (tr.tableau.valueAt s.basicTol j) := by
    intro j hj
    rw [hvalues, List.getElem?_map, List.getElem?_range hj]
    rfl
  refine ⟨?_, ?_, ?_⟩
  · intro j hj i hi
    rw [hread j hj]
    exact congrArg some (hlast.valueAt_of_label hpos hle hi)
  · intro j hj _
    rw [hread j hj]
    exact ⟨fun r hr hpass => congrArg some (Tableau.valueAt_of_passesFor hwidth hr hpass),
      fun hno => congrArg some (Tableau.valueAt_of_not_passesFor hwidth hno)⟩
  · rw [hvalues, List.map_inj_left]
    simp only [List.mem_range]
    refine forall₂_congr fun j _ => ?_
    by_cases hj : j ∈ tr.basis
    · -- nothing is asked of a basic variable, and its value is that of the basic solution
      obtain ⟨i, hi⟩ := List.mem_iff_getElem?.1 hj
      have hplan := hlast.plan_of_label hi
      exact iff_of_true ((hlast.valueAt_of_label hpos hle hi).trans hplan.symm)
        fun hfree => absurd hj hfree
    · rw [Stage.plan_of_not_mem hj, Tableau.valueAt_eq_zero_iff hwidth]
      exact ⟨fun hzero _ => hzero, fun hzero => hzero hj⟩

/-- Two products of which the second is worth and needs half as much as the first. -/
def halves : Program Rat :=
  ⟨2, 1, .vector [1, 1 / 2], .matrix [[1, 1 / 2]] 2 (by decide), .vector [1], [.atMost]⟩

/-- The greatest tolerance that still recognises basic columns. -/
def roomy : Settings Rat := ⟨100, .dantzig, 0, 1⟩

/-- With a tolerance of one a half is near one, so the second of the halves gets the right-hand
    side of the row in which the first is basic. -/
theorem values_eq_plan_iff_halves :
    ∃ tr sol, trace roomy halves = .ok tr ∧ solve roomy halves = .ok sol ∧
      0 ≤ roomy.pivotTol ∧ 0 < roomy.basicTol ∧ roomy.basicTol ≤ 1 ∧
      sol.status ≠ .unbounded ∧ tr.basis = [0] ∧ sol.values = [1, 1] ∧
      (∀ j < halves.n.toNat, ∀ i, tr.basis[i]? = some j →
        sol.values[j]? = some (tr.tableau.rhs (i + 1))) ∧
      (∀ j < halves.n.toNat, j ∉ tr.basis →
        (∀ r, 1 ≤ r → tr.tableau.PassesFor roomy.basicTol j r →
          sol.values[j]? = some (tr.tableau.rhs r)) ∧
        ((∀ r, 1 ≤ r → ¬ tr.tableau.PassesFor roomy.basicTol j r) →
          sol.values[j]? = some 0)) ∧
      (sol.values = (List.range halves.n.toNat).map tr.last.plan ↔
        ∀ j < halves.n.toNat, j ∉ tr.basis → ∀ r, 1 ≤ r →
          tr.tableau.PassesFor roomy.basicTol j r → tr.tableau.rhs r = 0) := by
  obtain ⟨sol, hsolve, hstatus, hvalues⟩ : ∃ sol, solve roomy halves = .ok sol ∧
      sol.status ≠ .unbounded ∧ sol.values = [1, 1] :=
    exists_of_mem_toOption (by decide +kernel)
  obtain ⟨tr, htrace, hbasis⟩ : ∃ tr, trace roomy halves = .ok tr ∧ tr.basis = [0] :=
    exists_of_mem_toOption (by decide +kernel)
  have htol : 0 ≤ roomy.pivotTol := by decide +kernel
  have hpos : 0 < roomy.basicTol := by decide +kernel
  have hle : roomy.basicTol ≤ 1 := by decide +kernel
  exact ⟨tr, sol, htrace, hsolve, htol, hpos, hle, hstatus, hbasis, hvalues,
    values_eq_plan_iff htrace hsolve htol hpos hle hstatus⟩

end ProductionLP
