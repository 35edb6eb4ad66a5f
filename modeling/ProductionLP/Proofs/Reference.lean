import ProductionLP.Proofs.Outcome
import ProductionLP.Reference

/- The cross-check against a reference.

   A reference is right about a program when it reports the greatest worth of all plans, or says
   that there is no greatest one (`Reference.IsRight`). The check compares a solution with it by
   status first and by objective second, so a false alarm has two possible causes, and both are
   excluded on a run on which the tolerance hides nothing:

   1. the statuses differ although both are right: an optimal run bounds the worth of all plans
      and an unbounded run leaves none that is best, so the two exclude each other
      (`Program.IsUnlimited.not_isBestWorth`);
   2. the objectives differ although both are greatest: there is only one greatest worth.

   What is left is a run that was cut off, which never agrees (`agrees_iff_ne_iterationLimit`). -/
namespace ProductionLP

variable {s : Settings Rat} {p : Program Rat} {g : Stage Rat} {tr : Trace Rat} {r : Reference Rat}

/-! ## References -/

/-- Some plan is worth more than any number. -/
def Program.IsUnlimited (p : Program Rat) : Prop := ∀ K : Rat, ∃ x, p.IsPlan x ∧ K < p.worth x

/-- A number is the greatest worth of all plans. -/
def Program.IsBestWorth (p : Program Rat) (z : Rat) : Prop :=
  IsGreatest (p.worth '' {x | p.IsPlan x}) z

/-- Without a limit no worth is the greatest. -/
theorem Program.IsUnlimited.not_isBestWorth (h : p.IsUnlimited) (z : Rat) : ¬ p.IsBestWorth z := by
  intro hz
  obtain ⟨x, hx, hgt⟩ := h z
  exact absurd (hz.2 ⟨x, hx, rfl⟩) (not_le.2 hgt)

namespace Reference

/-- A reference reports the greatest worth of all plans, or that there is none. What it gives as
    the objective of an unbounded program plays no part. -/
inductive IsRight (p : Program Rat) : Reference Rat → Prop
  | optimal {z : Rat} (h : p.IsBestWorth z) : IsRight p ⟨Status.optimal.name, .value z⟩
  | unbounded {objective : Objective Rat} (h : p.IsUnlimited) :
    IsRight p ⟨Status.unbounded.name, objective⟩

/-- A number is close to itself, whatever the tolerances. -/
theorem isClose_self (rtol atol a : Rat) : isClose rtol atol a a = true := by
  rw [isClose, Scalar.eq_iff.2 rfl, Bool.or_true]

theorem agrees_iterationLimit (rtol atol : Rat) (objective : Objective Rat) (r : Reference Rat) :
    agrees rtol atol .iterationLimit objective r = false := rfl

/-- The greatest worth agrees with every reference that is right. -/
theorem IsRight.agrees_optimal {z : Rat} (hr : r.IsRight p) (hz : p.IsBestWorth z)
    (rtol atol : Rat) : agrees rtol atol .optimal (.value z) r = true := by
  cases hr with
  | unbounded h => exact absurd hz (h.not_isBestWorth z)
  | optimal h =>
    rw [hz.unique h]
    exact isClose_self rtol atol _

/-- A program without a limit agrees with every reference that is right. -/
theorem IsRight.agrees_unbounded (hr : r.IsRight p) (hp : p.IsUnlimited)
    (rtol atol : Rat) (objective : Objective Rat) :
    agrees rtol atol .unbounded objective r = true := by
  cases hr with
  | optimal h => exact absurd h (hp.not_isBestWorth _)
  | unbounded => rfl

end Reference

/-! ## Endings of a run -/

namespace IsRun

/-- A run that ends optimal has the greatest worth in its corner. -/
theorem isBestWorth (h : IsRun s p g tr) (htol : 0 ≤ s.pivotTol)
    (hharmless : tr.Harmless s.rule s.pivotTol) (hend : tr.ending = .ok .optimal) :
    p.IsBestWorth (tr.tableau.rhs 0) :=
  have hlast := h.represents_last htol
  hlast.isGreatest_corner (h.feasible_last htol hharmless) fun _ hj =>
    hlast.reducedCost_nonneg (h.entering_of_optimal htol hend) hj

/-- The column that a run is stopped at stops nothing: its entries are not positive. -/
theorem entry_nonpos (h : IsRun s p g tr) (hharmless : tr.Harmless s.rule s.pivotTol)
    (hend : tr.ending = .ok .unbounded) {c i : Nat}
    (hc : s.rule.entering tr.last.tableau.reducedCosts = some c)
    (hno : ¬ PivotRule.TakesPart s.pivotTol tr.last.tableau c i) (hi : 1 ≤ i)
    (hit : i < tr.last.tableau.height) : tr.last.tableau.entry i c ≤ 0 := by
  have hlimit : tr.ending ≠ .ok .iterationLimit := by
    rw [hend]
    exact fun h => by cases h
  have hle : tr.last.tableau.entry i c ≤ s.pivotTol := not_lt.1 fun hgt => hno ⟨hi, hit, hgt⟩
  exact not_lt.1 fun hpos => h.harmless_last hharmless hlimit c hc i hi hit ⟨hpos, hle⟩

/-- A run that ends unbounded leaves no plan that is best. -/
theorem isUnlimited (h : IsRun s p g tr) (htol : 0 ≤ s.pivotTol)
    (hharmless : tr.Harmless s.rule s.pivotTol) (hend : tr.ending = .ok .unbounded) :
    p.IsUnlimited := by
  intro K
  have hlast := h.represents_last htol
  obtain ⟨c, henters, hno⟩ := h.entering_of_unbounded htol hend
  obtain ⟨hc, hfree, hneg⟩ := hlast.enters henters
  obtain ⟨a, ha, hgt⟩ := hlast.exists_worth_gt hc hfree hneg K
  refine ⟨_, ?_, hgt⟩
  exact hlast.isPlan_move (h.feasible_last htol hharmless) hc hfree
    (fun i hi hit => h.entry_nonpos hharmless hend henters (hno i) hi hit) ha

end IsRun

/-! ## The check -/

/-- **The check raises no false alarm.** A valid program is solved, and whatever the tolerances
    of the check the solution agrees with a reference that is right, unless the run was cut off:
    then it never does. -/
theorem agrees_iff_ne_iterationLimit (hvalid : p.validate = .ok ()) (htol : 0 ≤ s.pivotTol)
    (hharmless : ∀ tr, trace s p = .ok tr → tr.Harmless s.rule s.pivotTol) (hr : r.IsRight p)
    (rtol atol : Rat) :
    ∃ sol, solve s p = .ok sol ∧
      (Reference.agrees rtol atol sol.status sol.objective r = true ↔
        sol.status ≠ .iterationLimit) := by
  obtain ⟨g, tr, htrace, hrun⟩ := trace_of_isValid s ((Program.validate_eq_ok_iff p).1 hvalid)
  obtain ⟨status, hend, hsolve⟩ := hrun.solve_eq_ok htrace htol
  refine ⟨_, hsolve, ?_⟩
  rw [Trace.status_solution]
  cases status with
  | optimal =>
    have hbest := hrun.isBestWorth htol (hharmless tr htrace) hend
    exact iff_of_true (hr.agrees_optimal hbest rtol atol) (by decide)
  | unbounded =>
    have hunlimited := hrun.isUnlimited htol (hharmless tr htrace) hend
    exact iff_of_true (hr.agrees_unbounded hunlimited rtol atol _) (by decide)
  | iterationLimit =>
    rw [Reference.agrees_iterationLimit]
    exact iff_of_false Bool.false_ne_true fun h => h rfl

/-- The first product alone uses up the machine that stops it, and is worth most. -/
theorem isBestWorth_sharedMachines : sharedMachines.IsBestWorth 12 := by
  have hworth : ∀ x, sharedMachines.worth x = 3 * x 0 + 2 * x 1 := fun x => by
    show ∑ j ∈ Finset.range 2, _ = _
    rw [Finset.sum_range_succ, Finset.sum_range_one]
    rfl
  have hload : ∀ i x, sharedMachines.load i x =
      sharedMachines.coefficient i 0 * x 0 + sharedMachines.coefficient i 1 * x 1 := fun i x => by
    show ∑ j ∈ Finset.range 2, _ = _
    rw [Finset.sum_range_succ, Finset.sum_range_one]
  constructor
  · refine ⟨fun j => if j = 0 then 4 else 0, ⟨?_, ?_⟩, ?_⟩
    · intro j _
      show (0 : Rat) ≤ if j = 0 then 4 else 0
      split <;> norm_num
    · decide +kernel
    · rw [hworth]
      norm_num
  · rintro _ ⟨x, hx, rfl⟩
    have hfirst : 1 * x 0 + 1 * x 1 ≤ 4 := hload 0 x ▸ hx.load_le 0 (by decide)
    have hsecond := hx.nonneg 1 (by decide)
    rw [hworth]
    linarith

/-- A reference for two shared machines, checked with exact tolerances. -/
theorem agrees_iff_ne_iterationLimit_sharedMachines :
    sharedMachines.validate = .ok () ∧ 0 ≤ coarse.pivotTol ∧
      (∀ tr, trace coarse sharedMachines = .ok tr → tr.Harmless coarse.rule coarse.pivotTol) ∧
      Reference.IsRight sharedMachines ⟨Status.optimal.name, .value 12⟩ ∧
      ∃ sol, solve coarse sharedMachines = .ok sol ∧
        (Reference.agrees 0 0 sol.status sol.objective ⟨Status.optimal.name, .value 12⟩ = true ↔
          sol.status ≠ .iterationLimit) := by
  have hvalid : sharedMachines.validate = .ok () := by decide +kernel
  have htol : 0 ≤ coarse.pivotTol := by decide +kernel
  have hharmless : ∀ tr, trace coarse sharedMachines = .ok tr →
      tr.Harmless coarse.rule coarse.pivotTol := by
    obtain ⟨tr, htrace, hharmless⟩ :
        ∃ tr, trace coarse sharedMachines = .ok tr ∧ tr.Harmless coarse.rule coarse.pivotTol :=
      exists_of_mem_toOption (by decide +kernel)
    rintro tr' htrace'
    cases htrace.symm.trans htrace'
    exact hharmless
  have hr : Reference.IsRight sharedMachines ⟨Status.optimal.name, .value 12⟩ :=
    .optimal isBestWorth_sharedMachines
  exact ⟨hvalid, htol, hharmless, hr,
    agrees_iff_ne_iterationLimit hvalid htol hharmless hr 0 0⟩

end ProductionLP
