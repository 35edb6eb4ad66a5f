import ProductionLP.Proofs.Growth

/- Runs in other units.

   Amounts of money may be counted in another unit, and so may the stocks that the bounds
   limit: the costs are then multiplied by one positive number and the bounds by another
   (`Program.rescale`). The run on the program in other units goes through the same passes:

   1. `Stage.Rescaled` relates their stages. The entries of the constraint rows are the same;
      the reduced costs are in the unit of the costs, the right-hand sides in the unit of the
      bounds, and the corner in both.
   2. At related stages the rules choose alike (`Rescaled.chooses`, `Rescaled.outcome?_eq`).
      The reduced costs keep their signs and their order, all ratios are multiplied by the same
      number, and the tolerance meets only entries that have no unit.
   3. A pivot keeps the relation (`Rescaled.pivot`), so the runs go in lock step, with the same
      pivot entries.
   4. When the costs keep their unit, the columns of the variables are the same in all rows, so
      the same columns pass for unit columns and the values are in the unit of the bounds
      (`Rescaled.valueAt_eq`). In another unit of the costs an entry of the objective row may
      come near zero or leave it. -/
namespace ProductionLP

namespace Program

/-- A program in other units: every cost is multiplied by `l` and every bound by `u`. -/
def rescale (l u : Rat) (p : Program Rat) : Program Rat :=
  { p with objective := p.objective.map (l * ·), bounds := p.bounds.map (u * ·) }

variable {p : Program Rat} {l u : Rat}

theorem getD_map_mul (k : Rat) (xs : List Rat) (i : Nat) :
    (xs.map (k * ·)).getD i 0 = k * xs.getD i 0 := by
  rw [List.getD_eq_getElem?_getD, List.getD_eq_getElem?_getD, List.getElem?_map]
  cases xs[i]? with
  | none => exact (mul_zero k).symm
  | some x => rfl

theorem cost_rescale (j : Nat) : (p.rescale l u).cost j = l * p.cost j :=
  getD_map_mul l p.objective.entries j

theorem bound_rescale (i : Nat) : (p.rescale l u).bound i = u * p.bound i :=
  getD_map_mul u p.bounds.entries i

/-- A program stays valid in other units. -/
theorem IsValid.rescale (hp : p.IsValid) (l : Rat) (hu : 0 < u) : (p.rescale l u).IsValid := by
  refine { hp with
    objective_finite := fun _ _ => rfl, bounds_finite := fun _ _ => rfl, bounds_nonneg := ?_ }
  intro b hb
  obtain ⟨x, hx, rfl⟩ := List.mem_map.1 hb
  have hnonneg : 0 ≤ x := not_lt.1 (mt Scalar.lt_iff.2 (by simp [hp.bounds_nonneg x hx]))
  rw [Bool.eq_false_iff, Ne, Scalar.lt_iff]
  exact not_lt.2 (mul_nonneg hu.le hnonneg)

end Program

/-! ## The entering column in other units -/

namespace PivotRule

variable {rule : PivotRule} {xs : List Rat} {l : Rat}

theorem Enters.map_mul (hl : 0 < l) {c : Nat} {x : Rat} (h : rule.Enters xs c x) :
    rule.Enters (xs.map (l * ·)) c (l * x) where
  get := by
    rw [List.getElem?_map, h.get]
    rfl
  neg := mul_neg_of_pos_of_neg hl h.neg
  first := by
    intro hrule k hk y hy
    rw [List.getElem?_map] at hy
    obtain ⟨z, hz, rfl⟩ := Option.map_eq_some_iff.1 hy
    exact mul_nonneg hl.le (h.first hrule k hk z hz)
  smallest := by
    intro hrule y hy
    obtain ⟨z, hz, rfl⟩ := List.mem_map.1 hy
    exact mul_le_mul_of_nonneg_left (h.smallest hrule z hz) hl.le
  first_smallest := by
    intro hrule k hk y hy
    rw [List.getElem?_map] at hy
    obtain ⟨z, hz, rfl⟩ := Option.map_eq_some_iff.1 hy
    exact mul_lt_mul_of_pos_left (h.first_smallest hrule k hk z hz) hl

/-- The same column enters when all reduced costs are multiplied by a positive number. -/
theorem entering_map_mul (hl : 0 < l) (rule : PivotRule) (xs : List Rat) :
    rule.entering (xs.map (l * ·)) = rule.entering xs := by
  cases hc : rule.entering xs with
  | none =>
    rw [entering_eq_none_iff] at hc ⊢
    intro y hy
    obtain ⟨x, hx, rfl⟩ := List.mem_map.1 hy
    exact mul_nonneg hl.le (hc x hx)
  | some c =>
    rw [entering_eq_some_iff] at hc ⊢
    obtain ⟨x, hx⟩ := hc
    exact ⟨l * x, hx.map_mul hl⟩

end PivotRule

open Program PivotRule

variable {p : Program Rat} {l u : Rat} {g g' : Stage Rat} {rule : PivotRule} {tol : Rat}
  {r c : Nat}

/-! ## Stages of both runs -/

/-- A stage of the program in other units is a stage of the program with each part of its
    tableau in its own unit. -/
structure Stage.Rescaled (l u : Rat) (p : Program Rat) (g g' : Stage Rat) : Prop where
  represents : p.Represents g
  represents' : (p.rescale l u).Represents g'
  basis : g'.basis = g.basis
  reducedCost : ∀ j < p.n.toNat + p.m.toNat, g'.tableau.entry 0 j = l * g.tableau.entry 0 j
  entry : ∀ i, 1 ≤ i → ∀ j < p.n.toNat + p.m.toNat, g'.tableau.entry i j = g.tableau.entry i j
  corner : g'.tableau.rhs 0 = l * u * g.tableau.rhs 0
  rhs : ∀ i, 1 ≤ i → g'.tableau.rhs i = u * g.tableau.rhs i

/-- The first stages of both runs. -/
theorem Program.rescaled_first {t t' : Tableau Rat} (ht : p.IsFirst t)
    (ht' : (p.rescale l u).IsFirst t') :
    Stage.Rescaled l u p ⟨t, slackBasis p.n.toNat p.m.toNat⟩
      ⟨t', slackBasis (p.rescale l u).n.toNat (p.rescale l u).m.toNat⟩ where
  represents := represents_first ht
  represents' := represents_first ht'
  basis := rfl
  reducedCost := by
    intro j _
    rw [ht.entry_zero, ht'.entry_zero, cost_rescale]
    show (if j < p.n.toNat then -(l * p.cost j) else 0) = _
    rw [mul_ite, mul_neg, mul_zero]
  entry := by
    intro i hi j hj
    obtain ⟨i, rfl⟩ := Nat.exists_eq_succ_of_ne_zero (Nat.one_le_iff_ne_zero.1 hi)
    rcases Nat.lt_or_ge i p.m.toNat with him | him
    · exact (ht'.entry_succ him hj).trans (ht.entry_succ him hj).symm
    · have hout := Nat.succ_le_succ him
      exact (Tableau.entry_of_height_le (ht'.height.trans_le hout) j).trans
        (Tableau.entry_of_height_le (ht.height.trans_le hout) j).symm
  corner := by
    rw [Tableau.rhs, Tableau.rhs, ht.width, ht'.width, Nat.add_sub_cancel, Nat.add_sub_cancel,
      ht.blank _ (Nat.le_add_right ..), ht'.blank _ (Nat.le_add_right ..), mul_zero]
  rhs := by
    intro i hi
    obtain ⟨i, rfl⟩ := Nat.exists_eq_succ_of_ne_zero (Nat.one_le_iff_ne_zero.1 hi)
    rw [Tableau.rhs, Tableau.rhs, ht.width, ht'.width, Nat.add_sub_cancel, Nat.add_sub_cancel]
    rcases Nat.lt_or_ge i p.m.toNat with him | him
    · rw [Nat.succ_eq_add_one, ht.bound i him, ht'.bound i him, bound_rescale]
    · have hout := Nat.succ_le_succ him
      rw [Tableau.entry_of_height_le (ht.height.trans_le hout),
        Tableau.entry_of_height_le (ht'.height.trans_le hout), mul_zero]

namespace Stage.Rescaled

/-! ## The same pass -/

theorem height_eq (h : Rescaled l u p g g') : g'.tableau.height = g.tableau.height :=
  h.represents'.height.trans h.represents.height.symm

theorem reducedCosts_eq (h : Rescaled l u p g g') :
    g'.tableau.reducedCosts = g.tableau.reducedCosts.map (l * ·) := by
  apply List.ext_getElem?
  intro j
  apply Option.ext
  intro x
  rw [List.getElem?_map, Option.map_eq_some_iff, h.represents'.getElem?_reducedCosts_iff]
  constructor
  · rintro ⟨hj, rfl⟩
    exact ⟨_, h.represents.getElem?_reducedCosts hj, (h.reducedCost j hj).symm⟩
  · rintro ⟨y, hy, rfl⟩
    obtain ⟨hj, rfl⟩ := h.represents.getElem?_reducedCosts_iff.1 hy
    exact ⟨hj, h.reducedCost j hj⟩

theorem entering_eq (h : Rescaled l u p g g') (hl : 0 < l) (rule : PivotRule) :
    rule.entering g'.tableau.reducedCosts = rule.entering g.tableau.reducedCosts := by
  rw [h.reducedCosts_eq, entering_map_mul hl]

theorem takesPart_iff (h : Rescaled l u p g g') (hc : c < p.n.toNat + p.m.toNat) (i : Nat) :
    TakesPart tol g'.tableau c i ↔ TakesPart tol g.tableau c i := by
  rw [TakesPart, TakesPart, h.height_eq]
  refine and_congr_right fun hi => ?_
  rw [h.entry i hi c hc]

theorem ratio_eq (h : Rescaled l u p g g') (hc : c < p.n.toNat + p.m.toNat) {i : Nat}
    (hi : 1 ≤ i) : ratio g'.tableau c i = u * ratio g.tableau c i := by
  rw [ratio, ratio, h.rhs i hi, h.entry i hi c hc, mul_div_assoc]

/-- The row that wins the ratio test is the same, for all ratios are multiplied by the same
    number, ties included. -/
theorem wins (h : Rescaled l u p g g') (hu : 0 < u) (hc : c < p.n.toNat + p.m.toNat)
    (hwins : Wins rule tol g.tableau c g.basis g.tableau.height r) :
    Wins rule tol g'.tableau c g'.basis g'.tableau.height r := by
  have hpart := @h.takesPart_iff _ _ _ _ _ tol c hc
  have hr := h.ratio_eq hc hwins.takesPart.1
  rw [h.height_eq, h.basis]
  refine ⟨(hpart r).2 hwins.takesPart, hwins.before, ?_, ?_, ?_⟩
  · intro i hit hi
    have hi := (hpart i).1 hi
    rw [hr, h.ratio_eq hc hi.1]
    exact mul_le_mul_of_nonneg_left (hwins.least i hit hi) hu.le
  · intro hrule i hir hi
    have hi := (hpart i).1 hi
    rw [hr, h.ratio_eq hc hi.1]
    exact mul_lt_mul_of_pos_left (hwins.first hrule i hir hi) hu
  · intro hrule i hit hi heq
    have hi := (hpart i).1 hi
    rw [hr, h.ratio_eq hc hi.1] at heq
    exact hwins.least_label hrule i hit hi (mul_left_cancel₀ hu.ne' heq)

/-- The rules choose the same row and the same column. -/
theorem chooses (h : Rescaled l u p g g') (hl : 0 < l) (hu : 0 < u)
    (hg : g.Chooses rule tol r c) : g'.Chooses rule tol r c := by
  have hc := (h.represents.enters hg.enters).1
  refine ⟨(h.entering_eq hl rule).trans hg.enters, ?_⟩
  rw [h.represents'.leaving_eq_some_iff hc]
  exact h.wins hu hc (h.represents.wins hg)

/-- A run that stops at a stage stops at the stage in other units with the same ending. -/
theorem outcome?_eq (h : Rescaled l u p g g') (hl : 0 < l) {ending : Except RatioError Status}
    (hend : g.outcome? rule tol = some ending) : g'.outcome? rule tol = some ending := by
  have henter := h.entering_eq hl rule
  rcases @Represents.outcome?_cases p g rule tol h.represents with
    ⟨hopt, hnone⟩ | ⟨hunb, c, hc, hno⟩ | ⟨r, c, hchooses⟩
  · rw [← hend, hopt, Stage.outcome?, henter, hnone]
  · have hlt := (h.represents.enters hc).1
    have hleaves : rule.leaving tol g'.tableau c g'.basis = .ok none := by
      rw [h.represents'.leaving_eq_none_iff hlt]
      exact fun i hi => hno i ((h.takesPart_iff hlt i).1 hi)
    rw [← hend, hunb]
    simp only [Stage.outcome?, henter, hc, hleaves]
  · rw [hchooses.outcome?_eq] at hend
    cases hend

/-! ## The next stages -/

/-- The pivot that the rules choose keeps every part in its unit. -/
theorem pivot (h : Rescaled l u p g g') (hl : 0 < l) (hu : 0 < u) (htol : 0 ≤ tol)
    (hg : g.Chooses rule tol r c) : Rescaled l u p (g.pivot r c) (g'.pivot r c) := by
  obtain ⟨hc, _, _⟩ := h.represents.enters hg.enters
  have hcw := h.represents.column_lt hc
  have hcw' := h.represents'.column_lt hc
  have hr := (h.represents.wins hg).takesPart.1
  have hr0 : 0 ≠ r := (Nat.ne_of_gt hr).symm
  refine ⟨h.represents.chooses_pivot htol hg,
    h.represents'.chooses_pivot htol (h.chooses hl hu hg), ?_, ?_, ?_, ?_, ?_⟩
  · rw [Stage.pivot, Stage.pivot, h.basis]
  · -- the pivot row and the pivot entry have no unit, so each row keeps its own
    intro j hj
    simp only [Stage.pivot, Tableau.entry_pivot hcw, Tableau.entry_pivot hcw', if_neg hr0,
      h.reducedCost j hj, h.reducedCost c hc, h.entry r hr j hj, h.entry r hr c hc]
    ring
  · intro i hi j hj
    simp only [Stage.pivot, Tableau.entry_pivot hcw, Tableau.entry_pivot hcw', h.entry r hr j hj,
      h.entry r hr c hc, h.entry i hi j hj, h.entry i hi c hc]
  · simp only [Stage.pivot, Tableau.rhs_pivot hcw, Tableau.rhs_pivot hcw', if_neg hr0, h.corner,
      h.reducedCost c hc, h.rhs r hr, h.entry r hr c hc]
    ring
  · intro i hi
    simp only [Stage.pivot, Tableau.rhs_pivot hcw, Tableau.rhs_pivot hcw', h.rhs r hr, h.rhs i hi,
      h.entry r hr c hc, h.entry i hi c hc]
    split <;> ring

/-- Stages of both programs are passed in lock step, with the same pivots. -/
theorem lockStep (hl : 0 < l) (hu : 0 < u) (htol : 0 ≤ tol) :
    LockStep rule tol id (Rescaled l u p) where
  stop := fun _ _ h _ hend => h.outcome?_eq hl hend
  pivot := by
    intro g g' h r c hg
    have hr := (h.represents.wins hg).takesPart.1
    have helement := h.entry r hr c (h.represents.enters hg.enters).1
    refine ⟨r, c, h.chooses hl hu hg, h.pivot hl hu htol hg, fun iteration => ?_⟩
    rw [id, helement]

/-! ## Values -/

variable (h : Rescaled 1 u p g g')

include h

/-- When the costs keep their unit, a column of a variable is the same in all rows. -/
theorem entry_eq {j : Nat} (hj : j < p.n.toNat) (i : Nat) :
    g'.tableau.entry i j = g.tableau.entry i j := by
  have hj := Nat.lt_add_right p.m.toNat hj
  cases i with
  | zero => rw [h.reducedCost j hj, one_mul]
  | succ i => exact h.entry (i + 1) (Nat.succ_pos i) j hj

/-- The value of a variable is in the unit of the bounds. -/
theorem valueAt_eq {j : Nat} (hj : j < p.n.toNat) :
    Tableau.valueAt tol g'.tableau j = u * Tableau.valueAt tol g.tableau j := by
  rw [Tableau.valueAt_eq_sum _ h.represents'.width_pos,
    Tableau.valueAt_eq_sum _ h.represents.width_pos, h.height_eq, Finset.mul_sum]
  refine Finset.sum_congr rfl fun i _ => ?_
  rw [mul_ite, mul_zero, h.rhs (i + 1) (Nat.succ_pos i)]
  -- what is left to show is that the column passes for the same rows
  refine if_congr ?_ rfl rfl
  simp only [Tableau.PassesFor, h.height_eq, h.entry_eq hj]

end Stage.Rescaled

/-! ## Solutions -/

variable {s : Settings Rat} {tr tr' : Trace Rat} {status : Status}

/-- Runs on a program and on the program in other units, each from its first stage. -/
theorem IsRun.matches_rescaled (hl : 0 < l) (hu : 0 < u) (htol : 0 ≤ s.pivotTol)
    (hrun : IsRun s p g tr) (hrun' : IsRun s (p.rescale l u) g' tr') :
    Trace.Matches id (Stage.Rescaled l u p) tr tr' := by
  have hfirst := rescaled_first hrun.first hrun'.first
  rw [← hrun.basis, ← hrun'.basis] at hfirst
  rw [hrun.eq_run, hrun'.eq_run]
  exact (Stage.Rescaled.lockStep hl hu htol).run hfirst s.maxIterations 0

/-- A program with a limit has the objective of the corner, which is in both units. -/
theorem Trace.Matches.objective_rescaled
    (h : Trace.Matches id (Stage.Rescaled l u p) tr tr') (hstatus : status ≠ .unbounded) :
    (tr.solution s p status).objective = .value (tr.tableau.rhs 0) ∧
      (tr'.solution s (p.rescale l u) status).objective =
        .value (l * u * tr.tableau.rhs 0) := by
  rw [solution, if_neg hstatus, solution, if_neg hstatus]
  exact ⟨rfl, congrArg Objective.value h.last.corner⟩

/-- The values are in the unit of the bounds when the costs keep theirs. -/
theorem Trace.Matches.values_rescaled (h : Trace.Matches id (Stage.Rescaled 1 u p) tr tr')
    (status : Status) : (tr'.solution s (p.rescale 1 u) status).values =
      (tr.solution s p status).values.map (u * ·) := by
  rw [solution, solution]
  split
  · show List.replicate p.n.toNat (0 : Rat) = (List.replicate p.n.toNat 0).map (u * ·)
    rw [List.map_replicate, mul_zero]
  · show (List.range p.n.toNat).map _ = ((List.range p.n.toNat).map _).map (u * ·)
    rw [List.map_map]
    exact List.map_congr_left fun j hj => h.last.valueAt_eq (List.mem_range.1 hj)

/-- **Changing units does not change the plan.** A valid program is solved in the same passes
    when all costs are multiplied by one positive number and all bounds by another: the status,
    the number of snapshots and the pivots with their entries are the same. Unless the program
    is unbounded, the objective is multiplied by both numbers; and when the costs stay as they
    are, every value is multiplied by the number of the bounds. -/
theorem solve_rescale (hvalid : p.validate = .ok ()) (hl : 0 < l) (hu : 0 < u)
    (htol : 0 ≤ s.pivotTol) :
    ∃ sol sol', solve s p = .ok sol ∧ solve s (p.rescale l u) = .ok sol' ∧
      sol'.status = sol.status ∧ sol'.snapshots.length = sol.snapshots.length ∧
      sol'.pivots = sol.pivots ∧
      (sol.status ≠ .unbounded →
        ∃ z, sol.objective = .value z ∧ sol'.objective = .value (l * u * z)) ∧
      (l = 1 → sol'.values = sol.values.map (u * ·)) := by
  have hp := (validate_eq_ok_iff p).1 hvalid
  obtain ⟨g, tr, htrace, hrun⟩ := trace_of_isValid s hp
  obtain ⟨g', tr', htrace', hrun'⟩ := trace_of_isValid s (hp.rescale l hu)
  have hmatches := hrun.matches_rescaled hl hu htol hrun'
  obtain ⟨status, hend, hsolve⟩ := hrun.solve_eq_ok htrace htol
  obtain ⟨status', hend', hsolve'⟩ := hrun'.solve_eq_ok htrace' htol
  have hstatus : status' = status := by
    rw [hmatches.ending, hend] at hend'
    exact (Except.ok.inj hend').symm
  subst hstatus
  refine ⟨_, _, hsolve, hsolve', ?_, ?_, ?_, ?_, ?_⟩
  · rw [Trace.status_solution, Trace.status_solution]
  · rw [Trace.snapshots_solution, Trace.snapshots_solution, hmatches.snapshots]
  · rw [Trace.pivots_solution, Trace.pivots_solution, hmatches.pivots, List.map_id]
  · rw [Trace.status_solution]
    exact fun hlimit => ⟨_, hmatches.objective_rescaled hlimit⟩
  · rintro rfl
    exact hmatches.values_rescaled status'

/-- The least-index rule meets a tie in the ratio test, in both units. -/
theorem solve_rescale_tiedMachines :
    tiedMachines.validate = .ok () ∧ (0 : Rat) < 1 ∧ (0 : Rat) < 5 / 2 ∧ 0 ≤ lenient.pivotTol ∧
      ∃ sol sol', solve lenient tiedMachines = .ok sol ∧
        solve lenient (tiedMachines.rescale 1 (5 / 2)) = .ok sol' ∧
        sol'.status = sol.status ∧ sol'.snapshots.length = sol.snapshots.length ∧
        sol'.pivots = sol.pivots ∧
        (sol.status ≠ .unbounded →
          ∃ z, sol.objective = .value z ∧ sol'.objective = .value (1 * (5 / 2) * z)) ∧
        ((1 : Rat) = 1 → sol'.values = sol.values.map (5 / 2 * ·)) := by
  have hvalid : tiedMachines.validate = .ok () := by rfl
  have hl : (0 : Rat) < 1 := by decide +kernel
  have hu : (0 : Rat) < 5 / 2 := by decide +kernel
  have htol : 0 ≤ lenient.pivotTol := by decide +kernel
  exact ⟨hvalid, hl, hu, htol, solve_rescale hvalid hl hu htol⟩

end ProductionLP
