import ProductionLP.Proofs.Bland
import ProductionLP.Proofs.Outcome
import ProductionLP.Report

/- The objective along a run.

   The report on the passes has a row for every recorded tableau, with its corner in the column
   of the objective (`IsRun.exists_progressRows`). On a run on which the tolerance hides nothing
   this column never falls (`Trace.Climbs.rising`): a pivot lifts it by the reduced cost of the
   entering column, with its sign changed, times the least ratio (`Trace.Climbs.gain`). A run
   that comes back to a set of basic columns has stood still in between
   (`Trace.Climbs.standstill`), so under either rule only pivots of ratio zero can make a run go
   round, and a run without one comes to its end. `standstill`, run by the greatest decrease,
   does go round. -/
namespace ProductionLP

open PivotRule

/-- A report on tableaus with a corner has one row for each of them. -/
theorem Report.progressRows_eq_ok {snapshots : List (Snapshot Rat)}
    (h : ∀ sn ∈ snapshots, sn.tableau.corner? = some (sn.tableau.rhs 0)) :
    progressRows snapshots = .ok (snapshots.map fun sn => (sn.iteration, sn.tableau.rhs 0)) := by
  induction snapshots with
  | nil => rfl
  | cons sn rest ih =>
    obtain ⟨hcorner, hrest⟩ := List.forall_mem_cons.1 h
    rw [progressRows, hcorner, ih hrest]
    rfl

namespace Trace

/-- The ratio of the row that leaves in a recorded pivot. -/
def ratioAt? (tr : Trace Rat) (k : Nat) : Option Rat :=
  match tr.snapshots[k]?, tr.pivots[k]? with
  | some sn, some step => some (ratio sn.tableau step.column.toNat step.row.toNat)
  | _, _ => none

/-- How the objective, listed in a column of a report, goes along a run. The tableau after the
    last pivot of a run that is cut off is not recorded, so its corner is added to the column. -/
structure Climbs (s : Settings Rat) (p : Program Rat) (tr : Trace Rat) (column : List Rat) :
    Prop where
  corner : tr.snapshots.map (·.tableau.corner?) = column.map some
  rising : column.Pairwise (· ≤ ·)
  gain : ∀ (k : Nat) (sn : Snapshot Rat) (step : PivotStep Rat),
    tr.snapshots[k]? = some sn → tr.pivots[k]? = some step →
    ∃ θ, tr.ratioAt? k = some θ ∧
      IsLeast (ratio sn.tableau step.column.toNat ''
        {i | TakesPart s.pivotTol sn.tableau step.column.toNat i}) θ ∧
      (column ++ [tr.tableau.rhs 0])[k + 1]? =
        some (sn.tableau.rhs 0 - sn.tableau.entry 0 step.column.toNat * θ)
  standstill : ∀ k l, k < l → l < tr.snapshots.length →
    (tr.basisAt (slackBasis p.n.toNat p.m.toNat) k).toFinset =
      (tr.basisAt (slackBasis p.n.toNat p.m.toNat) l).toFinset →
    (∀ i, k ≤ i → i < l → tr.ratioAt? i = some 0) ∧
      ∀ i, k ≤ i → i ≤ l → column[i]? = column[k]?

end Trace

namespace IsRun

variable {s : Settings Rat} {p : Program Rat} {g : Stage Rat} {tr : Trace Rat}

/-! ## The recorded numbers as numbers of the stages -/

theorem corner?_of_snapshot (h : IsRun s p g tr) {sn : Snapshot Rat} (hsn : sn ∈ tr.snapshots) :
    sn.tableau.corner? = some (sn.tableau.rhs 0) := by
  obtain ⟨k, hk⟩ := List.mem_iff_getElem?.1 hsn
  obtain ⟨_, _, hstage⟩ := h.stage_of_snapshot hk
  have htableau : sn.tableau = (g.after s.rule s.pivotTol k).tableau := congrArg Stage.tableau hstage
  have hheight := h.height_after k
  have hwidth := h.width_after k
  rw [← htableau] at hheight hwidth
  exact Tableau.corner?_eq (by omega) (by omega)

/-- The two columns of the report on a run. -/
theorem exists_progressRows (h : IsRun s p g tr) :
    ∃ rows, Report.progressRows tr.snapshots = .ok rows ∧
      rows.map Prod.fst = tr.snapshots.map (·.iteration) ∧
      rows.map Prod.snd = tr.snapshots.map (·.tableau.rhs 0) := by
  refine ⟨_, Report.progressRows_eq_ok fun sn hsn => h.corner?_of_snapshot hsn, ?_, ?_⟩
  · rw [List.map_map]
    rfl
  · rw [List.map_map]
    rfl

variable {column : List Rat} (hcolumn : column = tr.snapshots.map (·.tableau.rhs 0))
include hcolumn

theorem getElem?_column (h : IsRun s p g tr) {k : Nat} (hk : k < tr.snapshots.length) :
    column[k]? = some ((g.after s.rule s.pivotTol k).tableau.rhs 0) := by
  rw [hcolumn, List.getElem?_map, h.follows.snapshot k hk]
  rfl

/-- With the last tableau there is a number for the stage after every pivot. -/
theorem getElem?_column_append (h : IsRun s p g tr) {k : Nat} (hk : k ≤ tr.pivots.length) :
    (column ++ [tr.tableau.rhs 0])[k]? =
      some ((g.after s.rule s.pivotTol k).tableau.rhs 0) := by
  have hlength : column.length = tr.snapshots.length := by rw [hcolumn, List.length_map]
  have hle := h.follows.length_pivots_le
  rcases Nat.lt_or_ge k tr.snapshots.length with hlt | hge
  · rw [List.getElem?_append_left (by omega), h.getElem?_column hcolumn hlt]
  · -- the run was cut off, and this is the stage that it leaves behind
    have hlast : k = tr.pivots.length := by omega
    have hfinal : tr.tableau = (g.after s.rule s.pivotTol k).tableau := by
      rw [hlast, h.tableau_eq]
    have hzero : k - column.length = 0 := by omega
    rw [List.getElem?_append_right (by omega), hzero, ← hfinal]
    rfl

omit hcolumn

theorem ratioAt?_eq (h : IsRun s p g tr) {k row col : Nat} {x : Rat} (hk : k < tr.pivots.length)
    (hstep : tr.pivots[k]? = some ⟨k, col, row, x⟩) :
    tr.ratioAt? k = some (ratio (g.after s.rule s.pivotTol k).tableau col row) := by
  have hsnapshot := h.follows.snapshot k (hk.trans_le h.follows.length_pivots_le)
  simp only [Trace.ratioAt?, hsnapshot, hstep, Int.toNat_natCast]

theorem basis_iff_of_basisAt (h : IsRun s p g tr) {k l : Nat} (hk : k ≤ tr.pivots.length)
    (hl : l ≤ tr.pivots.length)
    (hsame : (tr.basisAt (slackBasis p.n.toNat p.m.toNat) k).toFinset =
      (tr.basisAt (slackBasis p.n.toNat p.m.toNat) l).toFinset) (j : Nat) :
    j ∈ (g.after s.rule s.pivotTol l).basis ↔ j ∈ (g.after s.rule s.pivotTol k).basis := by
  rw [← h.basis, h.follows.basisAt_eq hk, h.follows.basisAt_eq hl] at hsame
  rw [← List.mem_toFinset, ← hsame, List.mem_toFinset]

/-! ## The account of the objective -/

theorem climbs (h : IsRun s p g tr) (htol : 0 ≤ s.pivotTol)
    (hharmless : tr.Harmless s.rule s.pivotTol)
    (hcolumn : column = tr.snapshots.map (·.tableau.rhs 0)) : tr.Climbs s p column := by
  obtain ⟨row, col, hpasses, hpivots⟩ := h.exists_passes htol hharmless
  constructor
  case corner =>
    rw [hcolumn, List.map_map]
    exact List.map_congr_left fun sn hsn => h.corner?_of_snapshot hsn
  case rising =>
    rw [List.pairwise_iff_getElem]
    intro i j hi hj hij
    have hlength : column.length = tr.snapshots.length := by rw [hcolumn, List.length_map]
    have hci := h.getElem?_column hcolumn (k := i) (by omega)
    have hcj := h.getElem?_column hcolumn (k := j) (by omega)
    rw [List.getElem?_eq_getElem hi] at hci
    rw [List.getElem?_eq_getElem hj] at hcj
    rw [Option.some.inj hci, Option.some.inj hcj]
    exact hpasses.corner_le hij.le (h.follows.le_of_lt_snapshots (by omega))
  case gain =>
    intro k sn step hsn hstep
    have hk : k < tr.pivots.length := (List.getElem?_eq_some_iff.1 hstep).1
    have hsnapshot := h.follows.snapshot k (hk.trans_le h.follows.length_pivots_le)
    cases hsn.symm.trans hsnapshot
    cases hstep.symm.trans (hpivots k hk)
    refine ⟨_, h.ratioAt?_eq hk (hpivots k hk), ⟨?_, ?_⟩, ?_⟩
    · exact ⟨row k, hpasses.takesPart hk, rfl⟩
    · rintro _ ⟨i, hi, rfl⟩
      exact (hpasses.wins hk).least i hi.2.1 hi
    · rw [h.getElem?_column_append hcolumn hk]
      exact congrArg some (hpasses.corner_succ hk)
  case standstill =>
    intro k l hkl hl hsame
    have hle : l ≤ tr.pivots.length := h.follows.le_of_lt_snapshots hl
    have hbasis := h.basis_iff_of_basisAt (hkl.le.trans hle) hle hsame
    have hcorner := hpasses.corner_eq_of_basis hkl.le hle hbasis
    refine ⟨fun i hki hil => ?_, fun i hki hil => ?_⟩
    · have hi : i < tr.pivots.length := hil.trans_le hle
      rw [h.ratioAt?_eq hi (hpivots i hi)]
      exact congrArg some (hpasses.ratio_eq_zero_of_corner_eq hle hcorner hki hil)
    · rw [h.getElem?_column hcolumn (hil.trans_lt hl), h.getElem?_column hcolumn (hkl.trans hl)]
      exact congrArg some (hpasses.corner_eq_between hle hcorner hki hil)

/-- A run without a pivot of ratio zero never comes back to a set of basic columns, and so is
    shorter than the number of such sets. -/
theorem length_pivots_lt_of_ratio_ne_zero (h : IsRun s p g tr) (htol : 0 ≤ s.pivotTol)
    (hharmless : tr.Harmless s.rule s.pivotTol)
    (hne : ∀ k < tr.pivots.length, tr.ratioAt? k ≠ some 0) :
    tr.pivots.length < (p.n.toNat + p.m.toNat).choose p.m.toNat := by
  obtain ⟨row, col, hpasses, hpivots⟩ := h.exists_passes htol hharmless
  apply h.length_pivots_lt_of_basis_ne htol
  intro k l hkl hl hsame
  have hk : k < tr.pivots.length := hkl.trans_le hl
  have hcorner := hpasses.corner_eq_of_basis hkl.le hl fun j => by
    rw [← List.mem_toFinset, ← hsame, List.mem_toFinset]
  apply hne k hk
  rw [h.ratioAt?_eq hk (hpivots k hk)]
  exact congrArg some (hpasses.ratio_eq_zero_of_corner_eq hl hcorner (le_refl k) hkl)

end IsRun

/-- **The objective never falls, and only pivots of ratio zero can go round.** A valid program is
    solved, and the report on the passes has a row for each. When the tolerance hides nothing on
    the run, the column of the objective rises by what each pivot gains and stands still between
    two visits to the same basic columns; and without a pivot of ratio zero, and with as many
    pivots allowed as there are ways to choose one column for every constraint, the run is not
    cut off. -/
theorem objective_climbs {s : Settings Rat} {p : Program Rat} (hvalid : p.validate = .ok ())
    (htol : 0 ≤ s.pivotTol) :
    ∃ tr sol rows, trace s p = .ok tr ∧ solve s p = .ok sol ∧ sol.snapshots = tr.snapshots ∧
      sol.pivots = tr.pivots ∧ Report.progressRows sol.snapshots = .ok rows ∧
      rows.map Prod.fst = sol.snapshots.map (·.iteration) ∧
      (tr.Harmless s.rule s.pivotTol → tr.Climbs s p (rows.map Prod.snd) ∧
        ((∀ k < tr.pivots.length, tr.ratioAt? k ≠ some 0) →
          (p.n.toNat + p.m.toNat).choose p.m.toNat ≤ s.maxIterations →
          sol.status ≠ .iterationLimit)) := by
  obtain ⟨g, tr, htrace, hrun⟩ := trace_of_isValid s ((Program.validate_eq_ok_iff p).1 hvalid)
  obtain ⟨status, hend, hsolve⟩ := hrun.solve_eq_ok htrace htol
  obtain ⟨rows, hrows, hpasses, hcolumn⟩ := hrun.exists_progressRows
  have hsnapshots := tr.snapshots_solution s p status
  rw [← hsnapshots] at hrows hpasses
  refine ⟨tr, _, rows, htrace, hsolve, hsnapshots, tr.pivots_solution s p status, hrows, hpasses,
    fun hharmless => ⟨hrun.climbs htol hharmless hcolumn, fun hne hlimit hstatus => ?_⟩⟩
  rw [Trace.status_solution] at hstatus
  subst hstatus
  have hcount := (hrun.follows.lengths_of_cut_off hend).2
  have hlt := hrun.length_pivots_lt_of_ratio_ne_zero htol hharmless hne
  omega

/-- The rule of the greatest decrease, cut off after two rounds of six pivots. -/
def restless : Settings Rat := ⟨12, .dantzig, 0, 1 / 10000000000⟩

/-- On one program the rule of the greatest decrease goes round, and stands still on the way; on
    another no pivot has ratio zero, and the run ends by itself. -/
theorem objective_climbs_standstill :
    (standstill.validate = .ok () ∧ 0 ≤ restless.pivotTol ∧
      ∃ tr sol rows, trace restless standstill = .ok tr ∧
        tr.Harmless restless.rule restless.pivotTol ∧
        solve restless standstill = .ok sol ∧ sol.status = .iterationLimit ∧
        Report.progressRows sol.snapshots = .ok rows ∧
        (tr.basisAt (slackBasis 4 3) 0).toFinset = (tr.basisAt (slackBasis 4 3) 6).toFinset ∧
        (∀ i < 6, tr.ratioAt? i = some 0) ∧
        ∀ i ≤ 6, (rows.map Prod.snd)[i]? = (rows.map Prod.snd)[0]?) ∧
    sharedMachines.validate = .ok () ∧ 0 ≤ coarse.pivotTol ∧
      ∃ tr sol rows, trace coarse sharedMachines = .ok tr ∧
        tr.Harmless coarse.rule coarse.pivotTol ∧
        (∀ k < tr.pivots.length, tr.ratioAt? k ≠ some 0) ∧
        Report.progressRows sol.snapshots = .ok rows ∧
        tr.Climbs coarse sharedMachines (rows.map Prod.snd) ∧
        solve coarse sharedMachines = .ok sol ∧ sol.status ≠ .iterationLimit := by
  refine ⟨?_, ?_⟩
  · have hvalid : standstill.validate = .ok () := by decide +kernel
    have htol : 0 ≤ restless.pivotTol := by decide +kernel
    obtain ⟨tr, sol, rows, htrace, hsolve, _, _, hrows, _, hharmlessly⟩ :=
      objective_climbs hvalid htol
    obtain ⟨tr', htrace', hharmless, hlength, hround⟩ :
        ∃ tr, trace restless standstill = .ok tr ∧ tr.Harmless restless.rule restless.pivotTol ∧
          6 < tr.snapshots.length ∧
          (tr.basisAt (slackBasis 4 3) 0).toFinset = (tr.basisAt (slackBasis 4 3) 6).toFinset :=
      exists_of_mem_toOption (by decide +kernel)
    obtain ⟨sol', hsolve', hstatus⟩ :
        ∃ sol, solve restless standstill = .ok sol ∧ sol.status = .iterationLimit :=
      exists_of_mem_toOption (by decide +kernel)
    cases htrace.symm.trans htrace'
    cases hsolve.symm.trans hsolve'
    obtain ⟨hratio, hcolumn⟩ :=
      (hharmlessly hharmless).1.standstill 0 6 (by decide) hlength hround
    exact ⟨hvalid, htol, tr, sol, rows, htrace, hharmless, hsolve, hstatus, hrows, hround,
      fun i hi => hratio i (Nat.zero_le i) hi, fun i hi => hcolumn i (Nat.zero_le i) hi⟩
  · have hvalid : sharedMachines.validate = .ok () := by decide +kernel
    have htol : 0 ≤ coarse.pivotTol := by decide +kernel
    obtain ⟨tr, sol, rows, htrace, hsolve, _, _, hrows, _, hharmlessly⟩ :=
      objective_climbs hvalid htol
    obtain ⟨tr', htrace', hharmless, hne⟩ :
        ∃ tr, trace coarse sharedMachines = .ok tr ∧ tr.Harmless coarse.rule coarse.pivotTol ∧
          ∀ k < tr.pivots.length, tr.ratioAt? k ≠ some 0 :=
      exists_of_mem_toOption (by decide +kernel)
    cases htrace.symm.trans htrace'
    obtain ⟨hclimbs, hends⟩ := hharmlessly hharmless
    exact ⟨hvalid, htol, tr, sol, rows, htrace, hharmless, hne, hrows, hclimbs, hsolve,
      hends hne (by decide)⟩

end ProductionLP
