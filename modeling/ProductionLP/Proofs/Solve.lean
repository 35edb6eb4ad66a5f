import ProductionLP.Proofs.Fallible
import ProductionLP.Proofs.Pass
import ProductionLP.Proofs.Tableau.Values
import ProductionLP.Solution

/- Runs on programs.

   A run on a valid program starts from its first stage (`trace_of_isValid`) and never fails.
   Every stage of it represents the program (`IsRun.represents`) and, when the tolerance hides
   nothing, has no negative right-hand side (`IsRun.feasible`). The solution reports how the
   run ended and is read off its last stage (`IsRun.solve_eq_ok`). -/
namespace ProductionLP

/-- The tolerance hides nothing on a run. -/
def Trace.Harmless (rule : PivotRule) (tol : Rat) (tr : Trace Rat) : Prop :=
  ∀ sn ∈ tr.snapshots, sn.tableau.Harmless rule tol

instance (rule : PivotRule) (tol : Rat) (tr : Trace Rat) : Decidable (tr.Harmless rule tol) :=
  inferInstanceAs (Decidable (∀ sn ∈ tr.snapshots, sn.tableau.Harmless rule tol))

/-- The tolerance hides nothing in the passes before a given one. -/
def Trace.HarmlessBefore (rule : PivotRule) (tol : Rat) (tr : Trace Rat) (k : Nat) : Prop :=
  ∀ l sn, l < k → tr.snapshots[l]? = some sn → sn.tableau.Harmless rule tol

/-- An exact ratio test hides nothing on any run. -/
theorem Trace.harmless_zero {tol : Rat} (htol : tol = 0) (rule : PivotRule) (tr : Trace Rat) :
    tr.Harmless rule tol := by
  subst htol
  intro sn _
  exact sn.tableau.harmless_zero rule

/-! ## The run on a valid program -/

section Start

variable {α : Type} [Scalar α]

namespace Stage

variable {rule : PivotRule} {tol : α}

/-- A pass keeps the shape of the tableau. -/
theorem shape_next (g : Stage α) : (g.next rule tol).tableau.width = g.tableau.width ∧
    (g.next rule tol).tableau.height = g.tableau.height := by
  unfold next
  split
  · exact ⟨rfl, rfl⟩
  · split
    · exact ⟨Tableau.width_pivot .., Tableau.height_pivot ..⟩
    · exact ⟨rfl, rfl⟩

theorem width_after (g : Stage α) (k : Nat) :
    (g.after rule tol k).tableau.width = g.tableau.width := by
  induction k with
  | zero => rfl
  | succ k ih => rw [after_succ, (shape_next _).1, ih]

theorem height_after (g : Stage α) (k : Nat) :
    (g.after rule tol k).tableau.height = g.tableau.height := by
  induction k with
  | zero => rfl
  | succ k ih => rw [after_succ, (shape_next _).2, ih]

end Stage

/-- A run on a program from its first stage on. -/
structure IsRun (s : Settings α) (p : Program α) (g : Stage α) (tr : Trace α) : Prop where
  valid : p.IsValid
  built : Tableau.ofProgram p = .ok g.tableau
  basis : g.basis = slackBasis p.n.toNat p.m.toNat
  eq_run : tr = run s.rule s.pivotTol s.maxIterations 0 g.tableau g.basis

variable {s : Settings α} {p : Program α} {g : Stage α} {tr : Trace α}

/-- There is a run on every valid program. -/
theorem trace_of_isValid (s : Settings α) (hp : p.IsValid) :
    ∃ g tr, trace s p = .ok tr ∧ IsRun s p g tr := by
  obtain ⟨t, ht, _⟩ := Program.ofProgram_of_isValid hp
  refine ⟨⟨t, slackBasis p.n.toNat p.m.toNat⟩, _, ?_, hp, ht, rfl, rfl⟩
  rw [trace, (Program.validate_eq_ok_iff p).2 hp, ht]
  rfl

/-- Only valid programs are run. -/
theorem isRun_of_trace (h : trace s p = .ok tr) : ∃ g, IsRun s p g tr := by
  have hp : p.IsValid := by
    rw [← Program.validate_eq_ok_iff]
    cases hv : p.validate with
    | error e =>
      rw [trace, hv] at h
      cases h
    | ok => rfl
  obtain ⟨g, tr', htr', hrun⟩ := trace_of_isValid s hp
  have := h.symm.trans htr'
  cases this
  exact ⟨g, hrun⟩

namespace IsRun

theorem first (h : IsRun s p g tr) : p.IsFirst g.tableau := by
  obtain ⟨t, ht, hfirst⟩ := Program.ofProgram_of_isValid h.valid
  have := h.built.symm.trans ht
  cases this
  exact hfirst

theorem follows (h : IsRun s p g tr) :
    tr.Follows s.rule s.pivotTol s.maxIterations 0 g := by
  rw [h.eq_run]
  exact run_follows ..

/-- The stages of a run have the width of the first. -/
theorem width_after (h : IsRun s p g tr) (k : Nat) :
    (g.after s.rule s.pivotTol k).tableau.width = p.n.toNat + p.m.toNat + 1 := by
  rw [Stage.width_after, h.first.width]

/-- The stages of a run have the height of the first. -/
theorem height_after (h : IsRun s p g tr) (k : Nat) :
    (g.after s.rule s.pivotTol k).tableau.height = p.m.toNat + 1 := by
  rw [Stage.height_after, h.first.height]

/-- A run leaves behind the tableau of the stage after its last pivot. -/
theorem tableau_eq (h : IsRun s p g tr) :
    tr.tableau = (g.after s.rule s.pivotTol tr.pivots.length).tableau :=
  congrArg Stage.tableau h.follows.final

/-- A recorded pivot is the choice of the rules at its stage and lies inside the tableau. -/
theorem pivot_at (h : IsRun s p g tr) {k : Nat} {step : PivotStep α}
    (hstep : tr.pivots[k]? = some step) : ∃ row col : Nat,
      step = ⟨k, col, row, (g.after s.rule s.pivotTol k).tableau.entry row col⟩ ∧
      (g.after s.rule s.pivotTol k).Chooses s.rule s.pivotTol row col ∧
      col < p.n.toNat + p.m.toNat ∧ 1 ≤ row ∧ row ≤ p.m.toNat := by
  obtain ⟨row, col, hchooses, hget⟩ := h.follows.pivot k (List.getElem?_eq_some_iff.1 hstep).1
  rw [hstep] at hget
  cases hget
  have hheight := h.height_after k
  have hcol := PivotRule.entering_lt hchooses.enters
  have hrow := PivotRule.leaving_mem hchooses.leaves
  rw [Tableau.length_reducedCosts (by omega), h.width_after, Nat.add_sub_cancel] at hcol
  exact ⟨row, col, by rw [Nat.cast_zero, zero_add], hchooses, hcol, hrow.1, by omega⟩

/-- A snapshot with the basis that the earlier pivots account for is a stage of the run. -/
theorem stage_of_snapshot (h : IsRun s p g tr) {k : Nat} {sn : Snapshot α}
    (hsn : tr.snapshots[k]? = some sn) :
    k ≤ tr.pivots.length ∧ sn.iteration = k ∧
      (⟨sn.tableau, tr.basisAt (slackBasis p.n.toNat p.m.toNat) k⟩ : Stage α) =
        g.after s.rule s.pivotTol k := by
  have hlt := (List.getElem?_eq_some_iff.1 hsn).1
  have hle := h.follows.le_of_lt_snapshots hlt
  have hget := h.follows.snapshot k hlt
  rw [hsn] at hget
  cases hget
  refine ⟨hle, ?_, ?_⟩
  · rw [Nat.cast_zero, zero_add]
  · rw [← h.basis, h.follows.basisAt_eq hle]

end IsRun

end Start

/-! ## Stages on exact numbers -/

variable {s : Settings Rat} {p : Program Rat} {g : Stage Rat} {tr : Trace Rat}

namespace IsRun

theorem represents_start (h : IsRun s p g tr) : p.Represents g := by
  obtain ⟨t, basis⟩ := g
  have hbasis := h.basis
  subst hbasis
  exact Program.represents_first h.first

/-- The first right-hand sides are the bounds. -/
theorem feasible_start (h : IsRun s p g tr) : g.Feasible := by
  intro i hi hit
  rw [h.first.height] at hit
  obtain ⟨k, rfl⟩ := Nat.exists_eq_succ_of_ne_zero (Nat.one_le_iff_ne_zero.1 hi)
  have hbound : g.tableau.rhs (k + 1) = p.bound k := by
    rw [Tableau.rhs, h.first.width, Nat.add_sub_cancel, h.first.bound k (by omega)]
  rw [Nat.succ_eq_add_one, hbound]
  exact h.valid.bound_nonneg k

/-- Every stage of a run represents the program. -/
theorem represents (h : IsRun s p g tr) (htol : 0 ≤ s.pivotTol) :
    ∀ k ≤ tr.pivots.length, p.Represents (g.after s.rule s.pivotTol k) :=
  h.follows.invariant h.represents_start fun _ _ _ _ hchooses hg => hg.chooses_pivot htol hchooses

theorem harmless (h : IsRun s p g tr) (hharmless : tr.Harmless s.rule s.pivotTol) {k : Nat}
    (hk : k < tr.snapshots.length) :
    (g.after s.rule s.pivotTol k).tableau.Harmless s.rule s.pivotTol :=
  hharmless _ (List.mem_of_getElem? (h.follows.snapshot k hk))

/-- As long as the tolerance hides nothing, no stage has a negative right-hand side. -/
theorem feasible_before (h : IsRun s p g tr) (htol : 0 ≤ s.pivotTol) {k : Nat}
    (hk : k ≤ tr.pivots.length) (hharmless : tr.HarmlessBefore s.rule s.pivotTol k) :
    (g.after s.rule s.pivotTol k).Feasible := by
  induction k with
  | zero => exact h.feasible_start
  | succ k ih =>
    obtain ⟨row, col, hchooses, _⟩ := h.follows.pivot k hk
    have hprevious := ih (Nat.le_of_succ_le hk) fun l sn hl => hharmless l sn (Nat.lt_succ_of_lt hl)
    have hsnapshot := h.follows.snapshot k (Nat.lt_of_lt_of_le hk h.follows.length_pivots_le)
    rw [Stage.after_succ, hchooses.next_eq]
    exact (h.represents htol k (Nat.le_of_succ_le hk)).feasible_pivot htol
      (hharmless k _ (Nat.lt_succ_self k) hsnapshot) hchooses hprevious

/-- No stage of a run on which the tolerance hides nothing has a negative right-hand side. -/
theorem feasible (h : IsRun s p g tr) (htol : 0 ≤ s.pivotTol)
    (hharmless : tr.Harmless s.rule s.pivotTol) :
    ∀ k ≤ tr.pivots.length, (g.after s.rule s.pivotTol k).Feasible := fun _ hk =>
  h.feasible_before htol hk fun _ sn _ hsn => hharmless sn (List.mem_of_getElem? hsn)

theorem represents_last (h : IsRun s p g tr) (htol : 0 ≤ s.pivotTol) : p.Represents tr.last := by
  rw [h.follows.final]
  exact h.represents htol _ (le_refl _)

theorem feasible_last (h : IsRun s p g tr) (htol : 0 ≤ s.pivotTol)
    (hharmless : tr.Harmless s.rule s.pivotTol) : tr.last.Feasible := by
  rw [h.follows.final]
  exact h.feasible htol hharmless _ (le_refl _)

/-- The last stage of a run that is not cut off is one that the run looked at. -/
theorem harmless_last (h : IsRun s p g tr) (hharmless : tr.Harmless s.rule s.pivotTol)
    (hlimit : tr.ending ≠ .ok .iterationLimit) :
    tr.last.tableau.Harmless s.rule s.pivotTol := by
  have hlength := (h.follows.outcome?_last hlimit).2
  rw [h.follows.final]
  exact h.harmless hharmless (by rw [hlength]; exact Nat.lt_succ_self _)

/-- A run on a valid program ends with a status, which says what its last stage is like. -/
theorem ending_cases (h : IsRun s p g tr) (htol : 0 ≤ s.pivotTol) :
    tr.ending = .ok .iterationLimit ∧ tr.pivots.length = s.maxIterations ∨
      tr.ending = .ok .optimal ∧ s.rule.entering tr.last.tableau.reducedCosts = none ∨
      tr.ending = .ok .unbounded ∧ ∃ c, s.rule.entering tr.last.tableau.reducedCosts = some c ∧
        ∀ i, ¬ PivotRule.TakesPart s.pivotTol tr.last.tableau c i := by
  rcases h.follows.ending with ⟨hend, hpivots, _⟩ | ⟨houtcome, _, _⟩
  · exact .inl ⟨hend, hpivots⟩
  right
  rw [← h.follows.final] at houtcome
  rcases (h.represents_last htol).outcome?_cases with
    ⟨hopt, hnone⟩ | ⟨hunb, hray⟩ | ⟨r, c, hchooses⟩
  · exact .inl ⟨Option.some.inj (houtcome.symm.trans hopt), hnone⟩
  · exact .inr ⟨Option.some.inj (houtcome.symm.trans hunb), hray⟩
  · rw [hchooses.outcome?_eq] at houtcome
    cases houtcome

theorem entering_of_optimal (h : IsRun s p g tr) (htol : 0 ≤ s.pivotTol)
    (hend : tr.ending = .ok .optimal) : s.rule.entering tr.last.tableau.reducedCosts = none := by
  rcases h.ending_cases htol with ⟨hlimit, _⟩ | ⟨_, hnone⟩ | ⟨hunb, _⟩
  · rw [hend] at hlimit
    cases hlimit
  · exact hnone
  · rw [hend] at hunb
    cases hunb

theorem entering_of_unbounded (h : IsRun s p g tr) (htol : 0 ≤ s.pivotTol)
    (hend : tr.ending = .ok .unbounded) :
    ∃ c, s.rule.entering tr.last.tableau.reducedCosts = some c ∧
      ∀ i, ¬ PivotRule.TakesPart s.pivotTol tr.last.tableau c i := by
  rcases h.ending_cases htol with ⟨hlimit, _⟩ | ⟨hopt, _⟩ | ⟨_, hcolumn⟩
  · rw [hend] at hlimit
    cases hlimit
  · rw [hend] at hopt
    cases hopt
  · exact hcolumn

end IsRun

/-! ## Solutions -/

section Extract

variable {α : Type} [Scalar α] {s : Settings α} {p : Program α} {tr : Trace α} {t : Tableau α}
  {n : Int} {tol : α} {status : Status} {snapshots : List (Snapshot α)}
  {pivots : List (PivotStep α)}

theorem extract_unbounded (hn : 0 ≤ n) (hle : n.toNat ≤ 21) :
    Solution.extract t n .unbounded snapshots pivots tol =
      .ok ⟨.unbounded, List.replicate n.toNat 0, .unlimited, snapshots, pivots⟩ := by
  have hroom : Block.checkRoom [n.toNat] = .ok () :=
    Block.checkRoom_eq_ok (by simp) (by simpa using hle)
  simp only [Solution.extract]
  rw [if_neg (by omega), hroom]
  rfl

/-- A program with a limit has the values of the unit columns and the objective of the corner. -/
theorem extract_of_ne_unbounded (hstatus : status ≠ .unbounded) (hn : 0 ≤ n)
    (hle : n.toNat ≤ 21) (hw : n.toNat < t.width) (hh : 0 < t.height) :
    Solution.extract t n status snapshots pivots tol =
      .ok ⟨status, (List.range n.toNat).map (Tableau.valueAt tol t),
        .value (t.entry 0 (t.width - 1)), snapshots, pivots⟩ := by
  have hvalues := @Tableau.values_eq_ok _ _ tol t n hn hle hw.le
  have hcorner := Tableau.corner?_eq hh (Nat.zero_lt_of_lt hw)
  cases status with
  | unbounded => exact absurd rfl hstatus
  | optimal =>
    simp only [Solution.extract, hvalues, hcorner]
    rfl
  | iterationLimit =>
    simp only [Solution.extract, hvalues, hcorner]
    rfl

/-- The solution of a run that ends with a status is read off its last tableau. -/
theorem solve_eq_extract (htrace : trace s p = .ok tr) (hend : tr.ending = .ok status) :
    solve s p =
      liftFault (Solution.extract tr.tableau p.n status tr.snapshots tr.pivots s.basicTol) := by
  rw [solve, htrace]
  show Solution.ofTrace s p.n tr = _
  simp only [Solution.ofTrace, hend]

end Extract

section Solutions

variable {sol : Solution Rat} {status : Status}

/-- What is read off the last stage of a run. -/
def Trace.solution (s : Settings Rat) (p : Program Rat) (tr : Trace Rat) (status : Status) :
    Solution Rat :=
  if status = .unbounded then
    ⟨status, List.replicate p.n.toNat 0, .unlimited, tr.snapshots, tr.pivots⟩
  else
    ⟨status, (List.range p.n.toNat).map (Tableau.valueAt s.basicTol tr.tableau),
      .value (tr.tableau.rhs 0), tr.snapshots, tr.pivots⟩

theorem Trace.status_solution (s : Settings Rat) (p : Program Rat) (tr : Trace Rat)
    (status : Status) : (tr.solution s p status).status = status := by
  rw [Trace.solution]
  split <;> rfl

/-- A valid program is solved: the run ends with a status, and the solution is read off its
    last stage. -/
theorem IsRun.solve_eq_ok (h : IsRun s p g tr) (htrace : trace s p = .ok tr)
    (htol : 0 ≤ s.pivotTol) :
    ∃ status, tr.ending = .ok status ∧ solve s p = .ok (tr.solution s p status) := by
  have hstatus : ∃ status, tr.ending = .ok status := by
    rcases h.ending_cases htol with ⟨hend, _⟩ | ⟨hend, _⟩ | ⟨hend, _⟩ <;> exact ⟨_, hend⟩
  obtain ⟨status, hend⟩ := hstatus
  refine ⟨status, hend, ?_⟩
  have hn : 0 ≤ p.n := by have := h.valid.n_pos; omega
  have hle : p.n.toNat ≤ 21 := by have := h.valid.n_le; omega
  have hlast := h.represents_last htol
  have hw : p.n.toNat < tr.tableau.width := by
    have := hlast.width
    change tr.tableau.width = _ at this
    omega
  rw [solve_eq_extract htrace hend, Trace.solution]
  split
  · next hu =>
    rw [hu, extract_unbounded hn hle]
    rfl
  · next hu =>
    rw [extract_of_ne_unbounded hu hn hle hw hlast.height_pos]
    rfl

theorem Trace.snapshots_solution (s : Settings Rat) (p : Program Rat) (tr : Trace Rat)
    (status : Status) : (tr.solution s p status).snapshots = tr.snapshots := by
  rw [Trace.solution]
  split <;> rfl

theorem Trace.pivots_solution (s : Settings Rat) (p : Program Rat) (tr : Trace Rat)
    (status : Status) : (tr.solution s p status).pivots = tr.pivots := by
  rw [Trace.solution]
  split <;> rfl

theorem IsRun.solution_of_solve (h : IsRun s p g tr) (htrace : trace s p = .ok tr)
    (htol : 0 ≤ s.pivotTol) (hsolve : solve s p = .ok sol) :
    tr.ending = .ok sol.status ∧ sol = tr.solution s p sol.status := by
  obtain ⟨status, hend, heq⟩ := h.solve_eq_ok htrace htol
  have hsol : sol = tr.solution s p status := Except.ok.inj (hsolve.symm.trans heq)
  have hstatus : sol.status = status := by rw [hsol, Trace.status_solution]
  rw [hstatus]
  exact ⟨hend, hsol⟩

end Solutions

end ProductionLP
