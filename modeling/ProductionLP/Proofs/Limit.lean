import ProductionLP.Proofs.RatioTest

/- Runs with a lower limit.

   The limit on the number of pivots only says where a run breaks off. Two runs from one stage
   go through the same passes for as long as both may pivot, so

   1. a run that ends by itself before it has made as many pivots as the lower limit allows is
      the same run under both limits;
   2. otherwise the run under the lower limit looks at the first stages of the other run and
      makes its first pivots, and is cut off there (`run_truncate`).

   The limit is looked at after a pivot and before the next stage is, so a run that reaches an
   optimum with the last pivot that the lower limit allows is cut off too: `solve_limit_sample`
   is such a run. Nothing here depends on the arithmetic. -/
namespace ProductionLP

variable {α : Type}

/-! ## Runs from one stage -/

/-- A trace breaks off another after `k` pivots: it is cut off there, and the stage after the
    last of them is not looked at. -/
structure Trace.BreaksOff (k : Nat) (tr tr' : Trace α) : Prop where
  ending : tr.ending = .ok .iterationLimit
  le_pivots : k ≤ tr'.pivots.length
  pivots : tr.pivots = tr'.pivots.take k
  snapshots : tr.snapshots = tr'.snapshots.take k

/-- A run that may not pivot breaks off every other. -/
theorem Trace.breaksOff_zero (t : Tableau α) (basis : List Nat) (tr : Trace α) :
    BreaksOff 0 ⟨[], [], t, basis, .ok .iterationLimit⟩ tr :=
  ⟨rfl, Nat.zero_le _, List.take_zero.symm, List.take_zero.symm⟩

theorem Trace.BreaksOff.cons {k : Nat} {tr tr' : Trace α} (h : BreaksOff k tr tr')
    (snapshot : Snapshot α) (step : PivotStep α) :
    BreaksOff (k + 1) (Trace.cons snapshot step tr) (Trace.cons snapshot step tr') where
  ending := h.ending
  le_pivots := Nat.succ_le_succ h.le_pivots
  pivots := congrArg (step :: ·) h.pivots
  snapshots := congrArg (snapshot :: ·) h.snapshots

variable [Scalar α]

/-- A run under a lower limit is the same run, which ends before it comes to the limit, or
    breaks it off. -/
theorem run_truncate (rule : PivotRule) (tol : α) {k k' : Nat} (hle : k ≤ k') (iteration : Nat)
    (g : Stage α) :
    ((run rule tol k' iteration g.tableau g.basis).pivots.length < k ∧
        run rule tol k iteration g.tableau g.basis = run rule tol k' iteration g.tableau g.basis) ∨
      (run rule tol k iteration g.tableau g.basis).BreaksOff k
        (run rule tol k' iteration g.tableau g.basis) := by
  induction k generalizing k' iteration g with
  -- the limit is looked at before the stage, so even a run that is done is cut off here
  | zero => exact .inr (Trace.breaksOff_zero ..)
  | succ k ih =>
    obtain ⟨k', rfl⟩ : ∃ n, k' = n + 1 := Nat.exists_eq_succ_of_ne_zero (Nat.ne_zero_of_lt hle)
    cases hend : g.outcome? rule tol with
    | some ending =>
      -- both runs stop at the first stage
      rw [run_of_outcome? hend, run_of_outcome? hend]
      exact .inl ⟨Nat.succ_pos k, rfl⟩
    | none =>
      obtain ⟨row, col, hchooses⟩ := Stage.exists_chooses hend
      rw [run_of_chooses hchooses, run_of_chooses hchooses]
      rcases ih (Nat.le_of_succ_le_succ hle) (iteration + 1) (g.pivot row col) with
        ⟨hlt, hsame⟩ | hbreaks
      · exact .inl ⟨Nat.succ_lt_succ hlt, by rw [hsame]⟩
      · exact .inr (hbreaks.cons ..)

/-! ## Solutions -/

variable {s : Settings α} {p : Program α} {g : Stage α} {tr : Trace α} {sol : Solution α}

/-- The trace of a program is that of its run. -/
theorem IsRun.trace_eq_ok (h : IsRun s p g tr) : trace s p = .ok tr := by
  obtain ⟨t, basis⟩ := g
  have hbasis := h.basis
  dsimp only at hbasis
  subst hbasis
  rw [trace, (Program.validate_eq_ok_iff p).2 h.valid, h.built, h.eq_run]
  rfl

/-- The snapshots and the pivots of a solution are those of a run that ends with its status. -/
theorem exists_run_of_solve (hsolve : solve s p = .ok sol) :
    ∃ g tr, IsRun s p g tr ∧ tr.ending = .ok sol.status ∧ sol.snapshots = tr.snapshots ∧
      sol.pivots = tr.pivots := by
  obtain ⟨tr, status, htrace, hend, hextract⟩ := exists_trace_of_solve hsolve
  obtain ⟨g, hrun⟩ := isRun_of_trace htrace
  obtain ⟨hstatus, hsnapshots, hpivots, _⟩ := Solution.of_extract hextract
  exact ⟨g, tr, hrun, hstatus ▸ hend, hsnapshots, hpivots⟩

/-- Settings that differ in the limit only read the same solution off a trace. -/
theorem solve_of_same_trace {k k' : Nat}
    (h : trace { s with maxIterations := k } p = trace { s with maxIterations := k' } p) :
    solve { s with maxIterations := k } p = solve { s with maxIterations := k' } p := by
  rw [solve, solve, h]
  rfl

/-- **The limit only truncates.** When a program is solved under a limit, it is solved under a
    lower limit `k` too. If the run makes fewer than `k` pivots, the solution is the same. If it
    makes `k` or more, the run under the lower limit is cut off after `k` of them, and its
    snapshots and pivots are the first `k` of the other run. -/
theorem solve_limit {k k' : Nat} {sol' : Solution α} (hle : k ≤ k')
    (hsolve : solve { s with maxIterations := k' } p = .ok sol') :
    ∃ sol, solve { s with maxIterations := k } p = .ok sol ∧
      (sol'.pivots.length < k → sol = sol') ∧
      (k ≤ sol'.pivots.length → sol.status = .iterationLimit ∧
        sol.pivots.length = k ∧ sol.snapshots.length = k ∧
        sol.pivots = sol'.pivots.take k ∧ sol.snapshots = sol'.snapshots.take k) := by
  obtain ⟨g, tr', hrun', _, hsnapshots', hpivots'⟩ := exists_run_of_solve hsolve
  have hrun : IsRun { s with maxIterations := k } p g
      (run s.rule s.pivotTol k 0 g.tableau g.basis) :=
    ⟨hrun'.valid, hrun'.built, hrun'.basis, rfl⟩
  have htruncate := run_truncate s.rule s.pivotTol hle 0 g
  rw [← hrun'.eq_run, ← hpivots'] at htruncate
  rcases htruncate with ⟨hlt, hsame⟩ | hbreaks
  · refine ⟨sol', ?_, fun _ => rfl, fun hge => absurd hlt (Nat.not_lt.2 hge)⟩
    rw [← hsolve]
    apply solve_of_same_trace
    rw [hrun.trace_eq_ok, hrun'.trace_eq_ok, hsame]
  · obtain ⟨sol, hsol, hstatus, _⟩ := hrun.solve_of_ending hrun.trace_eq_ok hbreaks.ending
    obtain ⟨g₀, tr₀, hrun₀, _, hsnapshots, hpivots⟩ := exists_run_of_solve hsol
    cases hrun.trace_eq_ok.symm.trans hrun₀.trace_eq_ok
    obtain ⟨hlooks, hcount⟩ := hrun.follows.lengths_of_cut_off hbreaks.ending
    refine ⟨sol, hsol, fun hlt => ?_, fun _ => ⟨hstatus, ?_, ?_, ?_, ?_⟩⟩
    · rw [hpivots'] at hlt
      exact absurd hbreaks.le_pivots (Nat.not_le.2 hlt)
    · rw [hpivots]
      exact hcount
    · rw [hsnapshots]
      exact hlooks
    · rw [hpivots, hpivots']
      exact hbreaks.pivots
    · rw [hsnapshots, hsnapshots']
      exact hbreaks.snapshots

/-- The sample program needs one pivot: with no limit in the way it is solved to an optimum, and
    with a limit of one it is cut off at the same plan. -/
theorem solve_limit_sample :
    ∃ sol', 1 ≤ 100 ∧
      solve { Settings.standard with maxIterations := 100 } Program.sample = .ok sol' ∧
      sol'.status = .optimal ∧ sol'.pivots.length = 1 ∧
      ∃ sol, solve { Settings.standard with maxIterations := 1 } Program.sample = .ok sol ∧
        (sol'.pivots.length < 1 → sol = sol') ∧
        (1 ≤ sol'.pivots.length → sol.status = .iterationLimit ∧
          sol.pivots.length = 1 ∧ sol.snapshots.length = 1 ∧
          sol.pivots = sol'.pivots.take 1 ∧ sol.snapshots = sol'.snapshots.take 1) := by
  obtain ⟨sol', hsolve, hstatus, hpivots⟩ : ∃ sol',
      solve { Settings.standard with maxIterations := 100 } Program.sample = .ok sol' ∧
        sol'.status = .optimal ∧ sol'.pivots.length = 1 :=
    exists_of_mem_toOption (by decide +kernel)
  have hle : 1 ≤ 100 := by decide
  exact ⟨sol', hle, hsolve, hstatus, hpivots, solve_limit hle hsolve⟩

end ProductionLP
