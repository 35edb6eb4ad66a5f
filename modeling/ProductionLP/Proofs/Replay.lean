import ProductionLP.Proofs.Solve

/- The recorded trace.

   A solution carries every tableau that the run looked at and every pivot that it made. The
   two lists account for the run completely (`Solution.Replays`):

   1. snapshots and pivots are numbered by passes, and the first snapshot is the first tableau
      of the program;
   2. a pivot is what the rules choose on the snapshot of its pass, with the basis that the
      earlier pivots lead to, and the next snapshot is the snapshot after that pivot;
   3. there is one snapshot more than there are pivots, unless the run is cut off: the tableau
      after the last pivot is then looked at no more;
   4. values and objective are read off the tableau that all pivots lead to.

   Nothing here depends on the arithmetic, so it holds of doubles as of exact numbers. -/
namespace ProductionLP

variable {α : Type} [Scalar α]

/-- The snapshots and pivots of a solution account for its run from the first tableau of the
    program to the tableau that it is read off. -/
structure Solution.Replays (s : Settings α) (p : Program α) (first : Tableau α)
    (sol : Solution α) : Prop where
  start : sol.snapshots[0]? = some ⟨0, first⟩
  snapshot_number : ∀ (k : Nat) (sn : Snapshot α), sol.snapshots[k]? = some sn → sn.iteration = k
  pivot_number : ∀ (k : Nat) (step : PivotStep α), sol.pivots[k]? = some step → step.iteration = k
  column_mem : ∀ step ∈ sol.pivots, 0 ≤ step.column ∧ step.column < p.n + p.m
  row_mem : ∀ step ∈ sol.pivots, 1 ≤ step.row ∧ step.row ≤ p.m
  snapshot_of_pivot : sol.pivots.length ≤ sol.snapshots.length
  chosen : ∀ (k : Nat) (sn : Snapshot α) (step : PivotStep α),
    sol.snapshots[k]? = some sn → sol.pivots[k]? = some step →
    Stage.Chooses s.rule s.pivotTol
      ⟨sn.tableau, (Stage.replay ⟨first, slackBasis p.n.toNat p.m.toNat⟩ (sol.pivots.take k)).basis⟩
      step.row.toNat step.column.toNat
  element : ∀ (k : Nat) (sn : Snapshot α) (step : PivotStep α),
    sol.snapshots[k]? = some sn → sol.pivots[k]? = some step →
    sn.tableau.entry? step.row.toNat step.column.toNat = some step.element
  next : ∀ (k : Nat) (sn sn' : Snapshot α) (step : PivotStep α),
    sol.snapshots[k]? = some sn → sol.pivots[k]? = some step →
    sol.snapshots[k + 1]? = some sn' →
    sn'.tableau = sn.tableau.pivot step.row.toNat step.column.toNat
  cut_off : sol.status = .iterationLimit →
    sol.snapshots.length = s.maxIterations ∧ sol.pivots.length = s.maxIterations
  ended : sol.status ≠ .iterationLimit → sol.snapshots.length = sol.pivots.length + 1
  reading : sol.status ≠ .unbounded → ∃ last z,
    last = (Stage.replay ⟨first, slackBasis p.n.toNat p.m.toNat⟩ sol.pivots).tableau ∧
    last.corner? = some z ∧ sol.objective = .value z ∧
    last.values p.n s.basicTol = .ok sol.values

variable {s : Settings α} {p : Program α} {g : Stage α} {tr : Trace α} {sol : Solution α}

/-! ## What a solution is read off -/

/-- A solution with a limit: the values come first, then the corner. -/
theorem Solution.extract_eq_bind {t : Tableau α} {n : Int} {status : Status}
    {snapshots : List (Snapshot α)} {pivots : List (PivotStep α)} {tol : α}
    (hstatus : status ≠ .unbounded) :
    extract t n status snapshots pivots tol = t.values n tol >>= fun values =>
      match t.corner? with
      | none => throw .outOfRange
      | some z => return ⟨status, values, .value z, snapshots, pivots⟩ := by
  cases status with
  | unbounded => exact absurd rfl hstatus
  | optimal => rfl
  | iterationLimit => rfl

/-- A solution without limit holds nothing of the tableau. -/
theorem Solution.eq_of_extract_unbounded {t : Tableau α} {n : Int} {snapshots : List (Snapshot α)}
    {pivots : List (PivotStep α)} {tol : α}
    (h : extract t n .unbounded snapshots pivots tol = .ok sol) :
    sol = ⟨.unbounded, List.replicate n.toNat 0, .unlimited, snapshots, pivots⟩ := by
  rw [extract] at h
  by_cases hn : n < 0
  · rw [if_pos hn] at h
    cases h
  · rw [if_neg hn] at h
    obtain ⟨_, _, h⟩ := exists_of_bind_eq_ok h
    cases h
    rfl

/-- A solution keeps the status, the snapshots and the pivots that it is given. With a limit
    its values and its objective are those of the tableau. -/
theorem Solution.of_extract {t : Tableau α} {n : Int} {status : Status}
    {snapshots : List (Snapshot α)} {pivots : List (PivotStep α)} {tol : α}
    (h : extract t n status snapshots pivots tol = .ok sol) :
    sol.status = status ∧ sol.snapshots = snapshots ∧ sol.pivots = pivots ∧
      (status ≠ .unbounded → ∃ z, t.corner? = some z ∧ sol.objective = .value z ∧
        t.values n tol = .ok sol.values) := by
  by_cases hstatus : status = .unbounded
  · subst hstatus
    rw [eq_of_extract_unbounded h]
    exact ⟨rfl, rfl, rfl, fun hne => absurd rfl hne⟩
  · rw [extract_eq_bind hstatus] at h
    obtain ⟨values, hvalues, h⟩ := exists_of_bind_eq_ok h
    cases hcorner : t.corner? with
    | none =>
      rw [hcorner] at h
      cases h
    | some z =>
      rw [hcorner] at h
      cases h
      exact ⟨rfl, rfl, rfl, fun _ => ⟨z, rfl, rfl, hvalues⟩⟩

/-- A solution comes from a trace that ends with a status. -/
theorem exists_trace_of_solve (h : solve s p = .ok sol) :
    ∃ tr status, trace s p = .ok tr ∧ tr.ending = .ok status ∧
      Solution.extract tr.tableau p.n status tr.snapshots tr.pivots s.basicTol = .ok sol := by
  obtain ⟨tr, htrace, h⟩ := exists_of_bind_eq_ok h
  cases hend : tr.ending with
  | error cause =>
    simp only [Solution.ofTrace, hend] at h
    cases h
  | ok status =>
    simp only [Solution.ofTrace, hend] at h
    refine ⟨tr, status, htrace, hend, ?_⟩
    cases hextract : Solution.extract tr.tableau p.n status tr.snapshots tr.pivots s.basicTol with
    | error fault =>
      rw [hextract] at h
      cases h
    | ok sol' =>
      rw [hextract] at h
      cases h
      rfl

/-- The objective is without limit exactly when the program is unbounded. -/
theorem objective_of_solve (h : solve s p = .ok sol) :
    sol.objective = .unlimited ↔ sol.status = .unbounded := by
  obtain ⟨tr, status, _, _, hextract⟩ := exists_trace_of_solve h
  obtain ⟨hstatus, _, _, hvalue⟩ := Solution.of_extract hextract
  rw [hstatus]
  constructor
  · intro hunlimited
    by_contra hne
    obtain ⟨z, _, hz, _⟩ := hvalue hne
    rw [hunlimited] at hz
    cases hz
  · rintro rfl
    rw [Solution.eq_of_extract_unbounded hextract]

/-! ## The account of a run -/

namespace IsRun

/-- The pivots recorded before a pass lead to its stage. -/
theorem replay_take (h : IsRun s p g tr) {k : Nat} (hk : k ≤ tr.pivots.length) :
    Stage.replay ⟨g.tableau, slackBasis p.n.toNat p.m.toNat⟩ (tr.pivots.take k) =
      g.after s.rule s.pivotTol k := by
  rw [← h.basis]
  exact h.follows.replay_take hk

/-- All recorded pivots lead to the tableau that the run leaves behind. -/
theorem tableau_replay (h : IsRun s p g tr) :
    (Stage.replay ⟨g.tableau, slackBasis p.n.toNat p.m.toNat⟩ tr.pivots).tableau = tr.tableau := by
  have hall := h.replay_take (Nat.le_refl tr.pivots.length)
  rw [List.take_length, ← h.follows.final] at hall
  rw [hall]
  rfl

theorem tableau_of_snapshot (h : IsRun s p g tr) {k : Nat} {sn : Snapshot α}
    (hsn : tr.snapshots[k]? = some sn) :
    sn.tableau = (g.after s.rule s.pivotTol k).tableau :=
  congrArg Stage.tableau (h.stage_of_snapshot hsn).2.2

/-- A recorded pivot is what the rules choose on the snapshot of its pass. -/
theorem chosen_on_snapshot (h : IsRun s p g tr) {k : Nat} {sn : Snapshot α} {step : PivotStep α}
    (hsn : tr.snapshots[k]? = some sn) (hstep : tr.pivots[k]? = some step) :
    Stage.Chooses s.rule s.pivotTol
      ⟨sn.tableau, (Stage.replay ⟨g.tableau, slackBasis p.n.toNat p.m.toNat⟩
        (tr.pivots.take k)).basis⟩ step.row.toNat step.column.toNat := by
  obtain ⟨row, col, rfl, hchooses, _⟩ := h.pivot_at hstep
  rw [h.replay_take (h.stage_of_snapshot hsn).1, h.tableau_of_snapshot hsn]
  exact hchooses

theorem element_on_snapshot (h : IsRun s p g tr) {k : Nat} {sn : Snapshot α} {step : PivotStep α}
    (hsn : tr.snapshots[k]? = some sn) (hstep : tr.pivots[k]? = some step) :
    sn.tableau.entry? step.row.toNat step.column.toNat = some step.element := by
  obtain ⟨row, col, rfl, _, hcol, _, hrow⟩ := h.pivot_at hstep
  rw [h.tableau_of_snapshot hsn]
  exact Tableau.entry?_eq (by rw [h.height_after]; exact Nat.lt_succ_of_le hrow)
    (by rw [h.width_after]; exact Nat.lt_succ_of_lt hcol)

/-- The next snapshot is the snapshot after the recorded pivot. -/
theorem snapshot_succ (h : IsRun s p g tr) {k : Nat} {sn sn' : Snapshot α} {step : PivotStep α}
    (hsn : tr.snapshots[k]? = some sn) (hstep : tr.pivots[k]? = some step)
    (hsn' : tr.snapshots[k + 1]? = some sn') :
    sn'.tableau = sn.tableau.pivot step.row.toNat step.column.toNat := by
  obtain ⟨row, col, rfl, hchooses, _⟩ := h.pivot_at hstep
  rw [h.tableau_of_snapshot hsn', h.tableau_of_snapshot hsn, Stage.after_succ, hchooses.next_eq]
  rfl

/-- A recorded pivot lies in a constraint row and in the column of a variable. -/
theorem place_of_pivot (h : IsRun s p g tr) {step : PivotStep α} (hstep : step ∈ tr.pivots) :
    (0 ≤ step.column ∧ step.column < p.n + p.m) ∧ 1 ≤ step.row ∧ step.row ≤ p.m := by
  obtain ⟨k, hk⟩ := List.mem_iff_getElem?.1 hstep
  obtain ⟨row, col, rfl, _, hcol, hpos, hrow⟩ := h.pivot_at hk
  have := h.valid.n_pos
  have := h.valid.m_pos
  dsimp only
  omega

end IsRun

/-- **The recorded trace replays the run.** Whatever the arithmetic, the snapshots and the
    pivots of a solution lead from the first tableau of its program through the choices of the
    rules to the tableau that values and objective are read off. -/
theorem solution_replays (hlimit : 1 ≤ s.maxIterations) (hsolve : solve s p = .ok sol) :
    ∃ first, Tableau.ofProgram p = .ok first ∧ sol.Replays s p first := by
  obtain ⟨tr, status, htrace, hend, hextract⟩ := exists_trace_of_solve hsolve
  obtain ⟨g, hrun⟩ := isRun_of_trace htrace
  obtain ⟨status, values, objective, snapshots, pivots⟩ := sol
  obtain ⟨rfl, rfl, rfl, hreading⟩ := Solution.of_extract hextract
  have hfollows := hrun.follows
  have hpos : 0 < tr.snapshots.length := by
    rcases hfollows.ending with ⟨_, hpivots, hsnapshots⟩ | ⟨_, _, hsnapshots⟩ <;> omega
  refine ⟨g.tableau, hrun.built, ?_⟩
  constructor
  case start => exact hfollows.snapshot 0 hpos
  case snapshot_number => exact fun k sn hsn => (hrun.stage_of_snapshot hsn).2.1
  case pivot_number =>
    intro k step hstep
    obtain ⟨_, _, rfl, _⟩ := hrun.pivot_at hstep
    rfl
  case column_mem => exact fun step hstep => (hrun.place_of_pivot hstep).1
  case row_mem => exact fun step hstep => (hrun.place_of_pivot hstep).2
  case snapshot_of_pivot => exact hfollows.length_pivots_le
  case chosen => exact fun k sn step hsn hstep => hrun.chosen_on_snapshot hsn hstep
  case element => exact fun k sn step hsn hstep => hrun.element_on_snapshot hsn hstep
  case next => exact fun k sn sn' step hsn hstep hsn' => hrun.snapshot_succ hsn hstep hsn'
  case cut_off => exact fun hstatus => hfollows.lengths_of_cut_off (hend.trans (by rw [hstatus]))
  case ended =>
    intro hstatus
    refine (hfollows.outcome?_last ?_).2
    rw [hend]
    exact fun h => hstatus (Except.ok.inj h)
  case reading =>
    intro hstatus
    obtain ⟨z, hcorner, hobjective, hvalues⟩ := hreading hstatus
    exact ⟨_, z, rfl, by rw [hrun.tableau_replay]; exact hcorner, hobjective,
      by rw [hrun.tableau_replay]; exact hvalues⟩

/-- The solution of the sample program in doubles. -/
theorem solution_replays_sample :
    ∃ sol, 1 ≤ Settings.standard.maxIterations ∧
      solve Settings.standard Program.sample = .ok sol ∧ sol.status = .optimal ∧
      sol.pivots.length = 1 ∧ ∃ first, Tableau.ofProgram Program.sample = .ok first ∧
        sol.Replays Settings.standard Program.sample first := by
  obtain ⟨sol, hsolve, hstatus, hpivots⟩ : ∃ sol,
      solve Settings.standard Program.sample = .ok sol ∧ sol.status = .optimal ∧
        sol.pivots.length = 1 :=
    exists_of_mem_toOption (by decide +kernel)
  have hlimit : 1 ≤ Settings.standard.maxIterations := by decide
  exact ⟨sol, hlimit, hsolve, hstatus, hpivots, solution_replays hlimit hsolve⟩

end ProductionLP
