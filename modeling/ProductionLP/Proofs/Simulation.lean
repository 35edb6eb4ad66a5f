import ProductionLP.Proofs.Run

/- Runs in lock step.

   Two runs under the same settings go through the same passes when their stages stay related:
   related stages stop with the same ending, and the pivot that the rule chooses at one is
   answered by the pivot that it chooses at the other, which keeps the relation (`LockStep`).
   Then the relation holds of the stages that the runs leave behind, both end alike after as
   many looks, and the pivots of one are the pivots of the other under new names
   (`LockStep.run`). Nothing here depends on the arithmetic. -/
namespace ProductionLP

variable {α : Type} {rename : PivotStep α → PivotStep α} {R : Stage α → Stage α → Prop}

/-- One trace is another under new names for its pivots, and their last stages are related. -/
structure Trace.Matches (rename : PivotStep α → PivotStep α) (R : Stage α → Stage α → Prop)
    (tr tr' : Trace α) : Prop where
  last : R tr.last tr'.last
  ending : tr'.ending = tr.ending
  snapshots : tr'.snapshots.length = tr.snapshots.length
  pivots : tr'.pivots = tr.pivots.map rename

theorem Trace.Matches.cons {tr tr' : Trace α} (h : Matches rename R tr tr')
    (snapshot snapshot' : Snapshot α) {step step' : PivotStep α} (hstep : rename step = step') :
    Matches rename R (Trace.cons snapshot step tr) (Trace.cons snapshot' step' tr') where
  last := h.last
  ending := h.ending
  snapshots := congrArg (· + 1) h.snapshots
  pivots := by
    rw [Trace.cons, Trace.cons, List.map_cons, hstep]
    exact congrArg (step' :: ·) h.pivots

variable [Scalar α]

/-- Related stages are passed in the same way, and stay related. -/
structure LockStep (rule : PivotRule) (tol : α) (rename : PivotStep α → PivotStep α)
    (R : Stage α → Stage α → Prop) : Prop where
  stop : ∀ g g', R g g' → ∀ ending, g.outcome? rule tol = some ending →
    g'.outcome? rule tol = some ending
  pivot : ∀ g g', R g g' → ∀ row col, g.Chooses rule tol row col →
    ∃ row' col', g'.Chooses rule tol row' col' ∧ R (g.pivot row col) (g'.pivot row' col') ∧
      ∀ iteration, rename ⟨iteration, col, row, g.tableau.entry row col⟩ =
        ⟨iteration, col', row', g'.tableau.entry row' col'⟩

/-- Runs from related stages go through the same passes. -/
theorem LockStep.run {rule : PivotRule} {tol : α} (h : LockStep rule tol rename R) {g g' : Stage α}
    (hg : R g g') (remaining iteration : Nat) :
    Trace.Matches rename R (run rule tol remaining iteration g.tableau g.basis)
      (run rule tol remaining iteration g'.tableau g'.basis) := by
  induction remaining generalizing g g' iteration with
  | zero => exact ⟨hg, rfl, rfl, rfl⟩
  | succ remaining ih =>
    cases hend : g.outcome? rule tol with
    | some ending =>
      rw [run_of_outcome? hend, run_of_outcome? (h.stop g g' hg ending hend)]
      exact ⟨hg, rfl, rfl, rfl⟩
    | none =>
      obtain ⟨row, col, hchooses⟩ := Stage.exists_chooses hend
      obtain ⟨row', col', hchooses', hnext, hstep⟩ := h.pivot g g' hg row col hchooses
      rw [run_of_chooses hchooses, run_of_chooses hchooses']
      exact (ih hnext (iteration + 1)).cons _ _ (hstep iteration)

end ProductionLP
