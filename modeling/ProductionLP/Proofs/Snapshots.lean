import ProductionLP.Proofs.Solve

/- Snapshots in canonical form.

   A trace records the tableau of every pass and, with its pivots, the basis that goes with
   it. On a valid program every recorded tableau is the program in canonical form for that
   basis, and its objective row gives the worth of every solution of its constraint rows; every
   pivot divides by a number above the tolerance (`IsRun.canonical`). Right-hand sides need
   more: they stay clear of the negative numbers only as long as the tolerance has hidden
   nothing. `thinRow` is a program on which it hides a row, and drives it below zero. -/
namespace ProductionLP

/-- What the snapshots and the pivots of a run on a program are like. A snapshot goes with the
    basis that the pivots recorded before it account for. -/
structure Trace.Canonical (s : Settings Rat) (p : Program Rat) (tr : Trace Rat) : Prop where
  represents : ∀ (k : Nat) (sn : Snapshot Rat), tr.snapshots[k]? = some sn →
    p.Represents ⟨sn.tableau, tr.basisAt (slackBasis p.n.toNat p.m.toNat) k⟩
  basis_last : tr.basisAt (slackBasis p.n.toNat p.m.toNat) tr.pivots.length = tr.basis
  worth : ∀ (k : Nat) (sn : Snapshot Rat), tr.snapshots[k]? = some sn → ∀ z, p.Balanced z →
    p.worth z = sn.tableau.rhs 0 - sn.tableau.rowSum 0 z
  pivot : ∀ (k : Nat) (step : PivotStep Rat), tr.pivots[k]? = some step →
    ∃ sn : Snapshot Rat, tr.snapshots[k]? = some sn ∧
      step.element = sn.tableau.entry step.row.toNat step.column.toNat ∧
      s.pivotTol < step.element
  rhs_nonneg : ∀ (k : Nat) (sn : Snapshot Rat), tr.snapshots[k]? = some sn →
    tr.HarmlessBefore s.rule s.pivotTol k →
    ∀ i, 1 ≤ i → i < sn.tableau.height → 0 ≤ sn.tableau.rhs i

variable {s : Settings Rat} {p : Program Rat} {g : Stage Rat} {tr : Trace Rat}

/-- The objective row prices the solutions of the constraint rows. -/
theorem Program.Represents.worth_eq_rowSum (h : p.Represents g) {z : Nat → Rat}
    (hz : p.Balanced z) : p.worth z = g.tableau.rhs 0 - g.tableau.rowSum 0 z := by
  have hres := h.worth z hz
  rw [Tableau.residual] at hres
  linarith

/-- A pivot of a run divides by an entry above the tolerance. -/
theorem IsRun.tol_lt_entry (h : IsRun s p g tr) (htol : 0 ≤ s.pivotTol) {k row col : Nat}
    (hk : k < tr.pivots.length)
    (hchooses : (g.after s.rule s.pivotTol k).Chooses s.rule s.pivotTol row col) :
    s.pivotTol < (g.after s.rule s.pivotTol k).tableau.entry row col :=
  ((h.represents htol k hk.le).wins hchooses).takesPart.2.2

theorem IsRun.canonical (h : IsRun s p g tr) (htol : 0 ≤ s.pivotTol) : tr.Canonical s p := by
  have hrep : ∀ k sn, tr.snapshots[k]? = some sn →
      p.Represents ⟨sn.tableau, tr.basisAt (slackBasis p.n.toNat p.m.toNat) k⟩ := by
    intro k sn hsn
    obtain ⟨hle, _, hstage⟩ := h.stage_of_snapshot hsn
    rw [hstage]
    exact h.represents htol k hle
  have hlast := h.follows.basisAt_length
  rw [h.basis] at hlast
  refine ⟨hrep, hlast, fun k sn hsn z hz => (hrep k sn hsn).worth_eq_rowSum hz, ?_, ?_⟩
  · intro k step hstep
    have hk : k < tr.pivots.length := (List.getElem?_eq_some_iff.1 hstep).1
    obtain ⟨row, col, hchooses, hget⟩ := h.follows.pivot k hk
    have hsnapshot := h.follows.snapshot k (Nat.lt_of_lt_of_le hk h.follows.length_pivots_le)
    rw [hstep] at hget
    cases hget
    exact ⟨_, hsnapshot, rfl, h.tol_lt_entry htol hk hchooses⟩
  · intro k sn hsn hharmless
    obtain ⟨hle, _, hstage⟩ := h.stage_of_snapshot hsn
    have hfeas := h.feasible_before htol hle hharmless
    rw [← hstage] at hfeas
    exact hfeas

/-- **Every snapshot is the program in canonical form.** The solver runs on every valid
    program; its basic columns are distinct unit columns, its constraint rows have the solutions
    of the program's constraints, its objective row prices them, it never divides by a number
    that is not above the tolerance, and no right-hand side is negative unless the tolerance has
    hidden an entry. -/
theorem solve_canonical (hvalid : p.validate = .ok ()) (htol : 0 ≤ s.pivotTol) :
    ∃ tr sol, trace s p = .ok tr ∧ solve s p = .ok sol ∧ sol.snapshots = tr.snapshots ∧
      sol.pivots = tr.pivots ∧ tr.Canonical s p := by
  obtain ⟨g, tr, htrace, hrun⟩ := trace_of_isValid s ((Program.validate_eq_ok_iff p).1 hvalid)
  obtain ⟨status, _, hsolve⟩ := hrun.solve_eq_ok htrace htol
  exact ⟨tr, _, htrace, hsolve, tr.snapshots_solution s p status, tr.pivots_solution s p status,
    hrun.canonical htol⟩

/-- A program with an entry that is easily overlooked. -/
def thinRow : Program Rat :=
  ⟨2, 2, .vector [2, 1], .matrix [[1 / 20, 1], [1, 1]] 2 (by decide), .vector [0, 4],
    [.atMost, .atMost]⟩

/-- The least-index rule with a tolerance that overlooks it. -/
def blunt : Settings Rat := ⟨100, .bland, 1 / 10, 1 / 10000000000⟩

theorem solve_canonical_thinRow :
    thinRow.validate = .ok () ∧ 0 ≤ blunt.pivotTol ∧
      ∃ tr sol, trace blunt thinRow = .ok tr ∧ solve blunt thinRow = .ok sol ∧
        sol.snapshots = tr.snapshots ∧ sol.pivots = tr.pivots ∧ tr.Canonical blunt thinRow := by
  have hvalid : thinRow.validate = .ok () := rfl
  have htol : 0 ≤ blunt.pivotTol := by decide +kernel
  exact ⟨hvalid, htol, solve_canonical hvalid htol⟩

end ProductionLP
