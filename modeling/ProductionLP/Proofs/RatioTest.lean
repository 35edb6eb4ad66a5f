import ProductionLP.Proofs.Replay

/- The ratio test on numbers that need not be ordered.

   On exact numbers the ratio test finds no row only when no entry is above the tolerance. On
   doubles a quotient can be infinite or undefined, and then a row with an entry above the
   tolerance may go unnoticed. This module says what the test does on any arithmetic:

   1. before the first row is found, a row is passed over when its quotient is not below the
      number above all others; under the least-index rule a quotient that equals this number
      ties with no row, and the test fails (`leaving_cases`);
   2. once a row is found the test cannot fail any more (`leavingFrom_of_best`), and no other
      failure exists on a run, because every row has a label and every column lies inside;
   3. so a run ends with a status, and calls a program unbounded for the stated reason only,
      exactly when no tableau it looked at is `Baffling`: no tableau makes the test fail, and
      none hides a row above the tolerance (`IsRun.endsInStatus_iff`).

   Nothing is baffling in exact arithmetic (`endsInStatus_exact`). In doubles a wide bound over
   a small coefficient is enough (`steep`, `lone`). -/
namespace ProductionLP

open Scalar

variable {α : Type} [Scalar α]

namespace PivotRule

/-! ## Rows that the ratio test passes over -/

/-- The ratio test looks at a constraint row unless its entry is at most the tolerance. It
    looks at a row whose entry is undefined. -/
def Admitted (tol : α) (t : Tableau α) (c i : Nat) : Prop :=
  1 ≤ i ∧ i < t.height ∧ le (t.entry i c) tol = false

/-- The right-hand side of a row over its entry. -/
def quotient (t : Tableau α) (c i : Nat) : α := t.entry i (t.width - 1) / t.entry i c

/-- A row that the test does not notice while it has found none. -/
def PassedOver (rule : PivotRule) (t : Tableau α) (c i : Nat) : Prop :=
  belowTop (quotient t c i) = false ∧ (rule = .bland → isTop (quotient t c i) = false)

/-- The test has found no row among those before `bound`. -/
def NoneFound (rule : PivotRule) (tol : α) (t : Tableau α) (c bound : Nat) : Prop :=
  ∀ i < bound, Admitted tol t c i → PassedOver rule t c i

/-- The first row that the test finds. -/
structure FirstFound (rule : PivotRule) (tol : α) (t : Tableau α) (c r : Nat) : Prop where
  admitted : Admitted tol t c r
  before : NoneFound rule tol t c r
  below : belowTop (quotient t c r) = true

/-- A row that ties with the number above all others before the test has found a row. -/
structure TiesWithNone (rule : PivotRule) (tol : α) (t : Tableau α) (c r : Nat) : Prop where
  admitted : Admitted tol t c r
  before : NoneFound rule tol t c r
  rule_eq : rule = .bland
  not_below : belowTop (quotient t c r) = false
  top : isTop (quotient t c r) = true

section RatioTest

variable {rule : PivotRule} {tol : α} {t : Tableau α} {c bound r r' : Nat} {basis : List Nat}

/-- A row that is not admitted, or passed over, leaves the test without a row. -/
theorem NoneFound.succ (h : NoneFound rule tol t c r)
    (hr : Admitted tol t c r → PassedOver rule t c r) : NoneFound rule tol t c (r + 1) := by
  intro i hi
  rcases Nat.lt_succ_iff_lt_or_eq.1 hi with hlt | rfl
  · exact h i hlt
  · exact hr

theorem FirstFound.not_passedOver (h : FirstFound rule tol t c r) : ¬ PassedOver rule t c r := by
  intro hpass
  simpa [h.below] using hpass.1

theorem TiesWithNone.not_passedOver (h : TiesWithNone rule tol t c r) :
    ¬ PassedOver rule t c r := by
  intro hpass
  simpa [h.top] using hpass.2 h.rule_eq

/-- When a row is found first, no row ties with none. -/
theorem FirstFound.not_tiesWithNone (h : FirstFound rule tol t c r) :
    ¬ TiesWithNone rule tol t c r' := by
  intro h'
  rcases Nat.lt_trichotomy r r' with hlt | rfl | hlt
  · exact h.not_passedOver (h'.before r hlt h.admitted)
  · simpa [h.below] using h'.not_below
  · exact h'.not_passedOver (h.before r' hlt h'.admitted)

/-! ## The pass over the rows -/

/-- Once a row is found the test yields a row: a later row replaces it or leaves it. -/
theorem leavingFrom_of_best (hc : c < t.width) (hbasis : basis.length + 1 = t.height)
    {rows : List (List α)} {row : Nat} {best : Nat × α} (hrows : rows = t.rows.drop row)
    (hpos : 1 ≤ row) (hbest : best.1 < row) :
    ∃ r, leavingFrom rule tol c basis (some best) row rows = .ok (some r) := by
  induction rows generalizing row best with
  | nil => exact ⟨best.1, rfl⟩
  | cons entries rest ih =>
    obtain ⟨hget, hrest⟩ := Tableau.getElem?_of_cons_eq_drop hrows
    have hlt : row < t.height := (List.getElem?_eq_some_iff.1 hget).1
    -- whatever the comparisons say, the rest of the pass starts from a row again
    have hkeep := ih hrest (by omega) (Nat.lt_succ_of_lt hbest)
    have hmove : ∀ q, ∃ r, leavingFrom rule tol c basis (some (row, q)) (row + 1) rest =
        .ok (some r) := fun q => ih hrest (by omega) (Nat.lt_succ_self row)
    rw [leavingFrom, Tableau.getElem?_row hget hc, Tableau.getLast?_row hget (by omega)]
    dsimp only
    split
    · exact hkeep
    split
    · exact hmove _
    split
    · have hlabels := @breaksTie_eq rule basis row best.1 (by omega) (by omega)
      rw [Option.map_some, hlabels]
      split
      · next h => cases h
      · exact hmove _
      · exact hkeep
    · exact hkeep

/-- What the pass from `row` on does when the rows before have been passed over. -/
theorem leavingFrom_none_cases (hc : c < t.width) (hbasis : basis.length + 1 = t.height)
    {rows : List (List α)} {row : Nat} (hrows : rows = t.rows.drop row) (hpos : 1 ≤ row)
    (hbefore : NoneFound rule tol t c row) :
    (leavingFrom rule tol c basis none row rows = .ok none ∧ NoneFound rule tol t c t.height) ∨
      (leavingFrom rule tol c basis none row rows = .error .tieWithNoRow ∧
        ∃ r, TiesWithNone rule tol t c r) ∨
      ((∃ r, leavingFrom rule tol c basis none row rows = .ok (some r)) ∧
        ∃ r, FirstFound rule tol t c r) := by
  induction rows generalizing row with
  | nil =>
    left
    refine ⟨rfl, fun i hi => hbefore i (Nat.lt_of_lt_of_le hi ?_)⟩
    exact List.drop_eq_nil_iff.1 hrows.symm
  | cons entries rest ih =>
    obtain ⟨hget, hrest⟩ := Tableau.getElem?_of_cons_eq_drop hrows
    have hlt : row < t.height := (List.getElem?_eq_some_iff.1 hget).1
    have hnext := fun hrow => ih hrest (by omega) (hbefore.succ hrow)
    rw [leavingFrom, Tableau.getElem?_row hget hc, Tableau.getLast?_row hget (by omega)]
    dsimp only
    rw [show t.entry row (t.width - 1) / t.entry row c = quotient t c row from rfl]
    by_cases hle : le (t.entry row c) tol = true
    · -- the row is not admitted
      rw [if_pos hle]
      exact hnext fun hrow => absurd hle (by simp [hrow.2.2])
    rw [if_neg hle]
    have hadmitted : Admitted tol t c row := ⟨hpos, hlt, Bool.eq_false_iff.2 hle⟩
    by_cases hbelow : belowTop (quotient t c row) = true
    · -- the row is found, and the rest of the pass cannot lose it
      right; right
      refine ⟨?_, row, hadmitted, hbefore, hbelow⟩
      rw [if_pos (show isSmaller (quotient t c row) none = true from hbelow)]
      exact leavingFrom_of_best hc hbasis hrest (by omega) (Nat.lt_succ_self row)
    have hbelow : belowTop (quotient t c row) = false := Bool.eq_false_iff.2 hbelow
    rw [if_neg (show ¬ isSmaller (quotient t c row) none = true by simp [isSmaller, hbelow])]
    by_cases htop : isTop (quotient t c row) = true
    · rw [if_pos (show isTied (quotient t c row) none = true from htop)]
      cases hrule : rule with
      | dantzig =>
        rw [hrule] at hnext
        exact hnext fun _ => ⟨hbelow, fun h => by cases h⟩
      | bland =>
        -- the tied row has a label, but there is no row to compare it with
        right; left
        refine ⟨?_, row, hrule ▸ ⟨hadmitted, hbefore, hrule, hbelow, htop⟩⟩
        have hlabel : basis[row - 1]? = some basis[row - 1] :=
          List.getElem?_eq_getElem (by omega)
        simp only [breaksTie, hlabel, Option.map_none]
    · rw [if_neg (show ¬ isTied (quotient t c row) none = true from htop)]
      exact hnext fun _ => ⟨hbelow, fun _ => Bool.eq_false_iff.2 htop⟩

/-- What the ratio test does on a tableau with a label for every constraint row, whatever the
    arithmetic: it finds no row, or it meets a tie with no row, or it yields a row. -/
theorem leaving_cases (rule : PivotRule) (tol : α) (hc : c < t.width)
    (hbasis : basis.length + 1 = t.height) :
    (leaving rule tol t c basis = .ok none ∧ NoneFound rule tol t c t.height) ∨
      (leaving rule tol t c basis = .error .tieWithNoRow ∧ ∃ r, TiesWithNone rule tol t c r) ∨
      ((∃ r, leaving rule tol t c basis = .ok (some r)) ∧ ∃ r, FirstFound rule tol t c r) := by
  refine leavingFrom_none_cases hc hbasis List.drop_one.symm (Nat.le_refl 1) ?_
  intro i hi hadmitted
  have := hadmitted.1
  omega

/-- A row that is found, or ties with none, shows before the last row. -/
theorem NoneFound.not_firstFound (h : NoneFound rule tol t c t.height) :
    ¬ FirstFound rule tol t c r := fun hr =>
  hr.not_passedOver (h r hr.admitted.2.1 hr.admitted)

theorem NoneFound.not_tiesWithNone (h : NoneFound rule tol t c t.height) :
    ¬ TiesWithNone rule tol t c r := fun hr =>
  hr.not_passedOver (h r hr.admitted.2.1 hr.admitted)

end RatioTest

end PivotRule

open PivotRule

/-! ## Tableaus that baffle the ratio test -/

/-- No constraint row has an entry above the tolerance in a column. -/
def Tableau.Unlimited (tol : α) (t : Tableau α) (c : Nat) : Prop :=
  ∀ i, 1 ≤ i → i < t.height → lt tol (t.entry i c) = false

/-- The ratio test fails on the entering column, or finds no row in it although an entry is
    above the tolerance. -/
def Tableau.Baffling (rule : PivotRule) (tol : α) (t : Tableau α) : Prop :=
  ∃ c, rule.entering t.reducedCosts = some c ∧
    ((∃ r, TiesWithNone rule tol t c r) ∨
      NoneFound rule tol t c t.height ∧ ¬ t.Unlimited tol c)

/-- How a pass ends, on a stage with a label for every constraint row. -/
theorem Stage.outcome?_cases (rule : PivotRule) (tol : α) {g : Stage α}
    (hbasis : g.basis.length + 1 = g.tableau.height) :
    (g.outcome? rule tol = some (.ok .optimal) ∧ ¬ g.tableau.Baffling rule tol) ∨
      (g.outcome? rule tol = some (.error .tieWithNoRow) ∧ rule = .bland ∧
        g.tableau.Baffling rule tol) ∨
      (g.outcome? rule tol = some (.ok .unbounded) ∧ ∃ c,
        rule.entering g.tableau.reducedCosts = some c ∧
          (g.tableau.Baffling rule tol ↔ ¬ g.tableau.Unlimited tol c)) ∨
      (g.outcome? rule tol = none ∧ ¬ g.tableau.Baffling rule tol) := by
  cases henter : rule.entering g.tableau.reducedCosts with
  | none =>
    left
    refine ⟨by simp only [outcome?, henter], ?_⟩
    rintro ⟨c, hc, _⟩
    simp [henter] at hc
  | some c =>
    right
    have hc : c < g.tableau.width := by
      have := entering_lt henter
      rw [Tableau.length_reducedCosts (by omega)] at this
      omega
    -- the entering column is the only one that can be baffling
    have hbaffling : g.tableau.Baffling rule tol ↔ (∃ r, TiesWithNone rule tol g.tableau c r) ∨
        NoneFound rule tol g.tableau c g.tableau.height ∧ ¬ g.tableau.Unlimited tol c := by
      simp [Tableau.Baffling, henter]
    rcases leaving_cases rule tol hc hbasis with
      ⟨hleave, hnone⟩ | ⟨hleave, r, hties⟩ | ⟨⟨r, hleave⟩, r', hfound⟩
    · right; left
      refine ⟨by simp only [outcome?, henter, hleave], c, rfl, ?_⟩
      rw [hbaffling]
      constructor
      · rintro (⟨r, hr⟩ | ⟨_, hlimited⟩)
        · exact absurd hr hnone.not_tiesWithNone
        · exact hlimited
      · exact fun hlimited => .inr ⟨hnone, hlimited⟩
    · left
      exact ⟨by simp only [outcome?, henter, hleave], hties.rule_eq, hbaffling.2 (.inl ⟨r, hties⟩)⟩
    · right; right
      refine ⟨by simp only [outcome?, henter, hleave], ?_⟩
      rw [hbaffling]
      rintro (⟨i, hi⟩ | ⟨hnone, _⟩)
      · exact hfound.not_tiesWithNone hi
      · exact hnone.not_firstFound hfound

/-! ## Runs -/

/-- Solving a program ends with a status, and calls it unbounded only when no constraint row
    of the last snapshot limits the entering column. -/
def EndsInStatus (s : Settings α) (p : Program α) : Prop :=
  ∃ sol, solve s p = .ok sol ∧ (sol.status = .unbounded → ∃ sn c,
    sol.snapshots.getLast? = some sn ∧ s.rule.entering sn.tableau.reducedCosts = some c ∧
      sn.tableau.Unlimited s.pivotTol c)

namespace IsRun

variable {s : Settings α} {p : Program α} {g : Stage α} {tr : Trace α}

/-- Every constraint row of every stage has a label. -/
theorem length_basis_after (h : IsRun s p g tr) (k : Nat) :
    (g.after s.rule s.pivotTol k).basis.length = p.m.toNat := by
  induction k with
  | zero =>
    show g.basis.length = _
    simp [h.basis, slackBasis]
  | succ k ih =>
    rw [Stage.after_succ, Stage.next]
    split
    · exact ih
    split
    · simpa [Stage.pivot] using ih
    · exact ih

theorem length_basis_eq_height (h : IsRun s p g tr) (k : Nat) :
    (g.after s.rule s.pivotTol k).basis.length + 1 =
      (g.after s.rule s.pivotTol k).tableau.height := by
  rw [h.height_after, h.length_basis_after]

/-- A solution is read off the last stage of every run that ends with a status. -/
theorem solve_of_ending (h : IsRun s p g tr) (htrace : trace s p = .ok tr) {status : Status}
    (hend : tr.ending = .ok status) :
    ∃ sol, solve s p = .ok sol ∧ sol.status = status ∧ sol.snapshots = tr.snapshots := by
  have hn := h.valid.n_pos
  have hn' := h.valid.n_le
  have hwidth := h.width_after tr.pivots.length
  have hheight := h.height_after tr.pivots.length
  rw [← h.tableau_eq] at hwidth hheight
  rw [solve_eq_extract htrace hend]
  by_cases hstatus : status = .unbounded
  · rw [hstatus, extract_unbounded (by omega) (by omega)]
    exact ⟨_, rfl, rfl, rfl⟩
  · rw [extract_of_ne_unbounded hstatus (by omega) (by omega) (by omega) (by omega)]
    exact ⟨_, rfl, rfl, rfl⟩

theorem solve_of_failure (htrace : trace s p = .ok tr) {cause : RatioError}
    (hend : tr.ending = .error cause) : solve s p = .error (.ratio cause) := by
  rw [solve, htrace]
  show Solution.ofTrace s p.n tr = _
  simp only [Solution.ofTrace, hend]

/-- No tableau before the last one of a run is baffling, for the run went on. -/
theorem not_baffling_of_pivot (h : IsRun s p g tr) {k : Nat} (hk : k < tr.pivots.length) :
    ¬ (g.after s.rule s.pivotTol k).tableau.Baffling s.rule s.pivotTol := by
  obtain ⟨row, col, hchooses, _⟩ := h.follows.pivot k hk
  have hnone := hchooses.outcome?_eq
  rcases Stage.outcome?_cases s.rule s.pivotTol (h.length_basis_eq_height k) with ⟨_, hno⟩ | ⟨hout, _⟩ | ⟨hout, _⟩ | ⟨_, hno⟩
  · exact hno
  · simp [hnone] at hout
  · simp [hnone] at hout
  · exact hno

/-- A run looks at a baffling tableau only at its end. -/
theorem baffling_snapshot_iff (h : IsRun s p g tr) :
    (∃ sn ∈ tr.snapshots, sn.tableau.Baffling s.rule s.pivotTol) ↔
      tr.ending ≠ .ok .iterationLimit ∧ tr.tableau.Baffling s.rule s.pivotTol := by
  constructor
  · rintro ⟨sn, hsn, hbaffling⟩
    obtain ⟨k, hk⟩ := List.mem_iff_getElem?.1 hsn
    have hle := (h.stage_of_snapshot hk).1
    rw [h.tableau_of_snapshot hk] at hbaffling
    have hlast : k = tr.pivots.length := by
      by_contra hne
      exact h.not_baffling_of_pivot (by omega) hbaffling
    subst hlast
    refine ⟨fun hlimit => ?_, ?_⟩
    · obtain ⟨hsnapshots, hpivots⟩ := h.follows.lengths_of_cut_off hlimit
      have := (List.getElem?_eq_some_iff.1 hk).1
      omega
    · rwa [← h.tableau_eq] at hbaffling
  · rintro ⟨hlimit, hbaffling⟩
    obtain ⟨sn, hsn, hlast⟩ := h.follows.getLast?_snapshots hlimit
    exact ⟨sn, List.mem_of_getLast? hsn, hlast ▸ hbaffling⟩

/-- How the pass at the last stage of a run that is not cut off ends. -/
theorem ending_cases_of_ne (h : IsRun s p g tr) (hlimit : tr.ending ≠ .ok .iterationLimit) :
    (tr.ending = .ok .optimal ∧ ¬ tr.tableau.Baffling s.rule s.pivotTol) ∨
      (tr.ending = .error .tieWithNoRow ∧ s.rule = .bland ∧
        tr.tableau.Baffling s.rule s.pivotTol) ∨
      (tr.ending = .ok .unbounded ∧ ∃ c, s.rule.entering tr.tableau.reducedCosts = some c ∧
        (tr.tableau.Baffling s.rule s.pivotTol ↔ ¬ tr.tableau.Unlimited s.pivotTol c)) := by
  have houtcome := (h.follows.outcome?_last hlimit).1
  have hbasis := h.length_basis_eq_height tr.pivots.length
  rw [← h.follows.final] at hbasis
  rcases Stage.outcome?_cases s.rule s.pivotTol hbasis with
    ⟨hout, hno⟩ | ⟨hout, hrule, hbaffling⟩ | ⟨hout, hcolumn⟩ | ⟨hout, _⟩
  · exact .inl ⟨Option.some.inj (houtcome.symm.trans hout), hno⟩
  · exact .inr (.inl ⟨Option.some.inj (houtcome.symm.trans hout), hrule, hbaffling⟩)
  · exact .inr (.inr ⟨Option.some.inj (houtcome.symm.trans hout), hcolumn⟩)
  · simp [houtcome] at hout

/-- Solving ends in a status exactly when no tableau that the run looks at is baffling. -/
theorem endsInStatus_iff (h : IsRun s p g tr) (htrace : trace s p = .ok tr) :
    EndsInStatus s p ↔ ∀ sn ∈ tr.snapshots, ¬ sn.tableau.Baffling s.rule s.pivotTol := by
  have hsnapshots : (∀ sn ∈ tr.snapshots, ¬ sn.tableau.Baffling s.rule s.pivotTol) ↔
      ¬ (tr.ending ≠ .ok .iterationLimit ∧ tr.tableau.Baffling s.rule s.pivotTol) := by
    rw [← h.baffling_snapshot_iff]
    push Not
    rfl
  rw [hsnapshots]
  by_cases hlimit : tr.ending = .ok .iterationLimit
  · -- a run that is cut off has a status, and it is not unbounded
    obtain ⟨sol, hsol, hstatus, _⟩ := h.solve_of_ending htrace hlimit
    refine iff_of_true ⟨sol, hsol, fun hunb => ?_⟩ fun hno => hno.1 hlimit
    rw [hstatus] at hunb
    cases hunb
  rcases h.ending_cases_of_ne hlimit with
    ⟨hend, hno⟩ | ⟨hend, _, hbaffling⟩ | ⟨hend, c, hc, hbaffling⟩
  · obtain ⟨sol, hsol, hstatus, _⟩ := h.solve_of_ending htrace hend
    refine iff_of_true ⟨sol, hsol, fun hunb => ?_⟩ fun h => hno h.2
    rw [hstatus] at hunb
    cases hunb
  · refine iff_of_false ?_ fun hno => hno ⟨hlimit, hbaffling⟩
    rintro ⟨sol, hsol, _⟩
    rw [solve_of_failure htrace hend] at hsol
    cases hsol
  · obtain ⟨sol, hsol, hstatus, hrecorded⟩ := h.solve_of_ending htrace hend
    obtain ⟨sn, hsn, hlast⟩ := h.follows.getLast?_snapshots hlimit
    rw [hbaffling]
    constructor
    · rintro ⟨sol', hsol', hreason⟩
      cases hsol.symm.trans hsol'
      obtain ⟨sn', c', hsn', hc', hunlimited⟩ := hreason hstatus
      rw [hrecorded, hsn] at hsn'
      cases hsn'
      rw [hlast] at hc' hunlimited
      cases hc.symm.trans hc'
      exact fun hno => hno.2 hunlimited
    · intro hno
      have hunlimited : tr.tableau.Unlimited s.pivotTol c := by
        by_contra hlimited
        exact hno ⟨hlimit, hlimited⟩
      exact ⟨sol, hsol, fun _ => ⟨sn, c, by rw [hrecorded, hsn], hlast ▸ hc, hlast ▸ hunlimited⟩⟩

end IsRun

/-- A program that breaks a rule is not solved. -/
theorem solve_of_invalid {s : Settings α} {p : Program α} {cause : ProblemError}
    (hinvalid : p.validate = .error cause) : solve s p = .error cause.toError := by
  rw [solve, trace, hinvalid]
  rfl

/-- Solving a valid program fails in one way only, by a tie with no row under the least-index
    rule. -/
theorem eq_tieWithNoRow_of_solve {s : Settings α} {p : Program α} {e : Error}
    (hvalid : p.validate = .ok ()) (h : solve s p = .error e) :
    e = .ratio .tieWithNoRow ∧ s.rule = .bland := by
  obtain ⟨g, tr, htrace, hrun⟩ := trace_of_isValid s ((Program.validate_eq_ok_iff p).1 hvalid)
  cases hend : tr.ending with
  | ok status =>
    obtain ⟨sol, hsol, _⟩ := hrun.solve_of_ending htrace hend
    rw [hsol] at h
    cases h
  | error cause =>
    rw [IsRun.solve_of_failure htrace hend] at h
    cases h
    rcases hrun.ending_cases_of_ne (by simp [hend]) with ⟨hok, _⟩ | ⟨htie, hrule, _⟩ | ⟨hok, _⟩
    · simp [hend] at hok
    · rw [hend] at htie
      cases htie
      exact ⟨rfl, hrule⟩
    · simp [hend] at hok

/-- Solving fails where the program breaks a rule, or by a tie with no row. -/
theorem solve_error_cases {s : Settings α} {p : Program α} {e : Error}
    (h : solve s p = .error e) :
    (∃ cause, p.validate = .error cause ∧ e = cause.toError) ∨
      (p.validate = .ok () ∧ s.rule = .bland ∧ e = .ratio .tieWithNoRow) := by
  cases hvalid : p.validate with
  | error cause =>
    left
    rw [solve_of_invalid hvalid] at h
    exact ⟨cause, rfl, (Except.error.inj h).symm⟩
  | ok u =>
    right
    obtain ⟨he, hrule⟩ := eq_tieWithNoRow_of_solve hvalid h
    exact ⟨rfl, hrule, he⟩

/-- In exact arithmetic nothing baffles the ratio test. -/
theorem Tableau.not_baffling (rule : PivotRule) (tol : Rat) (t : Tableau Rat) :
    ¬ t.Baffling rule tol := by
  -- every quotient is below the top, for there is none, so only rows not admitted are passed
  have hbelow : ∀ c i, belowTop (quotient t c i) = true := fun _ _ => rfl
  rintro ⟨c, _, ⟨r, hr⟩ | ⟨hnone, hlimited⟩⟩
  · simpa [hbelow] using hr.not_below
  · apply hlimited
    intro i hi hit
    by_contra hlt
    have hadmitted : Admitted tol t c i := by
      refine ⟨hi, hit, ?_⟩
      rw [Bool.eq_false_iff, Ne, le_iff, not_le]
      simpa using hlt
    simpa [hbelow] using (hnone i hit hadmitted).1

/-- In exact arithmetic every valid program ends in a status, for the stated reason. -/
theorem endsInStatus_exact (s : Settings Rat) {p : Program Rat} (hvalid : p.validate = .ok ()) :
    EndsInStatus s p := by
  obtain ⟨g, tr, htrace, hrun⟩ := trace_of_isValid s ((Program.validate_eq_ok_iff p).1 hvalid)
  rw [hrun.endsInStatus_iff htrace]
  exact fun sn _ => sn.tableau.not_baffling s.rule s.pivotTol

/-- **When outcomes are statuses.** On doubles as on any other numbers, a valid program is
    solved, and called unbounded for the stated reason only, exactly when its run looks at no
    baffling tableau; and it fails in one way only, by a tie with no row under the least-index
    rule. -/
theorem solve_endsInStatus_iff {s : Settings Float} {p : Program Float}
    (hvalid : p.validate = .ok ()) :
    ∃ tr, trace s p = .ok tr ∧
      (EndsInStatus s p ↔ ∀ sn ∈ tr.snapshots, ¬ sn.tableau.Baffling s.rule s.pivotTol) ∧
      ∀ e, solve s p = .error e → e = .ratio .tieWithNoRow ∧ s.rule = .bland := by
  obtain ⟨g, tr, htrace, hrun⟩ := trace_of_isValid s ((Program.validate_eq_ok_iff p).1 hvalid)
  exact ⟨tr, htrace, hrun.endsInStatus_iff htrace, fun e he => eq_tieWithNoRow_of_solve hvalid he⟩

/-- The sample program in doubles ends in a status. -/
theorem solve_endsInStatus_iff_sample :
    Program.sample.validate = .ok () ∧ ∃ tr, trace Settings.standard Program.sample = .ok tr ∧
      (EndsInStatus Settings.standard Program.sample ↔
        ∀ sn ∈ tr.snapshots, ¬ sn.tableau.Baffling .dantzig (1e-9 : Float)) ∧
      ∀ e, solve Settings.standard Program.sample = .error e →
        e = .ratio .tieWithNoRow ∧ Settings.standard.rule = .bland := by
  have hvalid : Program.sample.validate = .ok () := by decide +kernel
  exact ⟨hvalid, solve_endsInStatus_iff hvalid⟩

/-- A bound so wide over a coefficient so small that their quotient is infinite, and a second
    constraint that limits the variable all the same. -/
def steep : Program Float :=
  ⟨1, 2, .vector [1], .matrix [[1e-8], [1]] 1 (by simp), .vector [1e308, 1], [.atMost, .atMost]⟩

/-- The first constraint of `steep` alone. -/
def lone : Program Float :=
  ⟨1, 1, .vector [1], .matrix [[1e-8]] 1 (by simp), .vector [1e308], [.atMost]⟩

/-- The standard settings with the least-index rule. -/
def leastIndex : Settings Float := { Settings.standard with rule := .bland }

/-- Both ways in which a run can fail to end in a status for the stated reason: the least-index
    rule fails on `steep`, and the standard settings call `lone` unbounded although its entry
    is above the tolerance. -/
theorem not_endsInStatus_steep :
    steep.validate = .ok () ∧ solve leastIndex steep = .error (.ratio .tieWithNoRow) ∧
      ¬ EndsInStatus leastIndex steep ∧
      lone.validate = .ok () ∧ ¬ EndsInStatus Settings.standard lone := by
  have hfailed : (match solve leastIndex steep with | .error e => some e | .ok _ => none) =
      some (.ratio .tieWithNoRow) := by decide +kernel
  have hsteep : solve leastIndex steep = .error (.ratio .tieWithNoRow) := by
    cases h : solve leastIndex steep with
    | error e => simpa [h] using hfailed
    | ok sol => simp [h] at hfailed
  obtain ⟨sol, hsol, hunbounded, sn, hsn, hheight, hlt⟩ : ∃ sol,
      solve Settings.standard lone = .ok sol ∧ sol.status = .unbounded ∧
        ∃ sn ∈ sol.snapshots.getLast?, 1 < sn.tableau.height ∧
          ∀ c ∈ PivotRule.dantzig.entering sn.tableau.reducedCosts,
            lt (1e-9 : Float) (sn.tableau.entry 1 c) = true :=
    exists_of_mem_toOption (by decide +kernel)
  refine ⟨by decide +kernel, hsteep, ?_, by decide +kernel, ?_⟩
  · rintro ⟨sol, hsol, _⟩
    simp [hsteep] at hsol
  · rintro ⟨sol', hsol', hreason⟩
    cases hsol.symm.trans hsol'
    obtain ⟨sn', c, hsn', hc, hunlimited⟩ := hreason hunbounded
    cases hsn.symm.trans hsn'
    have hno : lt (1e-9 : Float) (sn.tableau.entry 1 c) = false :=
      hunlimited 1 (Nat.le_refl 1) hheight
    simp [hlt c hc] at hno

end ProductionLP
