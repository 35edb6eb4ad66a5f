import Mathlib.Order.Bounds.Basic
import ProductionLP.Proofs.Rule

/- The ratio test as a minimum.

   The ratio test passes over the rows once and keeps a best row. What comes out does not depend
   on the order of the comparisons: the rows of least ratio are a set (`leastRows`), and of them
   the greatest-decrease rule takes the first and the least-index rule the one with the smallest
   label (`Takes`). Winning the pass is the same as being taken (`wins_iff_takes`). No sign of a
   right-hand side matters for that; `overdrawn` has negative ones and a tie. -/
namespace ProductionLP.PivotRule

variable {rule : PivotRule} {tol : Rat} {t : Tableau Rat} {c r i : Nat} {basis : List Nat}

/-- The rows of least ratio among those that take part. -/
def leastRows (tol : Rat) (t : Tableau Rat) (c : Nat) : Set Nat :=
  {i | TakesPart tol t c i ∧ ∀ k, TakesPart tol t c k → ratio t c i ≤ ratio t c k}

/-- The column that is basic in a constraint row. -/
def label (basis : List Nat) (i : Nat) : Nat := basis.getD (i - 1) 0

/-- The row that a rule takes out of a set of rows. -/
def Takes (rule : PivotRule) (basis : List Nat) (rows : Set Nat) (r : Nat) : Prop :=
  match rule with
  | .dantzig => IsLeast rows r
  | .bland => r ∈ rows ∧ ∀ i ∈ rows, i ≠ r → label basis r < label basis i

theorem Takes.mem {rows : Set Nat} (h : rule.Takes basis rows r) : r ∈ rows := by
  cases rule with
  | dantzig => exact h.1
  | bland => exact h.1

/-- Rows of least ratio have the same ratio. -/
theorem ratio_eq_of_mem (hr : r ∈ leastRows tol t c) (hi : i ∈ leastRows tol t c) :
    ratio t c i = ratio t c r :=
  le_antisymm (hi.2 r hr.1) (hr.2 i hi.1)

/-- A row that takes part with the least ratio is one of them. -/
theorem mem_leastRows (hr : r ∈ leastRows tol t c) (hi : TakesPart tol t c i)
    (hle : ratio t c i ≤ ratio t c r) : i ∈ leastRows tol t c :=
  ⟨hi, fun k hk => hle.trans (hr.2 k hk)⟩

theorem Wins.mem_leastRows (h : Wins rule tol t c basis t.height r) : r ∈ leastRows tol t c :=
  ⟨h.takesPart, fun k hk => h.least k hk.2.1 hk⟩

theorem Wins.takes (hnodup : basis.Nodup) (hbasis : basis.length + 1 = t.height)
    (h : Wins rule tol t c basis t.height r) : rule.Takes basis (leastRows tol t c) r := by
  have hmem := h.mem_leastRows
  cases rule with
  | dantzig =>
    refine ⟨hmem, fun i hi => not_lt.1 fun hlt => ?_⟩
    exact (h.first rfl i hlt hi.1).ne' (ratio_eq_of_mem hmem hi)
  | bland =>
    refine ⟨hmem, fun i hi hne => ?_⟩
    have hle := h.least_label rfl i hi.1.2.1 hi.1 (ratio_eq_of_mem hmem hi)
    refine lt_of_le_of_ne hle fun heq => hne ?_
    obtain ⟨⟨hr, hrt, _⟩, ⟨hi, hit, _⟩⟩ := And.intro h.takesPart hi.1
    exact (eq_of_label_eq hnodup hr (by omega) hi (by omega) heq).symm

theorem Takes.wins (h : rule.Takes basis (leastRows tol t c) r) :
    Wins rule tol t c basis t.height r where
  takesPart := h.mem.1
  before := h.mem.1.2.1
  least i _ hi := h.mem.2 i hi
  first := by
    rintro rfl i hlt hi
    refine not_le.1 fun hle => ?_
    exact (h.2 (mem_leastRows h.mem hi hle)).not_gt hlt
  least_label := by
    rintro rfl i _ hi heq
    rcases eq_or_ne i r with rfl | hne
    · exact le_refl _
    · exact (h.2 i (mem_leastRows h.mem hi heq.le) hne).le

theorem wins_iff_takes (hnodup : basis.Nodup) (hbasis : basis.length + 1 = t.height) :
    Wins rule tol t c basis t.height r ↔ rule.Takes basis (leastRows tol t c) r :=
  ⟨Wins.takes hnodup hbasis, Takes.wins⟩

/-- **The ratio test is a minimum with a tie break.** With a label of its own for every
    constraint row the test never fails. It finds no row exactly when no constraint row has an
    entry above the tolerance, and otherwise the row that the rule takes out of those of least
    ratio, all of which divide by a positive number. -/
theorem leaving_leastRatio (htol : 0 ≤ tol) (hc : c < t.width)
    (hbasis : basis.length + 1 = t.height) (hnodup : basis.Nodup) :
    ∃ found, leaving rule tol t c basis = .ok found ∧
      (found = none ↔ ∀ i, 1 ≤ i → i < t.height → t.entry i c ≤ tol) ∧
      (∀ r, found = some r ↔ rule.Takes basis (leastRows tol t c) r) ∧
      ∀ r ∈ leastRows tol t c, 0 < t.entry r c := by
  have hnone : (∀ i, ¬ TakesPart tol t c i) ↔ ∀ i, 1 ≤ i → i < t.height → t.entry i c ≤ tol := by
    simp only [TakesPart, not_and, not_lt]
  have hpos : ∀ r ∈ leastRows tol t c, 0 < t.entry r c := fun r hr => htol.trans_lt hr.1.2.2
  have hsome : ∀ r, leaving rule tol t c basis = .ok (some r) ↔
      rule.Takes basis (leastRows tol t c) r := fun r =>
    (leaving_eq_some_iff hc hbasis hnodup).trans (wins_iff_takes hnodup hbasis)
  rw [← hnone, ← @leaving_eq_none_iff rule tol t c basis hc hbasis]
  obtain ⟨found, hfound⟩ : ∃ found, leaving rule tol t c basis = .ok found := by
    rcases @leaving_spec rule tol t c basis hc hbasis with ⟨h, _⟩ | ⟨r, h, _⟩
    · exact ⟨none, h⟩
    · exact ⟨some r, h⟩
  refine ⟨found, hfound, ?_, fun r => ?_, hpos⟩
  · rw [hfound, Except.ok.injEq]
  · rw [← hsome, hfound, Except.ok.injEq]

/-- Three overdrawn rows, two of which have the least ratio; the one between them has a smaller
    ratio and an entry below the tolerance. -/
def overdrawn : Tableau Rat :=
  ⟨6, [[-1, -1, 0, 0, 0, 0], [2, 1, 0, 0, 1, -4], [1 / 4, 1, 0, 1, 0, -9],
    [1, 1, 1, 0, 0, -2]], by decide⟩

theorem leaving_leastRatio_overdrawn :
    (0 : Rat) ≤ 1 / 2 ∧ 0 < overdrawn.width ∧ [4, 3, 2].length + 1 = overdrawn.height ∧
      [4, 3, 2].Nodup ∧
      leaving .dantzig (1 / 2) overdrawn 0 [4, 3, 2] = .ok (some 1) ∧
      Takes .dantzig [4, 3, 2] (leastRows (1 / 2) overdrawn 0) 1 ∧
      leaving .bland (1 / 2) overdrawn 0 [4, 3, 2] = .ok (some 3) ∧
      Takes .bland [4, 3, 2] (leastRows (1 / 2) overdrawn 0) 3 := by
  have htol : (0 : Rat) ≤ 1 / 2 := by decide +kernel
  have hfirst : leaving .dantzig (1 / 2) overdrawn 0 [4, 3, 2] = .ok (some 1) := by
    decide +kernel
  have hlabel : leaving .bland (1 / 2) overdrawn 0 [4, 3, 2] = .ok (some 3) := by decide +kernel
  have hshape : 0 < overdrawn.width ∧ [4, 3, 2].length + 1 = overdrawn.height ∧
      [4, 3, 2].Nodup := by decide
  obtain ⟨hc, hbasis, hnodup⟩ := hshape
  obtain ⟨found, hfound, _, hiff, _⟩ := @leaving_leastRatio .dantzig _ _ _ _ htol hc hbasis hnodup
  obtain ⟨found', hfound', _, hiff', _⟩ := @leaving_leastRatio .bland _ _ _ _ htol hc hbasis hnodup
  cases hfirst.symm.trans hfound
  cases hlabel.symm.trans hfound'
  exact ⟨htol, hc, hbasis, hnodup, hfirst, (hiff 1).1 rfl, hlabel, (hiff' 3).1 rfl⟩

end ProductionLP.PivotRule
