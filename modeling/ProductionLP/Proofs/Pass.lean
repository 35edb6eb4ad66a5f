import ProductionLP.Proofs.Canonical

/- One pass over a canonical stage.

   On a stage that represents a program the rules choose a column that is not basic and a row
   that takes part in the ratio test (`Represents.enters`, `Represents.leaving`), so the next
   stage represents the program too (`Represents.chooses_pivot`). The ratio test keeps the
   right-hand sides from becoming negative (`Feasible.pivot`), but only when it sees every
   positive entry of the entering column: a positive entry that is not above the tolerance is
   passed over, and its row may be driven below zero. `Tableau.Harmless` says that there is
   none. -/
namespace ProductionLP

/-- No constraint row has a positive entry in the entering column that the tolerance hides. -/
def Tableau.Harmless (rule : PivotRule) (tol : Rat) (t : Tableau Rat) : Prop :=
  ∀ c, rule.entering t.reducedCosts = some c → ∀ i, 1 ≤ i → i < t.height →
    ¬ (0 < t.entry i c ∧ t.entry i c ≤ tol)

instance (rule : PivotRule) (tol : Rat) (t : Tableau Rat) : Decidable (t.Harmless rule tol) :=
  decidable_of_iff
    (∀ c ∈ rule.entering t.reducedCosts, ∀ i < t.height, 1 ≤ i →
      ¬ (0 < t.entry i c ∧ t.entry i c ≤ tol))
    ⟨fun h c hc i hi hit => h c hc i hit hi, fun h c hc i hit hi => h c hc i hi hit⟩

/-- A tolerance of zero hides nothing. -/
theorem Tableau.harmless_zero (rule : PivotRule) (t : Tableau Rat) : t.Harmless rule 0 := by
  intro c _ i _ _ ⟨hpos, hle⟩
  exact absurd hpos (not_lt.2 hle)

namespace Program.Represents

open PivotRule

variable {p : Program Rat} {g : Stage Rat} {rule : PivotRule} {tol : Rat} {r c : Nat}

theorem getElem?_reducedCosts (h : p.Represents g) {j : Nat} (hj : j < p.n.toNat + p.m.toNat) :
    g.tableau.reducedCosts[j]? = some (g.tableau.entry 0 j) :=
  Tableau.getElem?_reducedCosts h.height_pos (by rw [h.width]; exact hj)

theorem getElem?_reducedCosts_iff (h : p.Represents g) {j : Nat} {x : Rat} :
    g.tableau.reducedCosts[j]? = some x ↔
      j < p.n.toNat + p.m.toNat ∧ g.tableau.entry 0 j = x := by
  have hlength := Tableau.length_reducedCosts h.height_pos
  rw [h.width, Nat.add_sub_cancel] at hlength
  constructor
  · intro hx
    have hj := hlength ▸ (List.getElem?_eq_some_iff.1 hx).1
    exact ⟨hj, Option.some.inj ((h.getElem?_reducedCosts hj).symm.trans hx)⟩
  · rintro ⟨hj, rfl⟩
    exact h.getElem?_reducedCosts hj

/-! ## The entering column -/

/-- A basic column has no reduced cost. -/
theorem entry_zero_of_mem (h : p.Represents g) {k : Nat} (hk : k ∈ g.basis) :
    g.tableau.entry 0 k = 0 := by
  obtain ⟨i, hi, rfl⟩ := List.getElem_of_mem hk
  rw [h.unit i hi, if_neg (by omega)]

/-- When no column enters, no reduced cost is negative. -/
theorem reducedCost_nonneg (h : p.Represents g)
    (hnone : rule.entering g.tableau.reducedCosts = none) {j : Nat}
    (hj : j < p.n.toNat + p.m.toNat) : 0 ≤ g.tableau.entry 0 j :=
  entering_eq_none_iff.1 hnone _ (List.mem_of_getElem? (h.getElem?_reducedCosts hj))

/-- The entering column is not basic and has a negative reduced cost. -/
theorem enters (h : p.Represents g) (hc : rule.entering g.tableau.reducedCosts = some c) :
    c < p.n.toNat + p.m.toNat ∧ c ∉ g.basis ∧ g.tableau.entry 0 c < 0 := by
  obtain ⟨x, hx⟩ := enters_of_entering hc
  obtain ⟨hlt, hentry⟩ := h.getElem?_reducedCosts_iff.1 hx.get
  have hneg : g.tableau.entry 0 c < 0 := hentry ▸ hx.neg
  exact ⟨hlt, fun hmem => absurd (h.entry_zero_of_mem hmem) hneg.ne, hneg⟩

/-- Under the least-index rule no column before the entering one has a negative reduced cost. -/
theorem enters_least (h : p.Represents g)
    (hc : PivotRule.bland.entering g.tableau.reducedCosts = some c) {j : Nat} (hj : j < c) :
    0 ≤ g.tableau.entry 0 j := by
  obtain ⟨x, hx⟩ := enters_of_entering hc
  have hlt := (h.enters hc).1
  exact hx.first rfl j hj _ (h.getElem?_reducedCosts (hj.trans hlt))

/-! ## The leaving row -/

/-- The ratio test on a canonical stage finds no row only when none takes part, and else the
    row that wins. -/
theorem leaving (h : p.Represents g) (rule : PivotRule) (tol : Rat)
    (hc : c < p.n.toNat + p.m.toNat) :
    (PivotRule.leaving rule tol g.tableau c g.basis = .ok none ∧
        ∀ i, ¬ TakesPart tol g.tableau c i) ∨
      ∃ r, PivotRule.leaving rule tol g.tableau c g.basis = .ok (some r) ∧
        Wins rule tol g.tableau c g.basis g.tableau.height r :=
  leaving_spec (h.column_lt hc) (by rw [h.height, h.length_basis])

theorem leaving_eq_none_iff (h : p.Represents g) (hc : c < p.n.toNat + p.m.toNat) :
    rule.leaving tol g.tableau c g.basis = .ok none ↔ ∀ i, ¬ TakesPart tol g.tableau c i :=
  PivotRule.leaving_eq_none_iff (h.column_lt hc) (by rw [h.height, h.length_basis])

theorem leaving_eq_some_iff (h : p.Represents g) (hc : c < p.n.toNat + p.m.toNat) :
    rule.leaving tol g.tableau c g.basis = .ok (some r) ↔
      Wins rule tol g.tableau c g.basis g.tableau.height r :=
  PivotRule.leaving_eq_some_iff (h.column_lt hc) (by rw [h.height, h.length_basis]) h.nodup

/-- The chosen row wins the ratio test. -/
theorem wins (h : p.Represents g) (hg : g.Chooses rule tol r c) :
    Wins rule tol g.tableau c g.basis g.tableau.height r :=
  (h.leaving_eq_some_iff (h.enters hg.enters).1).1 hg.leaves

/-- A canonical stage has an outcome that is no failure or allows a pivot. -/
theorem outcome?_cases (h : p.Represents g) :
    g.outcome? rule tol = some (.ok .optimal) ∧ rule.entering g.tableau.reducedCosts = none ∨
      (g.outcome? rule tol = some (.ok .unbounded) ∧
        ∃ c, rule.entering g.tableau.reducedCosts = some c ∧ ∀ i, ¬ TakesPart tol g.tableau c i) ∨
      ∃ r c, g.Chooses rule tol r c := by
  cases hc : rule.entering g.tableau.reducedCosts with
  | none => exact .inl ⟨by simp only [Stage.outcome?, hc], rfl⟩
  | some c =>
    rcases h.leaving rule tol (h.enters hc).1 with ⟨hnone, hno⟩ | ⟨r, hr, _⟩
    · exact .inr (.inl ⟨by simp only [Stage.outcome?, hc, hnone], c, rfl, hno⟩)
    · exact .inr (.inr ⟨r, c, hc, hr⟩)

/-! ## The next stage -/

/-- The pivot that the rules choose keeps the canonical form. -/
theorem chooses_pivot (h : p.Represents g) (htol : 0 ≤ tol) (hg : g.Chooses rule tol r c) :
    p.Represents (g.pivot r c) := by
  obtain ⟨hc, hfree, _⟩ := h.enters hg.enters
  obtain ⟨hr, hrt, hentry⟩ := (h.wins hg).takesPart
  exact h.pivot hr hrt hc hfree (htol.trans_lt hentry).ne'

/-- A pivot that hides nothing keeps the right-hand sides from becoming negative. -/
theorem feasible_pivot (h : p.Represents g) (htol : 0 ≤ tol)
    (hharmless : g.tableau.Harmless rule tol) (hg : g.Chooses rule tol r c) (hfeas : g.Feasible) :
    (g.pivot r c).Feasible := by
  obtain ⟨hc, _, _⟩ := h.enters hg.enters
  have hwins := h.wins hg
  obtain ⟨hr, hrt, hentry⟩ := hwins.takesPart
  have hpos : 0 < g.tableau.entry r c := htol.trans_lt hentry
  have hratio : 0 ≤ ratio g.tableau c r := div_nonneg (hfeas r hr hrt) hpos.le
  intro i hi hit
  rw [Stage.pivot, Tableau.height_pivot] at hit
  rw [Stage.pivot, Tableau.rhs_pivot (h.column_lt hc)]
  split
  · exact hratio
  · show 0 ≤ g.tableau.rhs i - g.tableau.entry i c * ratio g.tableau c r
    rcases le_or_gt (g.tableau.entry i c) 0 with hle | hgt
    · have := mul_nonpos_of_nonpos_of_nonneg hle hratio
      have := hfeas i hi hit
      linarith
    · -- a positive entry is above the tolerance, so its row takes part and its ratio bounds
      have hpart : TakesPart tol g.tableau c i :=
        ⟨hi, hit, not_le.1 fun hle => hharmless c hg.enters i hi hit ⟨hgt, hle⟩⟩
      have hle := hwins.least i hit hpart
      have : g.tableau.entry i c * ratio g.tableau c r ≤ g.tableau.rhs i := by
        calc g.tableau.entry i c * ratio g.tableau c r
            ≤ g.tableau.entry i c * ratio g.tableau c i := mul_le_mul_of_nonneg_left hle hgt.le
          _ = g.tableau.rhs i := mul_div_cancel₀ _ hgt.ne'
      linarith

/-- A pivot moves the corner by the reduced cost times the ratio of the leaving row. -/
theorem corner_pivot (h : p.Represents g) (hg : g.Chooses rule tol r c) :
    (g.pivot r c).tableau.rhs 0 =
      g.tableau.rhs 0 - g.tableau.entry 0 c * ratio g.tableau c r := by
  obtain ⟨hc, _, _⟩ := h.enters hg.enters
  have hr := (h.wins hg).takesPart.1
  rw [Stage.pivot, Tableau.rhs_pivot (h.column_lt hc), if_neg (by omega)]
  rfl

end Program.Represents

end ProductionLP
