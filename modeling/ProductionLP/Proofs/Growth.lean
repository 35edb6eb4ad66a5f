import ProductionLP.Proofs.Solve
import ProductionLP.Proofs.Program.Resized
import ProductionLP.Proofs.Simulation

/- Runs on programs that grow.

   A program that grows gets columns for its new variables, which push the slack columns to
   the right (`moved`), and rows and slack columns for its new constraints. The run on the
   grown program goes through the same passes as the run on the program:

   1. `Stage.Grown` relates their stages. The rows of the program are the same in the moved
      columns and zero in the new ones, and the new rows are zero up to their slack columns.
   2. At related stages the rules choose alike (`Grown.chooses`, `Grown.outcome?_eq`). A new
      column has no reduced cost, so it never enters; a new row has no entry above the
      tolerance, so it never leaves; and since columns move without changing their order,
      ties are decided as before.
   3. A pivot keeps the relation (`Grown.pivot`), so the runs go in lock step (`Grown.run`).
   4. A unit column is one whose other entries are near zero and far from one, so the zeros of
      the new rows do not disturb it, and a column of zeros is none (`Grown.values_eq`). -/
namespace ProductionLP

namespace Program

variable {p q : Program Rat}

/-! ## Columns that move -/

/-- Where a column stands after growth: the slack columns move behind the new variables. -/
def moved (p q : Program Rat) (j : Nat) : Nat :=
  if j < p.n.toNat then j else j + (q.n.toNat - p.n.toNat)

/-- The columns that growth adds: those of the new variables and the slack of the new
    constraints. -/
def IsNew (p q : Program Rat) (j : Nat) : Prop :=
  p.n.toNat ≤ j ∧ j < q.n.toNat ∨ q.n.toNat + p.m.toNat ≤ j

theorem moved_of_lt {j : Nat} (hj : j < p.n.toNat) : moved p q j = j := if_pos hj

theorem strictMono_moved (p q : Program Rat) : StrictMono (moved p q) := by
  intro j k hjk
  simp only [moved]
  split <;> split <;> omega

namespace Grows

theorem moved_add (h : p.Grows q) (i : Nat) :
    moved p q (p.n.toNat + i) = q.n.toNat + i := by
  have := h.n_le
  rw [moved, if_neg (by omega)]
  omega

theorem moved_lt (h : p.Grows q) {j : Nat} (hj : j < p.n.toNat + p.m.toNat) :
    moved p q j < q.n.toNat + p.m.toNat := by
  have := h.n_le
  rw [moved]
  split <;> omega

/-- A column moves to a column of a variable. -/
theorem moved_lt_variables (h : p.Grows q) {j : Nat} (hj : j < p.n.toNat + p.m.toNat) :
    moved p q j < q.n.toNat + q.m.toNat :=
  Nat.lt_of_lt_of_le (h.moved_lt hj) (Nat.add_le_add_left h.m_le _)

/-- Every column has moved there or is new. -/
theorem column_cases (h : p.Grows q) (j : Nat) :
    (∃ k < p.n.toNat + p.m.toNat, moved p q k = j) ∨ IsNew p q j := by
  have hn := h.n_le
  rcases Nat.lt_or_ge j p.n.toNat with hj | hj
  · exact .inl ⟨j, by omega, moved_of_lt hj⟩
  rcases Nat.lt_or_ge j q.n.toNat with hj' | hj'
  · exact .inr (.inl ⟨hj, hj'⟩)
  rcases Nat.lt_or_ge j (q.n.toNat + p.m.toNat) with hk | hk
  · refine .inl ⟨p.n.toNat + (j - q.n.toNat), by omega, ?_⟩
    rw [h.moved_add]
    omega
  · exact .inr (.inr hk)

end Grows

/-! ## The first tableau in closed form -/

section First

variable {t : Tableau Rat}

theorem IsFirst.entry_zero (h : p.IsFirst t) (j : Nat) :
    t.entry 0 j = if j < p.n.toNat then -p.cost j else 0 := by
  split
  · next hj => exact h.cost j hj
  · next hj => exact h.blank j (Nat.not_lt.1 hj)

theorem IsFirst.entry_succ (h : p.IsFirst t) {i j : Nat} (hi : i < p.m.toNat)
    (hj : j < p.n.toNat + p.m.toNat) : t.entry (i + 1) j =
      if j < p.n.toNat then p.coefficient i j else if j = p.n.toNat + i then 1 else 0 := by
  split
  · next hjn => exact h.coefficient i hi j hjn
  · next hjn =>
    obtain ⟨k, rfl⟩ := Nat.exists_eq_add_of_le (Nat.not_lt.1 hjn)
    rw [h.unit i hi k (by omega)]
    exact if_congr (by omega) rfl rfl

end First

end Program

open Program PivotRule

variable {p q : Program Rat} {g g' : Stage Rat} {rule : PivotRule} {tol : Rat} {r c : Nat}

/-! ## Stages of both runs -/

/-- A stage of the grown program is a stage of the program with zeros around it: the rows of
    the program are zero in the new columns, and the new rows are zero up to their slack. -/
structure Stage.Grown (p q : Program Rat) (g g' : Stage Rat) : Prop where
  grows : p.Grows q
  represents : p.Represents g
  represents' : q.Represents g'
  entry : ∀ i ≤ p.m.toNat, ∀ j < p.n.toNat + p.m.toNat,
    g'.tableau.entry i (moved p q j) = g.tableau.entry i j
  rhs : ∀ i ≤ p.m.toNat, g'.tableau.rhs i = g.tableau.rhs i
  new_column : ∀ i ≤ p.m.toNat, ∀ j < q.n.toNat + q.m.toNat, IsNew p q j →
    g'.tableau.entry i j = 0
  new_row : ∀ i, p.m.toNat < i → ∀ j < q.n.toNat + p.m.toNat, g'.tableau.entry i j = 0
  label : ∀ i < p.m.toNat, g'.basis.getD i 0 = moved p q (g.basis.getD i 0)

section Start

variable {t t' : Tableau Rat}

theorem Program.Grows.entry_first (h : p.Grows q) (ht : p.IsFirst t) (ht' : q.IsFirst t')
    {i j : Nat} (hi : i ≤ p.m.toNat) (hj : j < p.n.toNat + p.m.toNat) :
    t'.entry i (moved p q j) = t.entry i j := by
  have hm := h.m_le
  have hmoved := h.moved_lt hj
  rcases Nat.lt_or_ge j p.n.toNat with hjn | hjn
  · have hjq := Nat.lt_of_lt_of_le hjn h.n_le
    rw [moved_of_lt hjn]
    cases i with
    | zero => rw [ht'.entry_zero, ht.entry_zero, if_pos hjq, if_pos hjn, h.cost j hjn]
    | succ i =>
      rw [ht'.coefficient i (by omega) j hjq, ht.coefficient i hi j hjn, h.coefficient i hi j hjn]
  · obtain ⟨k, rfl⟩ := Nat.exists_eq_add_of_le hjn
    rw [h.moved_add]
    cases i with
    | zero => rw [ht'.blank _ (Nat.le_add_right ..), ht.blank _ hjn]
    | succ i => rw [ht'.unit i (by omega) k (by omega), ht.unit i hi k (by omega)]

theorem Program.Grows.rhs_first (h : p.Grows q) (ht : p.IsFirst t) (ht' : q.IsFirst t')
    {i : Nat} (hi : i ≤ p.m.toNat) : t'.rhs i = t.rhs i := by
  rw [Tableau.rhs, Tableau.rhs, ht.width, ht'.width, Nat.add_sub_cancel, Nat.add_sub_cancel]
  cases i with
  | zero => rw [ht'.blank _ (Nat.le_add_right ..), ht.blank _ (Nat.le_add_right ..)]
  | succ i => rw [ht'.bound i (Nat.lt_of_lt_of_le hi h.m_le), ht.bound i hi, h.bound i hi]

theorem Program.Grows.new_column_first (h : p.Grows q) (ht' : q.IsFirst t') {i j : Nat}
    (hi : i ≤ p.m.toNat) (hj : j < q.n.toNat + q.m.toNat) (hnew : IsNew p q j) :
    t'.entry i j = 0 := by
  have hm := h.m_le
  cases i with
  | zero =>
    rw [ht'.entry_zero]
    split
    · next hjq =>
      rw [h.new_cost j hjq (by rcases hnew with hnew | hnew <;> omega), neg_zero]
    · rfl
  | succ i =>
    rw [ht'.entry_succ (by omega) hj]
    rcases hnew with ⟨hge, hlt⟩ | hge
    · rw [if_pos hlt, h.new_coefficient i (by omega) j hlt (.inr hge)]
    · rw [if_neg (by omega), if_neg (by omega)]

theorem Program.Grows.new_row_first (h : p.Grows q) (ht' : q.IsFirst t') {i j : Nat}
    (hi : p.m.toNat < i) (hj : j < q.n.toNat + p.m.toNat) : t'.entry i j = 0 := by
  have hm := h.m_le
  obtain ⟨i, rfl⟩ := Nat.exists_eq_succ_of_ne_zero (Nat.ne_zero_of_lt hi)
  rcases Nat.lt_or_ge i q.m.toNat with hiq | hiq
  · rw [Nat.succ_eq_add_one, ht'.entry_succ hiq (by omega)]
    split
    · next hjq => exact h.new_coefficient i hiq j hjq (.inl (by omega))
    · rw [if_neg (by omega)]
  · exact Tableau.entry_of_height_le (by rw [ht'.height]; omega) j

/-- The first stages of both runs. -/
theorem Program.Grows.first (h : p.Grows q) (ht : p.IsFirst t) (ht' : q.IsFirst t') :
    Stage.Grown p q ⟨t, slackBasis p.n.toNat p.m.toNat⟩ ⟨t', slackBasis q.n.toNat q.m.toNat⟩ where
  grows := h
  represents := represents_first ht
  represents' := represents_first ht'
  entry := fun _ hi _ hj => h.entry_first ht ht' hi hj
  rhs := fun _ hi => h.rhs_first ht ht' hi
  new_column := fun _ hi _ hj hnew => h.new_column_first ht' hi hj hnew
  new_row := fun _ hi _ hj => h.new_row_first ht' hi hj
  label := by
    intro i hi
    have hiq := Nat.lt_of_lt_of_le hi h.m_le
    show (slackBasis _ _).getD i 0 = moved p q ((slackBasis _ _).getD i 0)
    rw [List.getD_eq_getElem _ _ (by rwa [length_slackBasis]), getElem_slackBasis,
      List.getD_eq_getElem _ _ (by rwa [length_slackBasis]), getElem_slackBasis, h.moved_add]

end Start

namespace Stage.Grown

/-! ## The same pass -/

/-- A reduced cost of the grown stage has moved there or is zero. -/
theorem reducedCost_cases (h : Grown p q g g') {j : Nat} {x : Rat}
    (hx : g'.tableau.reducedCosts[j]? = some x) :
    (∃ k, moved p q k = j ∧ g.tableau.reducedCosts[k]? = some x) ∨ x = 0 := by
  obtain ⟨hj, rfl⟩ := h.represents'.getElem?_reducedCosts_iff.1 hx
  rcases h.grows.column_cases j with ⟨k, hk, rfl⟩ | hnew
  · refine .inl ⟨k, rfl, ?_⟩
    rw [h.entry 0 (Nat.zero_le _) k hk]
    exact h.represents.getElem?_reducedCosts hk
  · exact .inr (h.new_column 0 (Nat.zero_le _) j hj hnew)

theorem entering_eq_none (h : Grown p q g g')
    (hnone : rule.entering g.tableau.reducedCosts = none) :
    rule.entering g'.tableau.reducedCosts = none := by
  rw [entering_eq_none_iff] at hnone ⊢
  intro x hx
  obtain ⟨j, hj⟩ := List.mem_iff_getElem?.1 hx
  rcases h.reducedCost_cases hj with ⟨k, _, hk⟩ | rfl
  · exact hnone x (List.mem_of_getElem? hk)
  · exact le_refl 0

/-- The moved column enters: the new columns have no reduced cost, and columns move without
    changing their order. -/
theorem enters (h : Grown p q g g') {x : Rat} (hx : rule.Enters g.tableau.reducedCosts c x) :
    rule.Enters g'.tableau.reducedCosts (moved p q c) x := by
  have hmono := strictMono_moved p q
  obtain ⟨hc, hentry⟩ := h.represents.getElem?_reducedCosts_iff.1 hx.get
  refine ⟨?_, hx.neg, ?_, ?_, ?_⟩
  · rw [h.represents'.getElem?_reducedCosts (h.grows.moved_lt_variables hc),
      h.entry 0 (Nat.zero_le _) c hc, hentry]
  · intro hrule j hj y hy
    rcases h.reducedCost_cases hy with ⟨k, rfl, hk⟩ | rfl
    · exact hx.first hrule k (hmono.lt_iff_lt.1 hj) y hk
    · exact le_refl 0
  · intro hrule y hy
    obtain ⟨j, hj⟩ := List.mem_iff_getElem?.1 hy
    rcases h.reducedCost_cases hj with ⟨k, rfl, hk⟩ | rfl
    · exact hx.smallest hrule y (List.mem_of_getElem? hk)
    · exact hx.neg.le
  · intro hrule j hj y hy
    rcases h.reducedCost_cases hy with ⟨k, rfl, hk⟩ | rfl
    · exact hx.first_smallest hrule k (hmono.lt_iff_lt.1 hj) y hk
    · exact hx.neg

theorem entering_eq_some (h : Grown p q g g')
    (hc : rule.entering g.tableau.reducedCosts = some c) :
    rule.entering g'.tableau.reducedCosts = some (moved p q c) := by
  rw [entering_eq_some_iff] at hc ⊢
  obtain ⟨x, hx⟩ := hc
  exact ⟨x, h.enters hx⟩

/-- The rows that take part in the ratio test are the same, for the new rows are zero. -/
theorem takesPart_iff (h : Grown p q g g') (htol : 0 ≤ tol) (hc : c < p.n.toNat + p.m.toNat)
    (i : Nat) : TakesPart tol g'.tableau (moved p q c) i ↔ TakesPart tol g.tableau c i := by
  have hm := h.grows.m_le
  rw [TakesPart, TakesPart, h.represents.height, h.represents'.height]
  rcases Nat.lt_or_ge p.m.toNat i with hi | hi
  · rw [h.new_row i hi _ (h.grows.moved_lt hc)]
    constructor
    · exact fun hpart => absurd hpart.2.2 (not_lt.2 htol)
    · exact fun hpart => absurd hpart.2.1 (by omega)
  · rw [h.entry i hi c hc]
    constructor
    · exact fun hpart => ⟨hpart.1, by omega, hpart.2.2⟩
    · exact fun hpart => ⟨hpart.1, by omega, hpart.2.2⟩

theorem ratio_eq (h : Grown p q g g') (hc : c < p.n.toNat + p.m.toNat) {i : Nat}
    (hi : i < g.tableau.height) : ratio g'.tableau (moved p q c) i = ratio g.tableau c i := by
  have hi : i ≤ p.m.toNat := by rw [h.represents.height] at hi; omega
  rw [ratio, ratio, h.rhs i hi, h.entry i hi c hc]

/-- The row that wins the ratio test is the same, for labels move without changing their
    order. -/
theorem wins (h : Grown p q g g') (htol : 0 ≤ tol) (hc : c < p.n.toNat + p.m.toNat)
    (hwins : Wins rule tol g.tableau c g.basis g.tableau.height r) :
    Wins rule tol g'.tableau (moved p q c) g'.basis g'.tableau.height r := by
  -- only rows of the program take part, and their ratios and labels compare as before
  have hpart := h.takesPart_iff htol hc
  have hr := h.ratio_eq hc hwins.before
  have hlabel : ∀ i, TakesPart tol g.tableau c i →
      g'.basis.getD (i - 1) 0 = moved p q (g.basis.getD (i - 1) 0) := by
    intro i hi
    obtain ⟨hpos, hlt, _⟩ := hi
    rw [h.represents.height] at hlt
    exact h.label (i - 1) (by omega)
  have hwon := (hpart r).2 hwins.takesPart
  refine ⟨hwon, hwon.2.1, ?_, ?_, ?_⟩
  · intro i _ hi
    have hi := (hpart i).1 hi
    rw [hr, h.ratio_eq hc hi.2.1]
    exact hwins.least i hi.2.1 hi
  · intro hrule i hir hi
    have hi := (hpart i).1 hi
    rw [hr, h.ratio_eq hc hi.2.1]
    exact hwins.first hrule i hir hi
  · intro hrule i _ hi heq
    have hi := (hpart i).1 hi
    rw [hr, h.ratio_eq hc hi.2.1] at heq
    rw [hlabel r hwins.takesPart, hlabel i hi]
    exact (strictMono_moved p q).monotone (hwins.least_label hrule i hi.2.1 hi heq)

/-- The rules choose the same row and the moved column. -/
theorem chooses (h : Grown p q g g') (htol : 0 ≤ tol) (hg : g.Chooses rule tol r c) :
    g'.Chooses rule tol r (moved p q c) := by
  have hc := (h.represents.enters hg.enters).1
  refine ⟨h.entering_eq_some hg.enters, ?_⟩
  rw [h.represents'.leaving_eq_some_iff (h.grows.moved_lt_variables hc)]
  exact h.wins htol hc (h.represents.wins hg)

/-- A run that stops at a stage stops at the grown stage with the same ending. -/
theorem outcome?_eq (h : Grown p q g g') (htol : 0 ≤ tol) {ending : Except RatioError Status}
    (hend : g.outcome? rule tol = some ending) : g'.outcome? rule tol = some ending := by
  rcases @Represents.outcome?_cases p g rule tol h.represents with
    ⟨hopt, hnone⟩ | ⟨hunb, c, hc, hno⟩ | ⟨r, c, hchooses⟩
  · rw [← hend, hopt, Stage.outcome?, h.entering_eq_none hnone]
  · have hlt := (h.represents.enters hc).1
    have hleaves : rule.leaving tol g'.tableau (moved p q c) g'.basis = .ok none := by
      rw [h.represents'.leaving_eq_none_iff (h.grows.moved_lt_variables hlt)]
      exact fun i hi => hno i ((h.takesPart_iff htol hlt i).1 hi)
    rw [← hend, hunb]
    simp only [Stage.outcome?, h.entering_eq_some hc, hleaves]
  · rw [hchooses.outcome?_eq] at hend
    cases hend

/-! ## The next stages -/

/-- The pivots that the rules choose keep the relation. -/
theorem pivot (h : Grown p q g g') (htol : 0 ≤ tol) (hg : g.Chooses rule tol r c) :
    Grown p q (g.pivot r c) (g'.pivot r (moved p q c)) := by
  have hg' := h.chooses htol hg
  obtain ⟨hc, _, _⟩ := h.represents.enters hg.enters
  obtain ⟨hc', _, _⟩ := h.represents'.enters hg'.enters
  have hcw := h.represents.column_lt hc
  have hcw' := h.represents'.column_lt hc'
  obtain ⟨hpos, hrt, _⟩ := (h.represents.wins hg).takesPart
  have hr : r ≤ p.m.toNat := by rw [h.represents.height] at hrt; omega
  refine ⟨h.grows, h.represents.chooses_pivot htol hg, h.represents'.chooses_pivot htol hg',
    ?_, ?_, ?_, ?_, ?_⟩
  · intro i hi j hj
    simp only [Stage.pivot, Tableau.entry_pivot hcw, Tableau.entry_pivot hcw', h.entry r hr j hj,
      h.entry r hr c hc, h.entry i hi j hj, h.entry i hi c hc]
  · intro i hi
    simp only [Stage.pivot, Tableau.rhs_pivot hcw, Tableau.rhs_pivot hcw', h.rhs r hr, h.rhs i hi,
      h.entry r hr c hc, h.entry i hi c hc]
  · -- the pivot row is a row of the program, so it is zero in a new column
    intro i hi j hj hnew
    rw [Stage.pivot, Tableau.entry_pivot hcw', h.new_column r hr j hj hnew,
      h.new_column i hi j hj hnew, zero_div, mul_zero, sub_zero, ite_self]
  · -- a new row has a zero in the pivot column, so the pivot leaves it alone
    intro i hi j hj
    rw [Stage.pivot, Tableau.entry_pivot hcw', if_neg (by omega), h.new_row i hi j hj,
      h.new_row i hi _ (h.grows.moved_lt hc), zero_mul, sub_zero]
  · intro i hi
    have hlength := h.represents.length_basis
    have hlength' := h.represents'.length_basis
    have hm := h.grows.m_le
    have hlabel := h.label i hi
    simp only [List.getD_eq_getElem?_getD] at hlabel
    simp only [Stage.pivot, List.getD_eq_getElem?_getD, List.getElem?_set]
    by_cases hir : r - 1 = i
    · rw [if_pos hir, if_pos hir, if_pos (by omega), if_pos (by omega)]
      rfl
    · rw [if_neg hir, if_neg hir]
      exact hlabel

/-! ## Values -/

variable (h : Grown p q g g')

include h

/-- A column of a variable passes for a unit column exactly when it did before: in the new rows
    it has zeros, which are far from one. -/
theorem passesFor_iff (hpos : 0 < tol) (hle : tol ≤ 1) {j : Nat} (hj : j < p.n.toNat) {i : Nat}
    (hi : i < g.tableau.height) :
    Tableau.PassesFor tol g'.tableau j i ↔ Tableau.PassesFor tol g.tableau j i := by
  have hm := h.grows.m_le
  have hheight := h.represents.height
  have hheight' := h.represents'.height
  have hsame : ∀ k < g.tableau.height, g'.tableau.entry k j = g.tableau.entry k j := by
    intro k hk
    have := h.entry k (by omega) j (by omega)
    rwa [moved_of_lt hj] at this
  rw [Tableau.PassesFor, Tableau.PassesFor, hsame i hi]
  constructor
  · rintro ⟨_, hone, hothers⟩
    refine ⟨hi, hone, fun k hk hki => ?_⟩
    rw [← hsame k hk]
    exact hothers k (by omega) hki
  · rintro ⟨_, hone, hothers⟩
    refine ⟨by omega, hone, fun k hk hki => ?_⟩
    rcases Nat.lt_or_ge k g.tableau.height with hkt | hkt
    · rw [hsame k hkt]
      exact hothers k hkt hki
    · have hn := h.grows.n_le
      rw [h.new_row k (by omega) j (by omega)]
      simpa using ⟨hpos, hle⟩

/-- The new rows take no part in reading the value of a variable. -/
theorem not_passesFor_new_row (hle : tol ≤ 1) {i j : Nat} (hj : j < q.n.toNat)
    (hi : p.m.toNat < i) : ¬ Tableau.PassesFor tol g'.tableau j i := by
  rintro ⟨_, hone, _⟩
  rw [h.new_row i hi j (by omega)] at hone
  simp only [zero_sub, abs_neg, abs_one] at hone
  exact hone.not_ge hle

/-- A variable keeps its value. -/
theorem valueAt_eq (hpos : 0 < tol) (hle : tol ≤ 1) {j : Nat} (hj : j < p.n.toNat) :
    Tableau.valueAt tol g'.tableau j = Tableau.valueAt tol g.tableau j := by
  have hn := h.grows.n_le
  have hm := h.grows.m_le
  have hheight := h.represents.height
  have hheight' := h.represents'.height
  rw [Tableau.valueAt_eq_sum _ h.represents'.width_pos,
    Tableau.valueAt_eq_sum _ h.represents.width_pos]
  -- the sum over all rows of the grown stage has nothing in the new rows
  symm
  apply Finset.sum_subset_zero_on_sdiff
  · intro i hi
    rw [Finset.mem_range] at hi ⊢
    omega
  · intro i hi
    rw [Finset.mem_sdiff, Finset.mem_range, Finset.mem_range] at hi
    exact if_neg (h.not_passesFor_new_row hle (by omega) (by omega))
  · intro i hi
    rw [Finset.mem_range] at hi
    rw [h.rhs (i + 1) (by omega)]
    exact if_congr (h.passesFor_iff hpos hle hj (by omega)).symm rfl rfl

/-- A new variable has the value zero, for its column is zero in all rows. -/
theorem valueAt_new (hle : tol ≤ 1) {j : Nat} (hj : p.n.toNat ≤ j) (hj' : j < q.n.toNat) :
    Tableau.valueAt tol g'.tableau j = 0 := by
  rw [Tableau.valueAt_eq_sum _ h.represents'.width_pos]
  apply Finset.sum_eq_zero
  intro i _
  refine if_neg ?_
  rcases Nat.lt_or_ge p.m.toNat (i + 1) with hi | hi
  · exact h.not_passesFor_new_row hle hj' hi
  · rintro ⟨_, hone, _⟩
    rw [h.new_column (i + 1) hi j (by omega) (.inl ⟨hj, hj'⟩)] at hone
    simp only [zero_sub, abs_neg, abs_one] at hone
    exact hone.not_ge hle

/-- The values are followed by zeros. -/
theorem values_eq (hpos : 0 < tol) (hle : tol ≤ 1) :
    (List.range q.n.toNat).map (Tableau.valueAt tol g'.tableau) =
      (List.range p.n.toNat).map (Tableau.valueAt tol g.tableau) ++
        List.replicate (q.n.toNat - p.n.toNat) 0 := by
  obtain ⟨extra, hextra⟩ := Nat.exists_eq_add_of_le h.grows.n_le
  rw [hextra, List.range_add, List.map_append, Nat.add_sub_cancel_left]
  congr 1
  · exact List.map_congr_left fun j hj => h.valueAt_eq hpos hle (List.mem_range.1 hj)
  · rw [List.map_map, List.eq_replicate_iff]
    refine ⟨by rw [List.length_map, List.length_range], fun x hx => ?_⟩
    obtain ⟨k, hk, rfl⟩ := List.mem_map.1 hx
    have hlt := Nat.add_lt_add_left (List.mem_range.1 hk) p.n.toNat
    exact h.valueAt_new hle (Nat.le_add_right ..) (by rwa [← hextra] at hlt)

end Stage.Grown

/-! ## Whole runs -/

/-- A recorded pivot when `extra` columns come in before the slack columns. -/
def PivotStep.shiftSlack {α : Type} (n extra : Int) (step : PivotStep α) : PivotStep α :=
  { step with column := if step.column < n then step.column else step.column + extra }

/-- A run on the grown program leaves behind what the run on the program does, with the columns
    moved. -/
structure Trace.Grown (p q : Program Rat) (tr tr' : Trace Rat) : Prop where
  last : Stage.Grown p q tr.last tr'.last
  ending : tr'.ending = tr.ending
  snapshots : tr'.snapshots.length = tr.snapshots.length
  pivots : tr'.pivots = tr.pivots.map (PivotStep.shiftSlack p.n (q.n - p.n))

/-- The recorded column is the moved one. -/
theorem Stage.Grown.shiftSlack_eq (h : Grown p q g g') (iteration r : Int) (c : Nat) (x : Rat) :
    PivotStep.shiftSlack p.n (q.n - p.n) ⟨iteration, c, r, x⟩ =
      ⟨iteration, moved p q c, r, x⟩ := by
  have hp := h.grows.valid.n_pos
  have hq := h.grows.valid'.n_pos
  have hn := h.grows.n_le
  rw [PivotStep.shiftSlack, PivotStep.mk.injEq, moved]
  refine ⟨rfl, ?_, rfl, rfl⟩
  show (if (c : Int) < p.n then (c : Int) else c + (q.n - p.n)) = _
  split <;> split <;> omega

/-- Stages of both programs are passed in lock step. -/
theorem Stage.Grown.lockStep (htol : 0 ≤ tol) :
    LockStep rule tol (PivotStep.shiftSlack p.n (q.n - p.n)) (Stage.Grown p q) where
  stop := fun _ _ h _ hend => h.outcome?_eq htol hend
  pivot := by
    intro g g' h r c hg
    have hr := (h.represents.wins hg).before
    rw [h.represents.height] at hr
    have helement := h.entry r (by omega) c (h.represents.enters hg.enters).1
    refine ⟨r, moved p q c, h.chooses htol hg, h.pivot htol hg, fun iteration => ?_⟩
    rw [h.shiftSlack_eq, helement]

/-- Runs from stages of both programs go through the same passes. -/
theorem Stage.Grown.run (h : Grown p q g g') (htol : 0 ≤ tol) (remaining iteration : Nat) :
    Trace.Grown p q (run rule tol remaining iteration g.tableau g.basis)
      (run rule tol remaining iteration g'.tableau g'.basis) := by
  obtain ⟨hlast, hending, hsnapshots, hpivots⟩ :=
    (Grown.lockStep htol).run h remaining iteration
  exact ⟨hlast, hending, hsnapshots, hpivots⟩

/-! ## Solutions -/

variable {s : Settings Rat} {tr tr' : Trace Rat} {status : Status}

/-- Runs on a program and on a grown one, each from its first stage. -/
theorem Program.Grows.trace (h : p.Grows q) (htol : 0 ≤ s.pivotTol) (hrun : IsRun s p g tr)
    (hrun' : IsRun s q g' tr') : Trace.Grown p q tr tr' := by
  have hfirst := h.first hrun.first hrun'.first
  rw [← hrun.basis, ← hrun'.basis] at hfirst
  rw [hrun.eq_run, hrun'.eq_run]
  exact hfirst.run htol s.maxIterations 0

namespace Trace.Grown

theorem objective_solution (h : Trace.Grown p q tr tr') :
    (tr'.solution s q status).objective = (tr.solution s p status).objective := by
  rw [solution, solution]
  split
  · rfl
  · exact congrArg Objective.value (h.last.rhs 0 (Nat.zero_le _))

/-- The plan of an unbounded program is all zeros, and else it is read off the last stage. -/
theorem values_solution (h : Trace.Grown p q tr tr') (hpos : 0 < s.basicTol)
    (hle : s.basicTol ≤ 1) : (tr'.solution s q status).values =
      (tr.solution s p status).values ++ List.replicate (q.n.toNat - p.n.toNat) 0 := by
  rw [solution, solution]
  split
  · show List.replicate q.n.toNat (0 : Rat) = List.replicate p.n.toNat 0 ++ _
    rw [List.replicate_append_replicate, Nat.add_sub_cancel' h.last.grows.n_le]
  · exact h.last.values_eq hpos hle

end Trace.Grown

/-- **Growing a program is invisible to the solver.** A valid program that is resized to more
    variables and constraints is solved in the same passes: the status, the number of
    snapshots and the objective are the same, the pivots differ only in the places of the slack
    columns, and zeros follow the values. -/
theorem solve_resize {n m : Int} (hvalid : p.validate = .ok ()) (hn : p.n ≤ n) (hn' : n ≤ 10)
    (hm : p.m ≤ m) (hm' : m ≤ 10) (htol : 0 ≤ s.pivotTol) (hpos : 0 < s.basicTol)
    (hle : s.basicTol ≤ 1) :
    ∃ q sol sol', p.resize n m = .ok q ∧ solve s p = .ok sol ∧ solve s q = .ok sol' ∧
      sol'.status = sol.status ∧ sol'.snapshots.length = sol.snapshots.length ∧
      sol'.objective = sol.objective ∧
      sol'.pivots = sol.pivots.map (PivotStep.shiftSlack p.n (n - p.n)) ∧
      sol'.values = sol.values ++ List.replicate (n - p.n).toNat 0 := by
  have hp := (validate_eq_ok_iff p).1 hvalid
  have hn1 := hp.n_pos
  have hm1 := hp.m_pos
  have hgrows := grows_resized hp hn hn' hm hm'
  have hresize := hp.resize_eq_ok (hn1.trans hn) hn' (hm1.trans hm) hm'
  obtain ⟨g, tr, htrace, hrun⟩ := trace_of_isValid s hp
  obtain ⟨g', tr', htrace', hrun'⟩ := trace_of_isValid s hgrows.valid'
  have htraces := hgrows.trace htol hrun hrun'
  obtain ⟨status, hend, hsolve⟩ := hrun.solve_eq_ok htrace htol
  obtain ⟨status', hend', hsolve'⟩ := hrun'.solve_eq_ok htrace' htol
  have hstatus : status' = status := by
    rw [htraces.ending, hend] at hend'
    exact (Except.ok.inj hend').symm
  subst hstatus
  have hextra : (n - p.n).toNat = n.toNat - p.n.toNat := by omega
  refine ⟨_, _, _, hresize, hsolve, hsolve', ?_, ?_, htraces.objective_solution, ?_, ?_⟩
  · rw [Trace.status_solution, Trace.status_solution]
  · rw [Trace.snapshots_solution, Trace.snapshots_solution, htraces.snapshots]
  · rw [Trace.pivots_solution, Trace.pivots_solution, htraces.pivots]
    rfl
  · rw [hextra]
    exact htraces.values_solution hpos hle

/-- Two products with three machines, where the ratio test meets a tie. -/
def tiedMachines : Program Rat :=
  ⟨2, 3, .vector [2, 1], .matrix [[1, 1], [1, 0], [2, 1]] 2 (by decide), .vector [4, 3, 6],
    [.atMost, .atMost, .atMost]⟩

/-- The least-index rule with tolerances as large as they may be. -/
def lenient : Settings Rat := ⟨10, .bland, 1 / 100, 1⟩

theorem solve_resize_tiedMachines :
    tiedMachines.validate = .ok () ∧ 0 ≤ lenient.pivotTol ∧ 0 < lenient.basicTol ∧
      lenient.basicTol ≤ 1 ∧ ∃ q sol sol', tiedMachines.resize 4 5 = .ok q ∧
        solve lenient tiedMachines = .ok sol ∧ solve lenient q = .ok sol' ∧
        sol'.status = sol.status ∧ sol'.snapshots.length = sol.snapshots.length ∧
        sol'.objective = sol.objective ∧
        sol'.pivots = sol.pivots.map (PivotStep.shiftSlack 2 2) ∧
        sol'.values = sol.values ++ [0, 0] := by
  have hvalid : tiedMachines.validate = .ok () := by rfl
  have htol : 0 ≤ lenient.pivotTol := by decide +kernel
  have hpos : 0 < lenient.basicTol := by decide +kernel
  have hle : lenient.basicTol ≤ 1 := by decide +kernel
  exact ⟨hvalid, htol, hpos, hle,
    solve_resize hvalid (by decide) (by decide) (by decide) (by decide) htol hpos hle⟩

end ProductionLP
