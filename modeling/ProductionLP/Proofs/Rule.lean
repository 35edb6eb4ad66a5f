import Mathlib.Data.List.GetD
import Mathlib.Tactic.Linarith
import ProductionLP.Proofs.Scalar
import ProductionLP.Proofs.Tableau.Equations
import ProductionLP.Solver.Rule

/- What the pivot rules choose on exact numbers.

   `entering_eq_none_iff` and `enters_of_entering` say which column enters: none when no
   reduced cost is negative, else one with a negative reduced cost, the first such column
   under the least-index rule and the first of the smallest under the greatest-decrease rule.
   `leaving_spec` says which row leaves: the ratio test never fails on a tableau with a full
   basis, finds no row exactly when no entry is above the tolerance, and else finds a row of
   smallest ratio, ties decided as the rule says. The invariant of the single pass over the
   rows is `BestBelow`: the best row so far wins among the rows already seen. -/
namespace ProductionLP.PivotRule

open Scalar

/-! ## Where the choices lie -/

section Places

variable {α : Type} [Scalar α] {rule : PivotRule}

theorem smallestFrom_lt {best : Nat × α} {i : Nat} (h : best.1 < i) (xs : List α) :
    (smallestFrom best i xs).1 < i + xs.length := by
  induction xs generalizing best i with
  | nil => exact h
  | cons x rest ih =>
    rw [smallestFrom, List.length_cons, Nat.add_comm rest.length, ← Nat.add_assoc]
    apply ih
    split
    · exact Nat.lt_succ_self i
    · exact Nat.lt_succ_of_lt h

theorem smallest?_lt {xs : List α} {c : Nat} (h : smallest? xs = some c) : c < xs.length := by
  unfold smallest? at h
  split at h
  · next i hi =>
    cases h
    exact (List.findIdx?_eq_some_iff_getElem.1 hi).1
  · cases xs with
    | nil => cases h
    | cons x rest =>
      cases h
      rw [List.length_cons, Nat.add_comm]
      exact smallestFrom_lt Nat.one_pos rest

/-- The entering column is one of the columns with a reduced cost. -/
theorem entering_lt {xs : List α} {c : Nat} (h : rule.entering xs = some c) : c < xs.length := by
  rw [entering] at h
  split at h
  · cases h
  · next first hfirst =>
    cases rule with
    | bland =>
      cases h
      exact (List.findIdx?_eq_some_iff_getElem.1 hfirst).1
    | dantzig => exact smallest?_lt h

/-- The best row so far stays one of the constraint rows to the end of the pass. -/
theorem leavingFrom_mem {tol : α} {col : Nat} {basis : List Nat} {best : Option (Nat × α)}
    {row r bound : Nat} {rows : List (List α)} (hrow : 1 ≤ row) (hrows : row + rows.length ≤ bound)
    (hbest : ∀ b, best = some b → 1 ≤ b.1 ∧ b.1 < bound)
    (h : leavingFrom rule tol col basis best row rows = .ok (some r)) : 1 ≤ r ∧ r < bound := by
  have hsucc := Nat.le_succ_of_le hrow
  fun_induction leavingFrom rule tol col basis best row rows with
  | case1 best row =>
    cases best with
    | none => cases h
    | some b =>
      cases h
      exact hbest b rfl
  | case2 best row entries rest coeff rhs _ _ _ ih =>
    rw [List.length_cons] at hrows
    exact ih hsucc (by omega) hbest h (by omega)
  | case3 best row entries rest coeff rhs _ _ _ ratio _ ih =>
    rw [List.length_cons] at hrows
    refine ih hsucc (by omega) ?_ h (by omega)
    rintro b ⟨⟩
    exact ⟨hrow, by omega⟩
  | case4 => cases h
  | case5 best row entries rest coeff rhs _ _ _ ratio _ _ _ ih =>
    rw [List.length_cons] at hrows
    refine ih hsucc (by omega) ?_ h (by omega)
    intro b hb
    obtain ⟨_, _, rfl⟩ := Option.map_eq_some_iff.1 hb
    exact ⟨hrow, by omega⟩
  | case6 best row entries rest coeff rhs _ _ _ ratio _ _ _ ih =>
    rw [List.length_cons] at hrows
    exact ih hsucc (by omega) hbest h (by omega)
  | case7 best row entries rest coeff rhs _ _ _ ratio _ _ ih =>
    rw [List.length_cons] at hrows
    exact ih hsucc (by omega) hbest h (by omega)
  | case8 => cases h

/-- The leaving row is one of the constraint rows. -/
theorem leaving_mem {tol : α} {t : Tableau α} {c r : Nat} {basis : List Nat}
    (h : leaving rule tol t c basis = .ok (some r)) : 1 ≤ r ∧ r < t.height := by
  have hrows : 1 + t.constraintRows.length ≤ max 1 t.height := by
    rw [Tableau.constraintRows, List.length_tail, Tableau.height]
    omega
  have hmem := leavingFrom_mem (le_refl 1) hrows (fun b hb => by cases hb) h
  omega

end Places

/-! ## The entering column -/

/-- A scan for the smallest entry keeps its first candidate or finds the first of the
    smallest entries. -/
theorem smallestFrom_cases (best : Nat × Rat) (i : Nat) (xs : List Rat) :
    (smallestFrom best i xs = best ∧ ∀ y ∈ xs, best.2 ≤ y) ∨
      ∃ j x, xs[j]? = some x ∧ smallestFrom best i xs = (i + j, x) ∧ x < best.2 ∧
        (∀ y ∈ xs, x ≤ y) ∧ ∀ k < j, ∀ y, xs[k]? = some y → x < y := by
  induction xs generalizing best i with
  | nil => exact .inl ⟨rfl, by simp⟩
  | cons x rest ih =>
    rw [smallestFrom]
    by_cases hx : x < best.2
    · rw [if_pos (lt_iff.2 hx)]
      right
      rcases ih (i, x) (i + 1) with ⟨heq, hle⟩ | ⟨j, y, hj, heq, hlt, hle, hbefore⟩
      · refine ⟨0, x, rfl, heq, hx, ?_, by simp⟩
        simpa using hle
      · refine ⟨j + 1, y, hj, by rw [heq]; congr 1; omega, hlt.trans hx, ?_, ?_⟩
        · rintro z (_ | ⟨_, hz⟩)
          · exact hlt.le
          · exact hle z hz
        · intro k hk z hz
          cases k with
          | zero => cases hz; exact hlt
          | succ k => exact hbefore k (by omega) z (by simpa using hz)
    · rw [if_neg (by simpa using hx)]
      rcases ih best (i + 1) with ⟨heq, hle⟩ | ⟨j, y, hj, heq, hlt, hle, hbefore⟩
      · refine .inl ⟨heq, ?_⟩
        rintro z (_ | ⟨_, hz⟩)
        · exact not_lt.1 hx
        · exact hle z hz
      · refine .inr ⟨j + 1, y, hj, by rw [heq]; congr 1; omega, hlt, ?_, ?_⟩
        · rintro z (_ | ⟨_, hz⟩)
          · exact hlt.le.trans (not_lt.1 hx)
          · exact hle z hz
        · intro k hk z hz
          cases k with
          | zero => cases hz; exact hlt.trans_le (not_lt.1 hx)
          | succ k => exact hbefore k (by omega) z (by simpa using hz)

/-- The first of the smallest entries of a list that is not empty. -/
theorem smallest?_spec {xs : List Rat} (hne : xs ≠ []) :
    ∃ c x, smallest? xs = some c ∧ xs[c]? = some x ∧ (∀ y ∈ xs, x ≤ y) ∧
      ∀ k < c, ∀ y, xs[k]? = some y → x < y := by
  have hdefined : xs.findIdx? undefined = none := by
    rw [List.findIdx?_eq_none_iff]
    intro x _
    exact undefined_eq x
  cases xs with
  | nil => exact absurd rfl hne
  | cons x rest =>
    rw [smallest?, hdefined]
    rcases smallestFrom_cases (0, x) 1 rest with ⟨heq, hle⟩ | ⟨j, y, hj, heq, hlt, hle, hbefore⟩
    · refine ⟨0, x, by simp [heq], rfl, ?_, by simp⟩
      simpa using hle
    · refine ⟨j + 1, y, by simp [heq, Nat.add_comm], hj, ?_, ?_⟩
      · rintro z (_ | ⟨_, hz⟩)
        · exact hlt.le
        · exact hle z hz
      · intro k hk z hz
        cases k with
        | zero => cases hz; exact hlt
        | succ k => exact hbefore k (by omega) z (by simpa using hz)

/-- The column that a rule lets enter for given reduced costs. -/
structure Enters (rule : PivotRule) (xs : List Rat) (c : Nat) (x : Rat) : Prop where
  get : xs[c]? = some x
  neg : x < 0
  first : rule = .bland → ∀ k < c, ∀ y, xs[k]? = some y → 0 ≤ y
  smallest : rule = .dantzig → ∀ y ∈ xs, x ≤ y
  first_smallest : rule = .dantzig → ∀ k < c, ∀ y, xs[k]? = some y → x < y

theorem entering_eq_none_iff {rule : PivotRule} {xs : List Rat} :
    rule.entering xs = none ↔ ∀ x ∈ xs, 0 ≤ x := by
  have hfind : xs.findIdx? (lt · 0) = none ↔ ∀ x ∈ xs, 0 ≤ x := by
    rw [List.findIdx?_eq_none_iff]
    refine forall₂_congr fun x _ => ?_
    rw [Bool.eq_false_iff, Ne, lt_iff]
    exact not_lt
  rw [← hfind, entering]
  cases h : xs.findIdx? (lt · 0) with
  | none => simp
  | some c =>
    have hne : xs ≠ [] := by rintro rfl; cases h
    obtain ⟨k, _, hk, _⟩ := smallest?_spec hne
    cases rule <;> simp [hk]

theorem enters_of_entering {rule : PivotRule} {xs : List Rat} {c : Nat}
    (h : rule.entering xs = some c) : ∃ x, rule.Enters xs c x := by
  cases hfind : xs.findIdx? (lt · 0) with
  | none => rw [entering, hfind] at h; exact absurd h (by simp)
  | some k₀ =>
    obtain ⟨hlt, hneg, hbefore⟩ := List.findIdx?_eq_some_iff_getElem.1 hfind
    have hneg : xs[k₀] < 0 := lt_iff.1 hneg
    rw [entering, hfind] at h
    cases rule with
    | bland =>
      have hk : k₀ = c := Option.some.inj h
      subst hk
      refine ⟨xs[k₀], List.getElem?_eq_getElem hlt, hneg, fun _ k hk y hy => ?_, fun hr => ?_,
        fun hr => ?_⟩
      · obtain ⟨hklt, rfl⟩ := List.getElem?_eq_some_iff.1 hy
        exact not_lt.1 fun hlt0 => hbefore k hk (lt_iff.2 hlt0)
      · cases hr
      · cases hr
    | dantzig =>
      have hne : xs ≠ [] := List.ne_nil_of_length_pos (Nat.zero_lt_of_lt hlt)
      obtain ⟨k, x, hk, hget, hle, hfirst⟩ := smallest?_spec hne
      have hkc : k = c := Option.some.inj (hk.symm.trans h)
      subst hkc
      refine ⟨x, hget, (hle _ (List.getElem_mem hlt)).trans_lt hneg, fun hr => ?_, fun _ => hle,
        fun _ => hfirst⟩
      cases hr

/-- Two columns cannot both be the one that enters, for the later would come too late. -/
theorem Enters.not_before {rule : PivotRule} {xs : List Rat} {c c' : Nat} {x x' : Rat}
    (h : rule.Enters xs c x) (h' : rule.Enters xs c' x') : ¬ c < c' := by
  intro hlt
  cases rule with
  | bland => exact (h'.first rfl c hlt x h.get).not_gt h.neg
  | dantzig =>
    have hle := h.smallest rfl x' (List.mem_of_getElem? h'.get)
    exact hle.not_gt (h'.first_smallest rfl c hlt x h.get)

theorem Enters.unique {rule : PivotRule} {xs : List Rat} {c c' : Nat} {x x' : Rat}
    (h : rule.Enters xs c x) (h' : rule.Enters xs c' x') : c = c' :=
  Nat.le_antisymm (not_lt.1 (h'.not_before h)) (not_lt.1 (h.not_before h'))

theorem entering_eq_some_iff {rule : PivotRule} {xs : List Rat} {c : Nat} :
    rule.entering xs = some c ↔ ∃ x, rule.Enters xs c x := by
  constructor
  · exact enters_of_entering
  · rintro ⟨x, hx⟩
    cases hc : rule.entering xs with
    | none => exact absurd (entering_eq_none_iff.1 hc x (List.mem_of_getElem? hx.get)) hx.neg.not_ge
    | some c' =>
      obtain ⟨x', hx'⟩ := enters_of_entering hc
      rw [hx'.unique hx]

/-! ## The leaving row -/

section Leaving

variable {rule : PivotRule} {tol : Rat} {t : Tableau Rat} {c : Nat} {basis : List Nat}

/-- A constraint row takes part in the ratio test when its entry is above the tolerance. -/
def TakesPart (tol : Rat) (t : Tableau Rat) (c i : Nat) : Prop :=
  1 ≤ i ∧ i < t.height ∧ tol < t.entry i c

/-- How far the entering variable can grow before a row is used up. -/
def ratio (t : Tableau Rat) (c i : Nat) : Rat := t.rhs i / t.entry i c

/-- A row that wins the ratio test among the rows before `bound`. -/
structure Wins (rule : PivotRule) (tol : Rat) (t : Tableau Rat) (c : Nat) (basis : List Nat)
    (bound r : Nat) : Prop where
  takesPart : TakesPart tol t c r
  before : r < bound
  least : ∀ i < bound, TakesPart tol t c i → ratio t c r ≤ ratio t c i
  first : rule = .dantzig → ∀ i < r, TakesPart tol t c i → ratio t c r < ratio t c i
  least_label : rule = .bland → ∀ i < bound, TakesPart tol t c i → ratio t c i = ratio t c r →
    basis.getD (r - 1) 0 ≤ basis.getD (i - 1) 0

/-- The best row so far, with its ratio, wins among the rows before `bound`; there is none
    when no such row takes part. -/
def BestBelow (rule : PivotRule) (tol : Rat) (t : Tableau Rat) (c : Nat) (basis : List Nat)
    (bound : Nat) : Option (Nat × Rat) → Prop
  | none => ∀ i < bound, ¬ TakesPart tol t c i
  | some (r, q) => q = ratio t c r ∧ Wins rule tol t c basis bound r

/-- A row that does not take part changes nothing. -/
theorem BestBelow.skip {best : Option (Nat × Rat)} {row : Nat}
    (h : BestBelow rule tol t c basis row best) (hrow : ¬ TakesPart tol t c row) :
    BestBelow rule tol t c basis (row + 1) best := by
  have hback : ∀ i < row + 1, TakesPart tol t c i → i < row := by
    intro i hi hpart
    rcases Nat.lt_succ_iff_lt_or_eq.1 hi with hlt | rfl
    · exact hlt
    · exact absurd hpart hrow
  cases best with
  | none => exact fun i hi hpart => h i (hback i hi hpart) hpart
  | some best =>
    obtain ⟨r, q⟩ := best
    obtain ⟨hq, hwin⟩ := h
    refine ⟨hq, hwin.takesPart, Nat.lt_succ_of_lt hwin.before, ?_, hwin.first, ?_⟩
    · exact fun i hi hpart => hwin.least i (hback i hi hpart) hpart
    · exact fun hr i hi hpart => hwin.least_label hr i (hback i hi hpart) hpart

/-- A row with a smaller ratio than the best so far becomes the best. -/
theorem BestBelow.improve {best : Option (Nat × Rat)} {row : Nat}
    (h : BestBelow rule tol t c basis row best) (hrow : TakesPart tol t c row)
    (hlt : ∀ b, best = some b → ratio t c row < b.2) :
    BestBelow rule tol t c basis (row + 1) (some (row, ratio t c row)) := by
  have hsmaller : ∀ i < row, TakesPart tol t c i → ratio t c row < ratio t c i := by
    intro i hi hpart
    cases best with
    | none => exact absurd hpart (h i hi)
    | some b =>
      have hb := hlt b rfl
      rw [h.1] at hb
      exact hb.trans_le (h.2.least i hi hpart)
  refine ⟨rfl, hrow, Nat.lt_succ_self row, ?_, fun _ => hsmaller, ?_⟩
  · intro i hi hpart
    rcases Nat.lt_succ_iff_lt_or_eq.1 hi with hi | rfl
    · exact (hsmaller i hi hpart).le
    · exact le_refl _
  · intro _ i hi hpart heq
    rcases Nat.lt_succ_iff_lt_or_eq.1 hi with hi | rfl
    · exact absurd heq (hsmaller i hi hpart).ne'
    · exact le_refl _

/-- A row with the ratio of the best so far replaces it under the least-index rule when its
    label is smaller. -/
theorem BestBelow.tie {r row : Nat} {q : Rat}
    (h : BestBelow rule tol t c basis row (some (r, q))) (hrow : TakesPart tol t c row)
    (heq : ratio t c row = q) (hrule : rule = .bland)
    (hlabel : basis.getD (row - 1) 0 ≤ basis.getD (r - 1) 0) :
    BestBelow rule tol t c basis (row + 1) (some (row, q)) := by
  obtain ⟨hq, hwin⟩ := h
  have hsame : ratio t c row = ratio t c r := heq.trans hq
  refine ⟨heq.symm, hrow, Nat.lt_succ_self row, ?_, fun hr => ?_, ?_⟩
  · intro i hi hpart
    rcases Nat.lt_succ_iff_lt_or_eq.1 hi with hi | rfl
    · exact hsame.le.trans (hwin.least i hi hpart)
    · exact le_refl _
  · rw [hrule] at hr
    cases hr
  · intro _ i hi hpart hi_eq
    rcases Nat.lt_succ_iff_lt_or_eq.1 hi with hi | rfl
    · exact hlabel.trans (hwin.least_label hrule i hi hpart (hi_eq.trans hsame))
    · exact le_refl _

/-- A row that is not better than the best so far leaves it the best. -/
theorem BestBelow.keep {r row : Nat} {q : Rat}
    (h : BestBelow rule tol t c basis row (some (r, q))) (hle : q ≤ ratio t c row)
    (hlabel : rule = .bland → ratio t c row = q →
      basis.getD (r - 1) 0 ≤ basis.getD (row - 1) 0) :
    BestBelow rule tol t c basis (row + 1) (some (r, q)) := by
  obtain ⟨hq, hwin⟩ := h
  refine ⟨hq, hwin.takesPart, Nat.lt_succ_of_lt hwin.before, ?_, hwin.first, ?_⟩
  · intro i hi hpart
    rcases Nat.lt_succ_iff_lt_or_eq.1 hi with hi | rfl
    · exact hwin.least i hi hpart
    · rw [← hq]; exact hle
  · intro hr i hi hpart heq
    rcases Nat.lt_succ_iff_lt_or_eq.1 hi with hi | rfl
    · exact hwin.least_label hr i hi hpart heq
    · exact hlabel hr (heq.trans hq.symm)

theorem isSmaller_none (q : Rat) : isSmaller q none = true := rfl

theorem isSmaller_some_iff {q : Rat} {b : Nat × Rat} : isSmaller q (some b) = true ↔ q < b.2 :=
  lt_iff

theorem isTied_some_iff {q : Rat} {b : Nat × Rat} : isTied q (some b) = true ↔ q = b.2 := eq_iff

/-- Ties are decided without failing when every constraint row has a label. -/
theorem breaksTie_eq {row r : Nat} (hrow : row - 1 < basis.length) (hr : r - 1 < basis.length) :
    breaksTie rule basis row (some r) =
      .ok (decide (rule = .bland ∧ basis.getD (row - 1) 0 < basis.getD (r - 1) 0)) := by
  cases rule with
  | dantzig => rfl
  | bland =>
    simp only [breaksTie, List.getD_eq_getElem?_getD, List.getElem?_eq_getElem hrow,
      List.getElem?_eq_getElem hr, Option.getD_some, true_and]

/-- One row of the pass: it leaves a best row so far that wins among one row more. -/
theorem leavingFrom_step (hc : c < t.width) (hbasis : basis.length + 1 = t.height)
    {entries : List Rat} {row : Nat} {best : Option (Nat × Rat)} (hpos : 1 ≤ row)
    (hget : t.rows[row]? = some entries) (h : BestBelow rule tol t c basis row best)
    (rest : List (List Rat)) :
    ∃ next, leavingFrom rule tol c basis best row (entries :: rest) =
        leavingFrom rule tol c basis next (row + 1) rest ∧
      BestBelow rule tol t c basis (row + 1) next := by
  have hlt : row < t.height := (List.getElem?_eq_some_iff.1 hget).1
  rw [leavingFrom, Tableau.getElem?_row hget hc,
    Tableau.getLast?_row hget (Nat.lt_of_le_of_lt (Nat.zero_le c) hc)]
  dsimp only
  -- the row is passed over, or its ratio is compared with that of the best row so far
  by_cases hpart : t.entry row c ≤ tol
  · rw [if_pos (le_iff.2 hpart)]
    exact ⟨best, rfl, h.skip fun hp => absurd hp.2.2 (not_lt.2 hpart)⟩
  rw [if_neg (mt le_iff.1 hpart)]
  have hpart : TakesPart tol t c row := ⟨hpos, hlt, not_le.1 hpart⟩
  show ∃ next, (if isSmaller (ratio t c row) best = true then
    leavingFrom rule tol c basis (some (row, ratio t c row)) (row + 1) rest else _) = _ ∧ _
  cases best with
  | none =>
    rw [if_pos (isSmaller_none _)]
    exact ⟨_, rfl, h.improve hpart fun b hb => by cases hb⟩
  | some best =>
    obtain ⟨r, q⟩ := best
    by_cases hsmaller : ratio t c row < q
    · rw [if_pos (isSmaller_some_iff.2 hsmaller)]
      exact ⟨_, rfl, h.improve hpart fun b hb => by cases hb; exact hsmaller⟩
    rw [if_neg (mt isSmaller_some_iff.1 hsmaller)]
    have hle : q ≤ ratio t c row := not_lt.1 hsmaller
    show ∃ next, (if isTied (ratio t c row) (some (r, q)) = true then _ else _) = _ ∧ _
    -- equal ratios: the rule and the labels decide which row stays
    by_cases htie : ratio t c row = q
    · have hr := h.2.before
      have hlabels := @breaksTie_eq rule basis row r (by omega) (by omega)
      rw [if_pos (isTied_some_iff.2 htie)]
      simp only [Option.map_some, hlabels]
      by_cases hbreak : rule = .bland ∧ basis.getD (row - 1) 0 < basis.getD (r - 1) 0
      · rw [decide_eq_true hbreak]
        exact ⟨_, rfl, h.tie hpart htie hbreak.1 hbreak.2.le⟩
      · rw [decide_eq_false hbreak]
        exact ⟨_, rfl, h.keep hle fun hb _ => not_lt.1 fun hlt => hbreak ⟨hb, hlt⟩⟩
    · rw [if_neg (mt isTied_some_iff.1 htie)]
      exact ⟨_, rfl, h.keep hle fun _ heq => absurd heq htie⟩

/-- The pass over the constraint rows from `row` on carries the invariant to the last row. -/
theorem leavingFrom_spec (hc : c < t.width) (hbasis : basis.length + 1 = t.height)
    {rows : List (List Rat)} {row : Nat} {best : Option (Nat × Rat)} (hpos : 1 ≤ row)
    (hrows : rows = t.rows.drop row) (hrow : row ≤ t.height)
    (h : BestBelow rule tol t c basis row best) :
    ∃ last, leavingFrom rule tol c basis best row rows = .ok (last.map Prod.fst) ∧
      BestBelow rule tol t c basis t.height last := by
  induction rows generalizing row best with
  | nil =>
    have hend : row = t.height := by
      have := congrArg List.length hrows
      rw [List.length_drop, List.length_nil] at this
      rw [Tableau.height] at hrow ⊢
      omega
    exact ⟨best, rfl, hend ▸ h⟩
  | cons entries rest ih =>
    obtain ⟨hget, hrest⟩ := Tableau.getElem?_of_cons_eq_drop hrows
    obtain ⟨next, heq, hnext⟩ := leavingFrom_step hc hbasis hpos hget h rest
    rw [heq]
    exact ih (Nat.le_add_left 1 row) hrest (List.getElem?_eq_some_iff.1 hget).1 hnext

/-- What the ratio test finds on a tableau with a label for every constraint row: no row when
    none takes part, else the row that wins among all. -/
theorem leaving_spec (hc : c < t.width) (hbasis : basis.length + 1 = t.height) :
    (leaving rule tol t c basis = .ok none ∧ ∀ i, ¬ TakesPart tol t c i) ∨
      ∃ r, leaving rule tol t c basis = .ok (some r) ∧ Wins rule tol t c basis t.height r := by
  have hstart : BestBelow rule tol t c basis 1 none := fun i hi hpart => by
    have := hpart.1
    omega
  have hrows : t.constraintRows = t.rows.drop 1 := by rw [Tableau.constraintRows, List.drop_one]
  obtain ⟨last, heq, hbest⟩ := leavingFrom_spec hc hbasis (le_refl 1) hrows (by omega) hstart
  cases last with
  | none => exact .inl ⟨heq, fun i hpart => hbest i hpart.2.1 hpart⟩
  | some best => exact .inr ⟨best.1, heq, hbest.2⟩

/-- Distinct labels tell the constraint rows apart. -/
theorem eq_of_label_eq {i k : Nat} (hnodup : basis.Nodup) (hi : 1 ≤ i) (hib : i ≤ basis.length)
    (hk : 1 ≤ k) (hkb : k ≤ basis.length)
    (h : basis.getD (i - 1) 0 = basis.getD (k - 1) 0) : i = k := by
  rw [List.getD_eq_getElem _ _ (by omega), List.getD_eq_getElem _ _ (by omega),
    hnodup.getElem_inj_iff] at h
  omega

/-- Only one row wins when the labels are distinct. -/
theorem Wins.unique {bound r r' : Nat} (hnodup : basis.Nodup) (hbasis : basis.length + 1 = bound)
    (h : Wins rule tol t c basis bound r) (h' : Wins rule tol t c basis bound r') : r = r' := by
  have hratio : ratio t c r = ratio t c r' :=
    le_antisymm (h.least r' h'.before h'.takesPart) (h'.least r h.before h.takesPart)
  cases rule with
  | dantzig =>
    rcases Nat.lt_trichotomy r r' with hlt | heq | hlt
    · exact absurd hratio (h'.first rfl r hlt h.takesPart).ne'
    · exact heq
    · exact absurd hratio (h.first rfl r' hlt h'.takesPart).ne
  | bland =>
    have hlabel : basis.getD (r - 1) 0 = basis.getD (r' - 1) 0 :=
      le_antisymm (h.least_label rfl r' h'.before h'.takesPart hratio.symm)
        (h'.least_label rfl r h.before h.takesPart hratio)
    have := h.before
    have := h'.before
    exact eq_of_label_eq hnodup h.takesPart.1 (by omega) h'.takesPart.1 (by omega) hlabel

/-- The ratio test finds no row exactly when none takes part. -/
theorem leaving_eq_none_iff (hc : c < t.width) (hbasis : basis.length + 1 = t.height) :
    leaving rule tol t c basis = .ok none ↔ ∀ i, ¬ TakesPart tol t c i := by
  rcases @leaving_spec rule tol t c basis hc hbasis with ⟨hnone, hno⟩ | ⟨r, hr, hwins⟩
  · exact iff_of_true hnone hno
  · refine iff_of_false ?_ fun hno => hno r hwins.takesPart
    rw [hr]
    rintro ⟨⟩

/-- The ratio test finds exactly the row that wins. -/
theorem leaving_eq_some_iff (hc : c < t.width) (hbasis : basis.length + 1 = t.height)
    (hnodup : basis.Nodup) {r : Nat} :
    leaving rule tol t c basis = .ok (some r) ↔ Wins rule tol t c basis t.height r := by
  rcases @leaving_spec rule tol t c basis hc hbasis with ⟨hnone, hno⟩ | ⟨r', hr', hwins⟩
  · refine iff_of_false ?_ fun hwins => hno r hwins.takesPart
    rw [hnone]
    rintro ⟨⟩
  · rw [hr', Except.ok.injEq, Option.some.injEq]
    constructor
    · rintro rfl
      exact hwins
    · exact fun h => hwins.unique hnodup hbasis h

end Leaving

end ProductionLP.PivotRule
