import Mathlib.Tactic.Linarith
import ProductionLP.Proofs.Scalar
import ProductionLP.Proofs.Tableau.Equations
import ProductionLP.Proofs.Tableau.First
import ProductionLP.Tableau.Units

/- Values read off a tableau.

   Reading the values never fails on a tableau of a valid program (`values_eq_ok`). On exact
   numbers a column passes for the unit column of a row when its entry there is near one and
   its other entries are near zero and not near one (`unitRow?_eq_some_iff`). With a positive
   tolerance of at most one a true unit column is recognised (`valueAt_unit`), but nothing
   keeps other columns from passing for one. -/
namespace ProductionLP.Tableau

open Scalar

section Reading

variable {α : Type} [Scalar α]

/-- The value that is read off for a variable. -/
def valueAt (tol : α) (t : Tableau α) (j : Nat) : α :=
  valueOf tol t ((List.range t.height).map fun i => t.entry i j)

theorem valuesFrom_eq_ok {tol : α} {t : Tableau α} {j count : Nat} (h : j + count ≤ t.width) :
    valuesFrom tol t j count = .ok ((List.range' j count).map (valueAt tol t)) := by
  induction count generalizing j with
  | zero => rfl
  | succ count ih =>
    rw [valuesFrom, column?_eq (by omega), ih (by omega), List.range'_succ]
    rfl

/-- Reading the values can only fail for lack of room. -/
theorem values_eq_map {tol : α} {t : Tableau α} {n : Int} (hn : 0 ≤ n) (hw : n.toNat ≤ t.width) :
    t.values n tol =
      (Block.checkRoom [n.toNat]).map fun _ => (List.range n.toNat).map (valueAt tol t) := by
  rw [values, if_neg (by omega), List.range_eq_range']
  cases Block.checkRoom [n.toNat] with
  | error => rfl
  | ok => exact valuesFrom_eq_ok (by omega)

/-- There are values for as many variables as a valid program can have. -/
theorem values_eq_ok {tol : α} {t : Tableau α} {n : Int} (hn : 0 ≤ n) (hle : n.toNat ≤ 21)
    (hw : n.toNat ≤ t.width) :
    t.values n tol = .ok ((List.range n.toNat).map (valueAt tol t)) := by
  rw [values_eq_map hn hw, Block.checkRoom_eq_ok (by simp) (by simpa using hle)]
  rfl

end Reading

/-! ## Unit columns on exact numbers -/

section Exact

variable {tol : Rat}

theorem nearOne_iff {x : Rat} : nearOne tol x = true ↔ |x - 1| < tol := by
  rw [nearOne, lt_iff, abs_eq]

theorem nearZero_iff {x : Rat} : nearZero tol x = true ↔ |x| < tol := by
  rw [nearZero, lt_iff, abs_eq]

/-- Exactly one place of a column is near one. -/
theorem countP_eq_one_iff {p : Nat → Bool} {height r : Nat} (hr : r < height) (hp : p r = true) :
    (List.range height).countP p = 1 ↔ ∀ i < height, p i = true → i = r := by
  constructor
  · intro hcount i hi hpi
    rw [List.countP_eq_length_filter, List.length_eq_one_iff] at hcount
    obtain ⟨a, ha⟩ := hcount
    have hmem : ∀ k < height, p k = true → k = a := fun k hk hpk =>
      List.mem_singleton.1 (ha ▸ List.mem_filter.2 ⟨List.mem_range.2 hk, hpk⟩)
    rw [hmem i hi hpi, hmem r hr hp]
  · intro honly
    have hsame : (List.range height).countP p = (List.range height).countP (· == r) := by
      apply List.countP_congr
      intro i hi
      rw [beq_iff_eq]
      constructor
      · exact honly i (List.mem_range.1 hi)
      · rintro rfl
        exact hp
    rw [hsame]
    exact List.count_eq_one_of_mem List.nodup_range (List.mem_range.2 hr)

/-- A column passes for the unit column of a row. -/
theorem unitRow?_eq_some_iff {f : Nat → Rat} {height r : Nat} :
    unitRow? tol ((List.range height).map f) = some r ↔
      r < height ∧ |f r - 1| < tol ∧
        ∀ i < height, i ≠ r → |f i| < tol ∧ tol ≤ |f i - 1| := by
  rw [unitRow?, List.countP_map]
  constructor
  · intro h
    split at h
    · next hcond =>
      obtain ⟨hcount, hall⟩ := hcond
      obtain ⟨hlt, hone, _⟩ := List.findIdx?_eq_some_iff_getElem.1 h
      rw [List.length_map, List.length_range] at hlt
      rw [List.getElem_map, List.getElem_range] at hone
      refine ⟨hlt, nearOne_iff.1 hone, fun i hi hir => ?_⟩
      have hfar : ¬ nearOne tol (f i) = true := fun hnear =>
        hir ((countP_eq_one_iff hlt hone).1 hcount i hi hnear)
      have hnear := List.all_eq_true.1 hall (f i)
        (List.mem_map.2 ⟨i, List.mem_range.2 hi, rfl⟩)
      rw [Bool.or_eq_true] at hnear
      exact ⟨nearZero_iff.1 (hnear.resolve_left hfar), not_lt.1 (mt nearOne_iff.2 hfar)⟩
    · cases h
  · rintro ⟨hlt, hone, hother⟩
    have hone : nearOne tol (f r) = true := nearOne_iff.2 hone
    have honly : ∀ i < height, nearOne tol (f i) = true → i = r := fun i hi hnear =>
      by_contra fun hir => (hother i hi hir).2.not_gt (nearOne_iff.1 hnear)
    -- the row found first is the only one near one
    rw [if_pos, List.findIdx?_eq_some_iff_getElem]
    · refine ⟨by simpa using hlt, by simpa using hone, fun i hi hnear => ?_⟩
      rw [List.getElem_map, List.getElem_range] at hnear
      exact hi.ne (honly i (hi.trans hlt) hnear)
    · refine ⟨(countP_eq_one_iff hlt hone).2 honly, List.all_eq_true.2 fun x hx => ?_⟩
      obtain ⟨i, hi, rfl⟩ := List.mem_map.1 hx
      rw [Bool.or_eq_true]
      by_cases hir : i = r
      · left
        rw [hir]
        exact hone
      · exact .inr (nearZero_iff.2 (hother i (List.mem_range.1 hi) hir).1)

/-- A true unit column is recognised with any positive tolerance of at most one. -/
theorem unitRow?_unit (hpos : 0 < tol) (hle : tol ≤ 1) {height r : Nat} (hr : r < height) :
    unitRow? tol ((List.range height).map fun i => if i = r then 1 else 0) = some r := by
  rw [unitRow?_eq_some_iff]
  refine ⟨hr, by simpa using hpos, fun i _ hir => ?_⟩
  rw [if_neg hir]
  simpa using ⟨hpos, hle⟩

/-- The value of a variable whose column is the unit column of a constraint row. -/
theorem valueAt_unit (hpos : 0 < tol) (hle : tol ≤ 1) {t : Tableau Rat} {r j : Nat}
    (hr : r + 1 < t.height) (hw : 0 < t.width)
    (hunit : ∀ i, t.entry i j = if i = r + 1 then 1 else 0) :
    valueAt tol t j = t.rhs (r + 1) := by
  have hcolumn : (List.range t.height).map (fun i => t.entry i j) =
      (List.range t.height).map fun i => if i = r + 1 then 1 else 0 :=
    List.map_congr_left fun i _ => hunit i
  rw [valueAt, hcolumn, valueOf, unitRow?_unit hpos hle hr]
  simp only [rhs?_eq hr hw, Option.getD_some]
  rfl

/-- The column of a variable passes for the unit column of a row: its entry there is near one,
    and its other entries are near zero and not near one. -/
def PassesFor (tol : Rat) (t : Tableau Rat) (j r : Nat) : Prop :=
  r < t.height ∧ |t.entry r j - 1| < tol ∧
    ∀ i < t.height, i ≠ r → |t.entry i j| < tol ∧ tol ≤ |t.entry i j - 1|

instance (tol : Rat) (t : Tableau Rat) (j r : Nat) : Decidable (PassesFor tol t j r) :=
  inferInstanceAs (Decidable (_ ∧ _ ∧ ∀ i < t.height, i ≠ r → _))

theorem PassesFor.unique {t : Tableau Rat} {j r q : Nat} (hr : PassesFor tol t j r)
    (hq : PassesFor tol t j q) : q = r := by
  by_contra hne
  exact (hr.2.2 q hq.1 hne).2.not_gt hq.2.1

/-- The value of a variable is the right-hand side of the constraint row whose unit column its
    column passes for, and zero when there is no such row. -/
theorem valueAt_eq_sum (t : Tableau Rat) (hw : 0 < t.width) (j : Nat) :
    valueAt tol t j =
      ∑ i ∈ Finset.range (t.height - 1),
        if PassesFor tol t j (i + 1) then t.rhs (i + 1) else 0 := by
  have hrow : ∀ r, unitRow? tol ((List.range t.height).map fun i => t.entry i j) = some r ↔
      PassesFor tol t j r := fun r => unitRow?_eq_some_iff
  rw [valueAt, valueOf]
  split
  · next r hr =>
    have hpass := (hrow (r + 1)).1 hr
    have hlt := hpass.1
    rw [Finset.sum_eq_single_of_mem r (Finset.mem_range.2 (by omega)), if_pos hpass,
      rhs?_eq hlt hw, Option.getD_some, rhs]
    intro i _ hir
    rw [if_neg fun h => hir (Nat.succ.inj (hpass.unique h))]
  · next hno =>
    symm
    apply Finset.sum_eq_zero
    intro i _
    exact if_neg fun h => hno i ((hrow (i + 1)).2 h)

theorem valueAt_of_passesFor {t : Tableau Rat} (hw : 0 < t.width) {j r : Nat} (hr : 1 ≤ r)
    (h : PassesFor tol t j r) : valueAt tol t j = t.rhs r := by
  obtain ⟨i, rfl⟩ := Nat.exists_eq_succ_of_ne_zero (Nat.one_le_iff_ne_zero.1 hr)
  have hlt := h.1
  rw [valueAt_eq_sum t hw, Finset.sum_eq_single_of_mem i (Finset.mem_range.2 (by omega)), if_pos h]
  intro k _ hki
  exact if_neg fun hk => hki (Nat.succ.inj (h.unique hk))

theorem valueAt_of_not_passesFor {t : Tableau Rat} (hw : 0 < t.width) {j : Nat}
    (h : ∀ r, 1 ≤ r → ¬ PassesFor tol t j r) : valueAt tol t j = 0 := by
  rw [valueAt_eq_sum t hw]
  exact Finset.sum_eq_zero fun i _ => if_neg (h (i + 1) (Nat.le_add_left 1 i))

theorem valueAt_eq_zero_iff {t : Tableau Rat} (hw : 0 < t.width) {j : Nat} :
    valueAt tol t j = 0 ↔ ∀ r, 1 ≤ r → PassesFor tol t j r → t.rhs r = 0 := by
  constructor
  · intro hzero r hr hpass
    rw [← valueAt_of_passesFor hw hr hpass, hzero]
  · intro hzero
    by_cases hpass : ∃ r, 1 ≤ r ∧ PassesFor tol t j r
    · obtain ⟨r, hr, hpass⟩ := hpass
      rw [valueAt_of_passesFor hw hr hpass, hzero r hr hpass]
    · exact valueAt_of_not_passesFor hw fun r hr h => hpass ⟨r, hr, h⟩

end Exact

end ProductionLP.Tableau
