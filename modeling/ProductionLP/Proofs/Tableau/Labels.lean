import ProductionLP.Proofs.Snapshots
import ProductionLP.Proofs.Tableau.Names

/- Labels of rows and values of variables.

   Two tests look for unit columns. Values are read off with one that looks at a whole column
   and asks for its only one (`unitRow?`); labels come from one that asks for a one in a given
   row and zeros elsewhere (`isUnitAt`). The second never asks whether an entry that passes for
   zero passes for one as well. With a tolerance of at most a half none does, and the two tests
   classify every column alike (`isUnitAt_iff_unitRow?`). Labels and values then tell the same
   story (`labels_match_values`), and on a run every row has a basic column to be named after
   (`Program.Represents.label_mem`). -/
namespace ProductionLP

namespace Tableau

open Scalar

theorem getElem?_map_range {α : Type} {f : Nat → α} {count i : Nat} {x : α} :
    ((List.range count).map f)[i]? = some x ↔ i < count ∧ f i = x := by
  rw [List.getElem?_eq_some_iff]
  simp

/-! ## The two tests -/

section Tests

variable {tol : Rat} {f : Nat → Rat} {height r : Nat}

/-- What is near zero is not near one. -/
theorem le_abs_sub_one (hle : tol ≤ 1 / 2) {x : Rat} (hx : |x| < tol) : tol ≤ |x - 1| := by
  calc tol ≤ 1 - |x| := by linarith
    _ = |(1 : Rat)| - |x| := by rw [abs_one]
    _ ≤ |1 - x| := abs_sub_abs_le_abs_sub 1 x
    _ = |x - 1| := abs_sub_comm 1 x

/-- A unit column, as the labels see it. -/
theorem isUnitAt_iff :
    isUnitAt tol r ((List.range height).map f) = true ↔
      r < height ∧ |f r - 1| < tol ∧ ∀ i < height, i ≠ r → |f i| < tol := by
  have hzeros : (((List.range height).map f).eraseIdx r).all (nearZero tol) = true ↔
      ∀ i < height, i ≠ r → |f i| < tol := by
    rw [List.all_eq_true]
    constructor
    · intro hall i hi hir
      have hmem : f i ∈ ((List.range height).map f).eraseIdx r :=
        List.mem_eraseIdx_iff_getElem?.2 ⟨i, hir, getElem?_map_range.2 ⟨hi, rfl⟩⟩
      exact nearZero_iff.1 (hall _ hmem)
    · intro hsmall x hx
      obtain ⟨i, hir, hget⟩ := List.mem_eraseIdx_iff_getElem?.1 hx
      obtain ⟨hi, rfl⟩ := getElem?_map_range.1 hget
      exact nearZero_iff.2 (hsmall i hi hir)
  rcases Nat.lt_or_ge r height with hr | hr
  · have hget : ((List.range height).map f)[r]? = some (f r) := getElem?_map_range.2 ⟨hr, rfl⟩
    have hone : (!le tol (Scalar.abs (f r - 1))) = true ↔ |f r - 1| < tol := by
      rw [Bool.not_eq_true', ← Bool.not_eq_true, le_iff, abs_eq, not_le]
    simp only [isUnitAt, hget, Bool.and_eq_true, hone, hzeros, hr, true_and]
  · have hget : ((List.range height).map f)[r]? = none :=
      List.getElem?_eq_none (by simpa using hr)
    simp only [isUnitAt, hget, Bool.false_eq_true, false_iff]
    exact fun h => hr.not_gt h.1

/-- Up to a tolerance of a half the two tests classify every column alike. -/
theorem isUnitAt_iff_unitRow? (hle : tol ≤ 1 / 2) :
    isUnitAt tol r ((List.range height).map f) = true ↔
      unitRow? tol ((List.range height).map f) = some r := by
  rw [isUnitAt_iff, unitRow?_eq_some_iff]
  refine and_congr_right fun _ => and_congr_right fun _ => ?_
  refine forall_congr' fun i => imp_congr_right fun _ => imp_congr_right fun _ => ?_
  exact ⟨fun hsmall => ⟨hsmall, le_abs_sub_one hle hsmall⟩, fun h => h.1⟩

end Tests

/-! ## The label of a row -/

section Rows

variable {α : Type} [Scalar α] {tol : α} {t : Tableau α} {names : List String} {row : Nat}

/-- The columns of the variables, entry by entry. -/
theorem variableColumns_eq : t.variableColumns =
    (List.range (t.width - 1)).map fun j => (List.range t.height).map fun i => t.entry i j := by
  rw [variableColumns, ← List.filterMap_eq_map]
  refine List.filterMap_congr fun j hj => ?_
  have hlt := List.mem_range.1 hj
  exact column?_eq (by omega)

theorem mem_variableColumns {j : Nat} (hj : j < t.width - 1) :
    (List.range t.height).map (fun i => t.entry i j) ∈ t.variableColumns := by
  rw [variableColumns_eq]
  exact List.mem_map.2 ⟨j, List.mem_range.2 hj, rfl⟩

/-- The first of the columns that the labels take for a unit column of a row. -/
structure IsFirstUnit (tol : α) (t : Tableau α) (row k : Nat) : Prop where
  unit : ∃ column, t.variableColumns[k]? = some column ∧ isUnitAt tol row column = true
  first : ∀ l < k, ∀ column, t.variableColumns[l]? = some column →
    isUnitAt tol row column = false

/-- A row has the name of its first unit column, or its own name when it has none. -/
theorem rowLabel_cases (tol : α) (hnames : names.length = t.width - 1) (row : Nat) :
    (∃ k, t.IsFirstUnit tol row k ∧ names[k]? = some (rowLabel tol t names row)) ∨
      (∀ column ∈ t.variableColumns, isUnitAt tol row column = false) ∧
        rowLabel tol t names row = "R" ++ toString row := by
  have hlength : t.variableColumns.length = names.length := by
    rw [variableColumns_eq, List.length_map, List.length_range, hnames]
  -- every column goes with a name
  have hpair : ∀ (k : Nat) (column : List α), t.variableColumns[k]? = some column →
      ∃ name, (t.variableColumns.zip names)[k]? = some (column, name) := by
    intro k column hcolumn
    have hk : k < names.length := hlength ▸ (List.getElem?_eq_some_iff.1 hcolumn).1
    exact ⟨names[k], List.getElem?_zip_eq_some.2 ⟨hcolumn, List.getElem?_eq_getElem hk⟩⟩
  rw [rowLabel]
  split
  · next column name hfind =>
    left
    obtain ⟨hunit, k, hk, hget, hfirst⟩ := List.find?_eq_some_iff_getElem.1 hfind
    obtain ⟨hcolumn, hname⟩ := List.getElem?_zip_eq_some.1 (List.getElem?_eq_some_iff.2 ⟨hk, hget⟩)
    refine ⟨k, ⟨⟨column, hcolumn, hunit⟩, fun l hl other hother => ?_⟩, hname⟩
    obtain ⟨name, hzip⟩ := hpair l other hother
    obtain ⟨hl', hzip⟩ := List.getElem?_eq_some_iff.1 hzip
    have hother := hfirst l hl
    rw [hzip, Bool.not_eq_true'] at hother
    exact hother
  · next hfind =>
    refine .inr ⟨fun column hcolumn => ?_, rfl⟩
    obtain ⟨k, hk⟩ := List.mem_iff_getElem?.1 hcolumn
    obtain ⟨name, hzip⟩ := hpair k column hk
    exact Bool.eq_false_of_not_eq_true
      (List.find?_eq_none.1 hfind _ (List.mem_of_getElem? hzip))

/-- A row with a unit column has the name of a column. -/
theorem rowLabel_of_unit (hnames : names.length = t.width - 1) {column : List α}
    (hcolumn : column ∈ t.variableColumns) (hunit : isUnitAt tol row column = true) :
    ∃ k, t.IsFirstUnit tol row k ∧ names[k]? = some (rowLabel tol t names row) := by
  rcases rowLabel_cases tol hnames row with h | ⟨hnone, _⟩
  · exact h
  · rw [hnone column hcolumn] at hunit
    cases hunit

/-- The labels of a tableau with `n` decision variables and `m` constraint rows. -/
theorem rowLabels_eq {n m : Nat} (hh : t.height = m + 1) (hw : t.width = n + m + 1) :
    t.rowLabels tol = (List.range m).map fun i => rowLabel tol t (columnNames n m) (i + 1) := by
  have hm : t.constraintCount = m := by
    rw [constraintCount, hh]
    omega
  have hn : t.variableCount = n := by
    rw [variableCount, hm, hw]
    omega
  rw [rowLabels, hn, hm, hh, Nat.add_sub_cancel]

end Rows

/-! ## Labels and values -/

section Match

variable {tol : Rat} {t : Tableau Rat} {n m : Nat}

theorem isUnitAt_iff_passesFor (hle : tol ≤ 1 / 2) {k r : Nat} {column : List Rat}
    (hcolumn : t.variableColumns[k]? = some column) :
    isUnitAt tol r column = true ↔ PassesFor tol t k r := by
  rw [variableColumns_eq] at hcolumn
  obtain ⟨_, rfl⟩ := getElem?_map_range.1 hcolumn
  rw [isUnitAt_iff_unitRow? hle, unitRow?_eq_some_iff]
  rfl

theorem IsFirstUnit.passesFor (hle : tol ≤ 1 / 2) {row k : Nat} (h : t.IsFirstUnit tol row k) :
    PassesFor tol t k row := by
  obtain ⟨column, hcolumn, hunit⟩ := h.unit
  exact (isUnitAt_iff_passesFor hle hcolumn).1 hunit

/-- The labels of the constraint rows and the values of the variables of a tableau tell the
    same story. -/
structure LabelsMatch (tol : Rat) (t : Tableau Rat) (n m : Nat) (values : List Rat) : Prop where
  length_values : values.length = n
  length_labels : (t.rowLabels tol).length = m
  value_of_label : ∀ i j, (t.rowLabels tol)[i]? = some ("x" ++ toString (j + 1)) →
    values[j]? = some (t.rhs (i + 1))
  label_of_unit : ∀ i j column, j < n → t.column? j = some column →
    unitRow? tol column = some (i + 1) →
      ∃ k name, t.IsFirstUnit tol (i + 1) k ∧ (columnNames n m)[k]? = some name ∧
        (t.rowLabels tol)[i]? = some name ∧ name ≠ "R" ++ toString (i + 1)
  nodup : (t.rowLabels tol).Nodup

theorem length_columnNames_eq (hw : t.width = n + m + 1) :
    (columnNames n m).length = t.width - 1 := by
  rw [length_columnNames, hw]
  rfl

/-- Different rows have different labels: no column passes for the unit column of two rows. -/
theorem rowLabel_injective (hle : tol ≤ 1 / 2) (hw : t.width = n + m + 1) {i k : Nat}
    (h : rowLabel tol t (columnNames n m) (i + 1) = rowLabel tol t (columnNames n m) (k + 1)) :
    i = k := by
  have hnames := length_columnNames_eq hw
  rcases rowLabel_cases tol hnames (i + 1) with ⟨a, hi, hname⟩ | ⟨_, hname⟩
  · have ha := (List.getElem?_eq_some_iff.1 hname).1
    rcases rowLabel_cases tol hnames (k + 1) with ⟨b, hk, hname'⟩ | ⟨_, hname'⟩
    · -- equal names are names of one column, and it passes for a unit column of one row only
      rw [h, ← hname', List.getElem?_inj ha (nodup_columnNames n m)] at hname
      subst hname
      exact Nat.succ.inj ((hk.passesFor hle).unique (hi.passesFor hle))
    · rw [h, hname'] at hname
      exact absurd rfl (ne_rowName_of_mem (List.mem_of_getElem? hname) (k + 1))
  · rcases rowLabel_cases tol hnames (k + 1) with ⟨b, _, hname'⟩ | ⟨_, hname'⟩
    · rw [← h, hname] at hname'
      exact absurd rfl (ne_rowName_of_mem (List.mem_of_getElem? hname') (i + 1))
    · rw [hname, hname'] at h
      exact numbered_injective "R" h

/-- A row that is named after a decision variable has the unit column of the variable. -/
theorem passesFor_of_rowLabel (hle : tol ≤ 1 / 2) (hw : t.width = n + m + 1) {row j : Nat}
    (h : rowLabel tol t (columnNames n m) row = "x" ++ toString (j + 1)) :
    j < n ∧ PassesFor tol t j row := by
  rcases rowLabel_cases tol (length_columnNames_eq hw) row with ⟨k, hunit, hname⟩ | ⟨_, hname⟩
  · rw [h] at hname
    obtain ⟨rfl, hk⟩ := getElem?_columnNames_iff.1 hname
    exact ⟨by simpa using hk, hunit.passesFor hle⟩
  · rw [h] at hname
    exact absurd hname (append_ne_append (c := 'x') (d := 'R') rfl rfl (by decide) _ _)

theorem labelsMatch (hle : tol ≤ 1 / 2) (hh : t.height = m + 1) (hw : t.width = n + m + 1) :
    t.LabelsMatch tol n m ((List.range n).map (valueAt tol t)) := by
  have hlabels : t.rowLabels tol =
      (List.range m).map fun i => rowLabel tol t (columnNames n m) (i + 1) := rowLabels_eq hh hw
  refine ⟨by simp, by simp [hlabels], ?_, ?_, ?_⟩
  · intro i j hlabel
    rw [hlabels] at hlabel
    obtain ⟨_, hlabel⟩ := getElem?_map_range.1 hlabel
    obtain ⟨hj, hpass⟩ := passesFor_of_rowLabel hle hw hlabel
    exact getElem?_map_range.2 ⟨hj, valueAt_of_passesFor (by omega) (Nat.le_add_left 1 i) hpass⟩
  · -- the column of the variable need not be the first unit column of its row, but there is one
    intro i j column hj hcolumn hunit
    rw [column?_eq (by omega)] at hcolumn
    obtain rfl := Option.some.inj hcolumn
    have hrow : i + 1 < t.height := (unitRow?_eq_some_iff.1 hunit).1
    obtain ⟨k, hfirst, hname⟩ := rowLabel_of_unit (length_columnNames_eq hw)
      (mem_variableColumns (by omega)) ((isUnitAt_iff_unitRow? hle).2 hunit)
    refine ⟨k, _, hfirst, hname, ?_, ne_rowName_of_mem (List.mem_of_getElem? hname) (i + 1)⟩
    rw [hlabels]
    exact getElem?_map_range.2 ⟨by omega, rfl⟩
  · rw [hlabels]
    exact List.nodup_range.map fun i k h => rowLabel_injective hle hw h

end Match

end Tableau

/-- On a tableau in canonical form every row is named after a column. -/
theorem Program.Represents.label_mem {p : Program Rat} {g : Stage Rat} {tol : Rat}
    (h : p.Represents g) (hpos : 0 < tol) {i : Nat} {label : String}
    (hlabel : (g.tableau.rowLabels tol)[i]? = some label) :
    label ∈ Tableau.columnNames p.n p.m := by
  rw [Tableau.rowLabels_eq h.height h.width] at hlabel
  obtain ⟨hi, rfl⟩ := Tableau.getElem?_map_range.1 hlabel
  have hib : i < g.basis.length := by
    rw [h.length_basis]
    exact hi
  have hlt : g.basis[i] < g.tableau.width - 1 := by
    rw [h.width]
    exact h.lt_of_mem _ (List.getElem_mem hib)
  -- the basic column of the row is a unit column
  have hunit : Tableau.isUnitAt tol (i + 1)
      ((List.range g.tableau.height).map fun r => g.tableau.entry r g.basis[i]) = true := by
    refine Tableau.isUnitAt_iff.2 ⟨h.row_lt hib, ?_, fun r _ hr => ?_⟩
    · rw [h.unit i hib, if_pos rfl, sub_self, abs_zero]
      exact hpos
    · rw [h.unit i hib, if_neg hr, abs_zero]
      exact hpos
  obtain ⟨_, _, hname⟩ :=
    Tableau.rowLabel_of_unit (Tableau.length_columnNames_eq h.width)
      (Tableau.mem_variableColumns hlt) hunit
  exact List.mem_of_getElem? hname

/-- **Row labels and extracted values tell the same story.** With a positive tolerance of at
    most a half, a row of a tableau that is named after a decision variable holds the value
    that is read off for it; a row with the unit column of a decision variable is named after
    its first unit column; and no two rows have the same label. On a run of the solver every
    row of every snapshot is named after a column. -/
theorem labels_match_values {tol : Rat} (hpos : 0 < tol) (hle : tol ≤ 1 / 2) :
    (∀ (t : Tableau Rat) (n m : Nat), t.height = m + 1 → t.width = n + m + 1 →
      ∃ values, t.values n tol = (Block.checkRoom [n]).map (fun _ => values) ∧
        t.LabelsMatch tol n m values) ∧
    ∀ (s : Settings Rat) (p : Program Rat), p.validate = .ok () → 0 ≤ s.pivotTol →
      ∃ sol, solve s p = .ok sol ∧ ∀ sn ∈ sol.snapshots,
        (sn.tableau.rowLabels tol).length = p.m.toNat ∧
        ∀ i label, (sn.tableau.rowLabels tol)[i]? = some label →
          label ∈ Tableau.columnNames p.n p.m ∧ label ≠ "R" ++ toString (i + 1) := by
  constructor
  · intro t n m hh hw
    refine ⟨_, ?_, Tableau.labelsMatch hle hh hw⟩
    exact Tableau.values_eq_map (Int.natCast_nonneg n) (by rw [Int.toNat_natCast]; omega)
  · intro s p hvalid htol
    obtain ⟨g, tr, htrace, hrun⟩ := trace_of_isValid s ((Program.validate_eq_ok_iff p).1 hvalid)
    obtain ⟨status, _, hsolve⟩ := hrun.solve_eq_ok htrace htol
    refine ⟨_, hsolve, fun sn hsn => ?_⟩
    rw [tr.snapshots_solution s p status] at hsn
    obtain ⟨k, hk⟩ := List.mem_iff_getElem?.1 hsn
    obtain ⟨hle, _, hstage⟩ := hrun.stage_of_snapshot hk
    have hrep := hrun.represents htol k hle
    rw [← hstage] at hrep
    constructor
    · rw [Tableau.rowLabels_eq hrep.height hrep.width, List.length_map, List.length_range]
    · intro i label hlabel
      have hmem := hrep.label_mem hpos hlabel
      exact ⟨hmem, Tableau.ne_rowName_of_mem hmem (i + 1)⟩

/-- A tableau with two columns for one row, the second of them off by a third. -/
def nearUnit : Tableau Rat := ⟨4, [[0, 0, 0, 1], [1, 4 / 3, 1, 2]], by decide⟩

theorem labels_match_values_nearUnit :
    (0 : Rat) < 1 / 2 ∧ (1 / 2 : Rat) ≤ 1 / 2 ∧ nearUnit.rowLabels (1 / 2) = ["x1"] ∧
      (∃ values, nearUnit.values 2 (1 / 2) = (Block.checkRoom [2]).map (fun _ => values) ∧
        nearUnit.LabelsMatch (1 / 2) 2 1 values) ∧
      ∃ sol, solve blunt thinRow = .ok sol ∧ ∀ sn ∈ sol.snapshots,
        (sn.tableau.rowLabels (1 / 2)).length = 2 ∧
        ∀ i label, (sn.tableau.rowLabels (1 / 2))[i]? = some label →
          label ∈ Tableau.columnNames 2 2 ∧ label ≠ "R" ++ toString (i + 1) := by
  have hpos : (0 : Rat) < 1 / 2 := by decide +kernel
  have hle : (1 / 2 : Rat) ≤ 1 / 2 := le_refl _
  have hvalid : thinRow.validate = .ok () := rfl
  have htol : 0 ≤ blunt.pivotTol := by decide +kernel
  obtain ⟨htableaus, hruns⟩ := labels_match_values hpos hle
  exact ⟨hpos, hle, by decide +kernel, htableaus nearUnit 2 1 rfl rfl,
    hruns blunt thinRow hvalid htol⟩

end ProductionLP
