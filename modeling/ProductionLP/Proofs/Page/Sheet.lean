import Mathlib.Data.List.Nodup
import ProductionLP.Page.Sheet
import ProductionLP.Proofs.Program.Shape
import ProductionLP.Proofs.Tableau.Names

/- Sheets and their edits.

   The sheets of a program in shape have a column for every variable and a row for every
   constraint (`fits_objectiveSheet`, `fits_constraintSheet`). Edits change cells only
   (`Fits.edits`), and since no two columns have the same name they reach every sheet of the
   same shape (`exists_edits_objectiveSheet`, `exists_edits_constraintSheet`): a user can write
   anything into any cell. Whatever the cells hold, a program that is read from two sheets of
   that shape is in shape (`wellShaped_of_readProgram`). -/
namespace ProductionLP.Page

/-- A sheet with given columns and a number of rows. -/
structure Sheet.Fits (s : Sheet) (columns : List String) (height : Nat) : Prop where
  columns_eq : s.columns = columns
  height_eq : s.rows.length = height
  width_eq : ∀ row ∈ s.rows, row.length = columns.length

/-- The columns of the sheet of the constraints. -/
def constraintColumns (n : Int) : List String := variableNames n ++ [operatorColumn, boundColumn]

/-! ## The sheets of a program -/

theorem length_variableNames (n : Int) : (variableNames n).length = n.toNat := by
  rw [variableNames, Tableau.length_columnNames, Int.toNat_zero, Nat.add_zero]

section Shapes

variable {p : Program Float}

theorem fits_objectiveSheet (hp : p.WellShaped) :
    (objectiveSheet p).Fits (variableNames p.n) 1 := by
  refine ⟨rfl, rfl, ?_⟩
  intro row hrow
  obtain rfl := List.mem_singleton.1 hrow
  rw [List.length_map, length_variableNames, Block.size_of_vector hp.objective_shape]

theorem length_sheetRows {css : List (List Float)} {rs : List Relation} {bs : List Float} {m : Nat}
    (hcss : css.length = m) (hrs : rs.length = m) (hbs : bs.length = m) :
    (sheetRows css rs bs).length = m := by
  induction css generalizing rs bs m with
  | nil => simpa [sheetRows] using hcss
  | cons cs css ih =>
    obtain ⟨r, rs, rfl⟩ := List.exists_cons_of_length_pos (l := rs) (by simp at hcss; omega)
    obtain ⟨b, bs, rfl⟩ := List.exists_cons_of_length_pos (l := bs) (by simp at hcss; omega)
    simp only [List.length_cons] at hcss hrs hbs
    simp only [sheetRows, List.length_cons]
    rw [ih rfl (by omega) (by omega)]
    exact hcss

theorem width_sheetRows {css : List (List Float)} {rs : List Relation} {bs : List Float} {n : Nat}
    (h : ∀ cs ∈ css, cs.length = n) : ∀ row ∈ sheetRows css rs bs, row.length = n + 2 := by
  induction css generalizing rs bs with
  | nil => simp [sheetRows]
  | cons cs css ih =>
    intro row hrow
    cases rs with
    | nil => simp [sheetRows] at hrow
    | cons r rs =>
      cases bs with
      | nil => simp [sheetRows] at hrow
      | cons b bs =>
        rcases List.mem_cons.1 hrow with rfl | hrow
        · simp [sheetRow, h cs List.mem_cons_self]
        · exact ih (fun x hx => h x (List.mem_cons_of_mem cs hx)) row hrow

theorem fits_constraintSheet (hp : p.WellShaped) :
    (constraintSheet p).Fits (constraintColumns p.n) p.m.toNat := by
  have hrows : coefficientRows p = Block.pieces p.n.toNat p.m.toNat p.coefficients.entries := by
    rw [coefficientRows, Block.toRows?, hp.coefficients_shape]
    rfl
  refine ⟨rfl, ?_, ?_⟩
  · refine length_sheetRows ?_ hp.operator_count (Block.size_of_vector hp.bounds_shape)
    rw [hrows, Block.length_pieces]
  · have hwidth : (constraintColumns p.n).length = p.n.toNat + 2 := by
      simp [constraintColumns, length_variableNames]
    rw [hwidth]
    apply width_sheetRows
    rw [hrows]
    exact Block.length_of_mem_pieces (Block.size_of_matrix hp.coefficients_shape)

/-- No two columns have the same name. -/
theorem nodup_variableNames (n : Int) : (variableNames n).Nodup := Tableau.nodup_columnNames n 0

theorem nodup_constraintColumns (n : Int) : (constraintColumns n).Nodup := by
  rw [constraintColumns, List.nodup_append]
  refine ⟨nodup_variableNames n, by decide, ?_⟩
  -- a variable's name starts with another letter than the names of the two columns
  intro name hname other hother heq
  subst heq
  rcases Tableau.exists_of_mem_columnNames hname with ⟨j, _, rfl⟩ | ⟨i, hi, _⟩
  · have hhead : ∀ c ∈ ("x" ++ toString (j + 1)).toList.head?, c = 'x' := by simp
    rcases List.mem_cons.1 hother with h | h
    · rw [h] at hhead
      exact absurd (hhead 'o' rfl) (by decide)
    · rw [List.mem_singleton.1 h] at hhead
      exact absurd (hhead 'b' rfl) (by decide)
  · exact absurd hi (Nat.not_lt_zero i)

end Shapes

/-! ## Edits -/

namespace Sheet

variable {s s' t : Sheet} {columns : List String} {height : Nat}

/-- An edit changes a cell and leaves the shape. -/
theorem Fits.edit {e : Edit} (h : s.Fits columns height) (hedit : s.edit e = .ok s') :
    s'.Fits columns height := by
  unfold Sheet.edit at hedit
  split at hedit
  · cases hedit
  split at hedit
  · cases hedit
    refine ⟨h.columns_eq, by simpa using h.height_eq, ?_⟩
    intro row hrow
    obtain ⟨i, hi⟩ := List.mem_iff_getElem?.1 hrow
    rw [List.getElem?_modify] at hi
    obtain ⟨old, hold, rfl⟩ := Option.map_eq_some_iff.1 hi
    have hwidth := h.width_eq old (List.mem_of_getElem? hold)
    split <;> simpa using hwidth
  · cases hedit

theorem Fits.edits {es : List Edit} (h : s.Fits columns height) (hedits : s.edits es = .ok s') :
    s'.Fits columns height := by
  induction es generalizing s with
  | nil =>
    cases hedits
    exact h
  | cons e rest ih =>
    rw [Sheet.edits, List.foldlM_cons] at hedits
    obtain ⟨next, hnext, hrest⟩ := exists_of_bind_eq_ok hedits
    exact ih (h.edit hnext) hrest

/-- The cell in a row and a column. -/
def cell? (s : Sheet) (i j : Nat) : Option Value := s.rows[i]? >>= (·[j]?)

/-- A sheet is its columns, its index and its cells. -/
theorem Fits.ext (hs : s.Fits columns height) (ht : t.Fits columns height)
    (hindex : s.index = t.index)
    (hcells : ∀ i < height, ∀ j < columns.length, s.cell? i j = t.cell? i j) : s = t := by
  have hrows : s.rows = t.rows := by
    refine List.ext_getElem (hs.height_eq.trans ht.height_eq.symm) fun i hi hi' => ?_
    have hwidth := hs.width_eq _ (List.getElem_mem hi)
    have hwidth' := ht.width_eq _ (List.getElem_mem hi')
    refine List.ext_getElem (hwidth.trans hwidth'.symm) fun j hj hj' => ?_
    have hcell := hcells i (hs.height_eq ▸ hi) j (hwidth ▸ hj)
    simpa [cell?, hi, hi', hj, hj'] using hcell
  obtain ⟨_, _, _⟩ := s
  obtain ⟨_, _, _⟩ := t
  cases hs.columns_eq.trans ht.columns_eq.symm
  cases hindex
  cases hrows
  rfl

/-- A column is found by its name. -/
theorem Fits.findIdx?_eq (h : s.Fits columns height) (hnodup : columns.Nodup) {j : Nat}
    (hj : j < columns.length) : s.columns.findIdx? (· == columns[j]) = some j := by
  rw [h.columns_eq, List.findIdx?_eq_some_iff_getElem]
  refine ⟨hj, by simp, fun k hk => ?_⟩
  simpa using fun heq => hk.ne ((hnodup.getElem_inj_iff).1 heq)

/-- An edit of a cell that is there succeeds and sets this cell alone. -/
theorem Fits.exists_edit (h : s.Fits columns height) (hnodup : columns.Nodup) {i j : Nat}
    (hi : i < height) (hj : j < columns.length) (v : Value) :
    ∃ s', s.edit ⟨i, columns[j], v⟩ = .ok s' ∧ s'.index = s.index ∧
      ∀ i' j', s'.cell? i' j' = if i' = i ∧ j' = j then some v else s.cell? i' j' := by
  have hcolumn := h.findIdx?_eq hnodup hj
  have hrow : 0 ≤ (i : Int) ∧ (i : Int).toNat < s.rows.length := by
    rw [h.height_eq]
    omega
  refine ⟨{ s with rows := s.rows.modify i fun r => r.set j v }, ?_, rfl, ?_⟩
  · simp only [Sheet.edit, hcolumn, if_pos hrow]
    rfl
  · intro i' j'
    have hi' : i < s.rows.length := by rw [h.height_eq]; exact hi
    have hwidth := h.width_eq _ (List.getElem_mem hi')
    by_cases hrow : i = i'
    · subst hrow
      by_cases hcol : j = j'
      · subst hcol
        simp [cell?, hi', hwidth, hj]
      · have : ¬ j' = j := fun h => hcol h.symm
        simp [cell?, hi', hcol, this]
    · have : ¬ i' = i := fun h => hrow h.symm
      simp [cell?, hrow, this]

/-- Edits of some places set the cells there. -/
theorem Fits.exists_edits_of_places (h : s.Fits columns height) (hnodup : columns.Nodup)
    (v : Nat → Nat → Value) (places : List (Nat × Nat))
    (hplaces : ∀ p ∈ places, p.1 < height ∧ p.2 < columns.length) :
    ∃ es s', s.edits es = .ok s' ∧ s'.index = s.index ∧
      ∀ i j, s'.cell? i j = if (i, j) ∈ places then some (v i j) else s.cell? i j := by
  induction places generalizing s with
  | nil => exact ⟨[], s, rfl, rfl, by simp⟩
  | cons place rest ih =>
    obtain ⟨hi, hj⟩ := hplaces place List.mem_cons_self
    obtain ⟨next, hnext, hindex, hcell⟩ := h.exists_edit hnodup hi hj (v place.1 place.2)
    obtain ⟨es, s', hes, hindex', hcells⟩ :=
      ih (h.edit hnext) fun p hp => hplaces p (List.mem_cons_of_mem place hp)
    refine ⟨⟨place.1, columns[place.2], v place.1 place.2⟩ :: es, s', ?_, hindex'.trans hindex, ?_⟩
    · rw [Sheet.edits, List.foldlM_cons, hnext]
      exact hes
    · intro i j
      rw [hcells, hcell]
      by_cases hmem : (i, j) ∈ rest
      · simp [hmem]
      · by_cases hplace : i = place.1 ∧ j = place.2
        · obtain ⟨rfl, rfl⟩ := hplace
          simp
        · have : ¬ (i, j) = place := fun heq => hplace (by simp [← heq])
          simp [hmem, hplace, this]

/-- Edits reach every sheet of the same shape. -/
theorem Fits.exists_edits (hs : s.Fits columns height) (ht : t.Fits columns height)
    (hindex : s.index = t.index) (hnodup : columns.Nodup) : ∃ es, s.edits es = .ok t := by
  obtain ⟨es, s', hes, hindex', hcells⟩ := hs.exists_edits_of_places hnodup
    (fun i j => (t.cell? i j).getD .null) (List.range height ×ˢ List.range columns.length)
    (by simp)
  have hs' := hs.edits hes
  refine ⟨es, ?_⟩
  rw [hes, hs'.ext ht (hindex'.trans hindex)]
  intro i hi j hj
  have hi' : i < t.rows.length := by rw [ht.height_eq]; exact hi
  have hwidth := ht.width_eq _ (List.getElem_mem hi')
  rw [hcells, if_pos (by simpa using ⟨hi, hj⟩)]
  simp [cell?, hi', hwidth, hj]

/-! ## Reading -/

theorem Fits.length_of_column {name : String} {vs : List Value} (h : s.Fits columns height)
    (hcolumn : s.column name = .ok vs) : vs.length = height := by
  unfold Sheet.column at hcolumn
  split at hcolumn
  · cases hcolumn
  · next j hj =>
    have hlt : j < columns.length := by
      rw [← h.columns_eq]
      exact (List.findIdx?_eq_some_iff_getElem.1 hj).1
    cases hcolumn
    rw [List.filterMap_length_eq_length.2, h.height_eq]
    intro row hrow
    simpa [h.width_eq row hrow] using hlt

/-- Cells that can be converted to numbers become numbers. -/
theorem floats_of_mapM {cells vs : List Value}
    (h : cells.mapM (fun v => do return Value.num (← v.toEntry)) = Except.ok (ε := Fault) vs) :
    ∃ xs : List Float, vs = xs.map .num ∧ xs.length = cells.length := by
  have hread := mapM_eq_ok_iff.1 h
  clear h
  induction hread with
  | nil => exact ⟨[], rfl, rfl⟩
  | cons hv _ ih =>
    obtain ⟨x, _, hv⟩ := exists_of_bind_eq_ok hv
    obtain ⟨xs, rfl, hlength⟩ := ih
    cases hv
    exact ⟨x :: xs, rfl, congrArg (· + 1) hlength⟩

/-- A column of numbers holds a number for every row. -/
theorem Fits.floats_of_numbers {name : String} {vs : List Value} (h : s.Fits columns height)
    (hnumbers : s.numbers name = .ok vs) :
    ∃ xs : List Float, vs = xs.map .num ∧ xs.length = height := by
  obtain ⟨cells, hcells, hread⟩ := exists_of_bind_eq_ok hnumbers
  rw [← h.length_of_column hcells]
  exact floats_of_mapM hread

end Sheet

/-- A user can turn the sheet of the objective into any sheet of its shape. -/
theorem exists_edits_objectiveSheet {p : Program Float} (hp : p.WellShaped) {t : Sheet}
    (ht : t.Fits (variableNames p.n) 1) (hindex : (objectiveSheet p).index = t.index) :
    ∃ es, (objectiveSheet p).edits es = .ok t :=
  (fits_objectiveSheet hp).exists_edits ht hindex (nodup_variableNames p.n)

/-- A user can turn the sheet of the constraints into any sheet of its shape. -/
theorem exists_edits_constraintSheet {p : Program Float} (hp : p.WellShaped) {t : Sheet}
    (ht : t.Fits (constraintColumns p.n) p.m.toNat) (hindex : (constraintSheet p).index = t.index) :
    ∃ es, (constraintSheet p).edits es = .ok t :=
  (fits_constraintSheet hp).exists_edits ht hindex (nodup_constraintColumns p.n)

/-- The first numbers of some columns of a sheet with one row. -/
theorem floats_of_profits {s : Sheet} {columns names : List String} {profits : List (List Value)}
    (hs : s.Fits columns 1) (h : names.mapM (fun c => liftFault (s.numbers c)) = .ok profits) :
    ∃ xs : List Float, profits.filterMap List.head? = xs.map .num ∧ xs.length = names.length := by
  have hread := mapM_eq_ok_iff.1 h
  clear h
  induction hread with
  | nil => exact ⟨[], rfl, rfl⟩
  | cons hv _ ih =>
    obtain ⟨ys, rfl, hys⟩ := hs.floats_of_numbers (liftFault_eq_ok_iff.1 hv)
    obtain ⟨y, rfl⟩ := List.length_eq_one_iff.1 hys
    obtain ⟨xs, hxs, hlength⟩ := ih
    exact ⟨y :: xs, by simp [hxs], congrArg (· + 1) hlength⟩

/-- Whatever the cells of two sheets hold, a program that is read from them is in shape and has
    the sizes that the sheets are shown for. -/
theorem wellShaped_of_readProgram {n m : Int} {objective constraints : Sheet} {p : Program Float}
    (hn : 1 ≤ n) (hn' : n ≤ 10) (hm : 1 ≤ m) (hm' : m ≤ 10)
    (hobjective : objective.Fits (variableNames n) 1)
    (hconstraints : constraints.Fits (constraintColumns n) m.toNat)
    (h : readProgram n m objective constraints = .ok p) : p.WellShaped ∧ p.n = n ∧ p.m = m := by
  obtain ⟨profits, hprofits, h⟩ := exists_of_bind_eq_ok h
  obtain ⟨columns, _, h⟩ := exists_of_bind_eq_ok h
  obtain ⟨bounds, hbounds, h⟩ := exists_of_bind_eq_ok h
  obtain ⟨operators, hoperators, h⟩ := exists_of_bind_eq_ok h
  obtain ⟨xs, hxs, hcount⟩ := floats_of_profits hobjective hprofits
  obtain ⟨bs, rfl, hbs⟩ := hconstraints.floats_of_numbers (liftFault_eq_ok_iff.1 hbounds)
  rw [hxs] at h
  refine Program.wellShaped_of_ofLists h hn hn' hm hm' ?_ ?_ hbs ?_
  · rw [hcount, length_variableNames]
  · simp [rowsOfColumns, hconstraints.height_eq]
  · rw [List.length_map, hconstraints.length_of_column (liftFault_eq_ok_iff.1 hoperators)]

end ProductionLP.Page
