import ProductionLP.Proofs.Page.Sheet
import ProductionLP.Proofs.Program.Payload

/- Sheets that nobody edits.

   A program is spread over two sheets: its costs are a row of the one, and in the other each
   constraint is a row of coefficients, an operator and a bound. It is read by the names of
   columns. This module follows the numbers there and back:

   1. a column that is looked up by its name is the one in the place of the name
      (`Sheet.Fits.column_eq`), so the sheets give the costs one by one
      (`numbers_objectiveSheet`), the coefficients by variables (`numbers_constraintSheet`), and
      the operators and bounds by constraints;
   2. columns put side by side are the rows again (`rowsOfColumns_eq`);
   3. so the lists that a program is read from are its own, and such lists are read back as they
      were (`readProgram_sheets`). -/
namespace ProductionLP

/-! ## Programs that the page holds -/

/-- A symbol is shown as it is. -/
theorem Relation.IsKnown.text_shown {r : Relation} (h : r.IsKnown) :
    Value.text r.symbol.shown = r.symbol := by
  rcases h with rfl | rfl | rfl <;> rfl

/-- A program in shape can be written as lists. -/
theorem Program.WellShaped.isListed {p : Program Float} (hp : p.WellShaped)
    (hoperators : ∀ r ∈ p.operators, r.IsKnown) : p.IsListed := by
  have hn := hp.n_le
  have hm := hp.m_le
  have hroom : Block.checkRoom [p.m.toNat, p.n.toNat] = .ok () :=
    Block.checkRoom_eq_ok (by simp) (by simp; omega)
  obtain ⟨_, hshape, _⟩ := exists_of_bind_eq_ok hroom
  exact ⟨by have := hp.n_pos; omega, ⟨_, hp.objective_shape⟩,
    ⟨_, hp.coefficients_shape, hshape⟩, ⟨_, hp.bounds_shape⟩,
    fun r hr => (hoperators r hr).ofValue_symbol⟩

namespace Page

/-! ## Columns of a sheet -/

namespace Sheet

variable {s : Sheet} {columns : List String} {height : Nat} {name : String}

/-- A column of numbers is read as it is. -/
theorem numbers_eq {xs : List Float} (h : s.column name = .ok (xs.map .num)) :
    s.numbers name = .ok (xs.map .num) := by
  rw [Sheet.numbers, h]
  show (xs.map Value.num).mapM _ = _
  rw [mapM_eq_ok_iff, List.forall₂_map_left_iff, List.forall₂_map_right_iff, List.forall₂_same]
  exact fun x _ => rfl

/-- A column that is looked up by its name holds the cells in the place of the name. -/
theorem Fits.column_eq (h : s.Fits columns height) (hnodup : columns.Nodup) {j : Nat}
    (hj : columns[j]? = some name) : s.column name = .ok (s.rows.filterMap (·[j]?)) := by
  obtain ⟨hlt, rfl⟩ := List.getElem?_eq_some_iff.1 hj
  rw [Sheet.column, h.findIdx?_eq hnodup hlt]

/-- The cells in a place, when every row has one there. -/
theorem filterMap_cells {α : Type} {rows : List α} {cells : α → List Value} {j : Nat}
    {f : α → Value} (h : ∀ row ∈ rows, (cells row)[j]? = some (f row)) :
    (rows.map cells).filterMap (·[j]?) = rows.map f := by
  rw [List.filterMap_map]
  exact (List.filterMap_congr h).trans (congrFun List.filterMap_eq_map rows)

end Sheet

/-! ## What the sheets hold -/

/-- The name of a variable's column. -/
theorem getElem?_variableNames {n : Int} {j : Nat} (hj : j < n.toNat) :
    (variableNames n)[j]? = some ("x" ++ toString (j + 1)) :=
  Tableau.getElem?_columnNames hj 0

theorem getElem?_constraintColumns {n : Int} {j : Nat} (hj : j < n.toNat) :
    (constraintColumns n)[j]? = some ("x" ++ toString (j + 1)) := by
  rw [constraintColumns, List.getElem?_append_left (by rwa [length_variableNames]),
    getElem?_variableNames hj]

/-- The two columns behind those of the variables. -/
theorem getElem?_constraintColumns_add (n : Int) (k : Nat) :
    (constraintColumns n)[n.toNat + k]? = [operatorColumn, boundColumn][k]? := by
  rw [constraintColumns, List.getElem?_append_right (by rw [length_variableNames]; omega),
    length_variableNames, Nat.add_sub_cancel_left]

section Cells

variable {cs : List Float} {r : Relation} {b : Float} {n : Nat}

theorem getElem?_sheetRow {j : Nat} (hj : j < cs.length) :
    (sheetRow cs r b)[j]? = some (.num (cs.getD j 0)) := by
  rw [sheetRow, List.getElem?_append_left (by simpa using hj)]
  simp [hj]

theorem getElem?_sheetRow_add (hn : cs.length = n) (k : Nat) :
    (sheetRow cs r b)[n + k]? = [r.symbol, .num b][k]? := by
  rw [sheetRow, List.getElem?_append_right (by simp [hn]), List.length_map, hn,
    Nat.add_sub_cancel_left]

theorem sheetRows_eq_map (css : List (List Float)) (rs : List Relation) (bs : List Float) :
    sheetRows css rs bs = (css.zip (rs.zip bs)).map fun c => sheetRow c.1 c.2.1 c.2.2 := by
  fun_induction sheetRows css rs bs with
  | case1 cs css r rs b bs ih => rw [ih]; rfl
  | case2 css rs bs h =>
    cases css with
    | nil => rfl
    | cons cs css =>
      cases rs with
      | nil => rfl
      | cons r rs =>
        cases bs with
        | nil => rfl
        | cons b bs => exact absurd rfl (h cs css r rs b bs rfl rfl)

end Cells

section Columns

variable {p : Program Float}

/-- The sheet of the objective gives the costs one by one. -/
theorem numbers_objectiveSheet (hp : p.WellShaped) {j : Nat} (hj : j < p.n.toNat) :
    (objectiveSheet p).numbers ("x" ++ toString (j + 1)) =
      .ok [.num (p.objective.entries.getD j 0)] := by
  have hlt : j < p.objective.entries.length := by rwa [Block.size_of_vector hp.objective_shape]
  refine @Sheet.numbers_eq _ _ [_] ?_
  rw [(fits_objectiveSheet hp).column_eq (nodup_variableNames p.n) (getElem?_variableNames hj)]
  simp [objectiveSheet, hlt]

/-- The rows of the coefficients are as wide as there are variables. -/
theorem length_of_mem_coefficientRows (hp : p.WellShaped) :
    ∀ row ∈ coefficientRows p, row.length = p.n.toNat := by
  rw [coefficientRows, Block.toRows?, hp.coefficients_shape]
  exact Block.length_of_mem_pieces (Block.size_of_matrix hp.coefficients_shape)

theorem length_coefficientRows (hp : p.WellShaped) : (coefficientRows p).length = p.m.toNat := by
  rw [coefficientRows, Block.toRows?, hp.coefficients_shape]
  exact Block.length_pieces ..

/-- A column of the constraints, when every row has a cell there. -/
theorem column_constraintSheet (hp : p.WellShaped) {j : Nat} {name : String}
    (hname : (constraintColumns p.n)[j]? = some name)
    {f : List Float × Relation × Float → Value}
    (hcell : ∀ c : List Float × Relation × Float, c.1.length = p.n.toNat →
      (sheetRow c.1 c.2.1 c.2.2)[j]? = some (f c)) :
    (constraintSheet p).column name = .ok
      (((coefficientRows p).zip (p.operators.zip p.bounds.entries)).map f) := by
  rw [(fits_constraintSheet hp).column_eq (nodup_constraintColumns p.n) hname]
  refine congrArg Except.ok ?_
  rw [constraintSheet, sheetRows_eq_map]
  refine Sheet.filterMap_cells fun c hc => hcell c ?_
  exact length_of_mem_coefficientRows hp c.1 (List.of_mem_zip hc).1

/-- The parts of the constraints side by side, seen as the parts. -/
theorem map_parts (hp : p.WellShaped) :
    ((coefficientRows p).zip (p.operators.zip p.bounds.entries)).map Prod.fst = coefficientRows p ∧
      ((coefficientRows p).zip (p.operators.zip p.bounds.entries)).map (·.2.1) = p.operators ∧
      ((coefficientRows p).zip (p.operators.zip p.bounds.entries)).map (·.2.2) =
        p.bounds.entries := by
  have hrows := length_coefficientRows hp
  have hoperators := hp.operator_count
  have hbounds := Block.size_of_vector hp.bounds_shape
  have hsnd : ((coefficientRows p).zip (p.operators.zip p.bounds.entries)).map Prod.snd =
      p.operators.zip p.bounds.entries := List.map_snd_zip (by simp; omega)
  refine ⟨List.map_fst_zip (by simp; omega), ?_, ?_⟩
  · show List.map (Prod.fst ∘ Prod.snd) _ = _
    rw [← List.map_map, hsnd, List.map_fst_zip (by omega)]
  · show List.map (Prod.snd ∘ Prod.snd) _ = _
    rw [← List.map_map, hsnd, List.map_snd_zip (by omega)]

/-- The sheet of the constraints gives the coefficients variable by variable. -/
theorem numbers_constraintSheet (hp : p.WellShaped) {j : Nat} (hj : j < p.n.toNat) :
    (constraintSheet p).numbers ("x" ++ toString (j + 1)) =
      .ok ((coefficientRows p).map fun row => .num (row.getD j 0)) := by
  have hcolumn := column_constraintSheet hp (getElem?_constraintColumns hj)
    (f := fun c => .num (c.1.getD j 0)) fun c hc => getElem?_sheetRow (by rwa [hc])
  have hcells : (((coefficientRows p).zip (p.operators.zip p.bounds.entries)).map
      fun c => Value.num (c.1.getD j 0)) = ((coefficientRows p).map (·.getD j 0)).map .num := by
    conv_rhs => rw [← (map_parts hp).1, List.map_map, List.map_map]
    rfl
  rw [hcells] at hcolumn
  rw [Sheet.numbers_eq hcolumn, List.map_map]
  rfl

theorem numbers_bounds (hp : p.WellShaped) :
    (constraintSheet p).numbers boundColumn = .ok (p.bounds.entries.map .num) := by
  have hcolumn := column_constraintSheet hp (getElem?_constraintColumns_add p.n 1)
    (f := fun c => .num c.2.2) fun c hc => getElem?_sheetRow_add hc 1
  refine Sheet.numbers_eq (hcolumn.trans (congrArg Except.ok ?_))
  conv_rhs => rw [← (map_parts hp).2.2, List.map_map]
  rfl

theorem column_operators (hp : p.WellShaped) :
    (constraintSheet p).column operatorColumn = .ok (p.operators.map Relation.symbol) := by
  have hcolumn := column_constraintSheet hp (getElem?_constraintColumns_add p.n 0)
    (f := fun c => c.2.1.symbol) fun c hc => getElem?_sheetRow_add hc 0
  refine hcolumn.trans (congrArg Except.ok ?_)
  conv_rhs => rw [← (map_parts hp).2.1, List.map_map]
  rfl

end Columns

/-! ## Reading the columns -/

/-- Reading something for every variable. -/
theorem mapM_variableNames {β : Type} {n : Int} {f : String → Except Error β} {g : Nat → β}
    (h : ∀ j < n.toNat, f ("x" ++ toString (j + 1)) = .ok (g j)) :
    (variableNames n).mapM f = .ok ((List.range n.toNat).map g) := by
  rw [mapM_eq_ok_iff, List.forall₂_iff_get]
  refine ⟨by rw [length_variableNames, List.length_map, List.length_range], ?_⟩
  intro j hj hj'
  have hlt : j < n.toNat := by rwa [length_variableNames] at hj
  have hname := (List.getElem?_eq_some_iff.1 (getElem?_variableNames hlt)).2
  simpa [hname] using h j hlt

/-- The entries of a list, place by place. -/
theorem map_range_getD {xs : List Float} {n : Nat} (h : xs.length = n) :
    (List.range n).map (fun j => Value.num (xs.getD j 0)) = xs.map .num := by
  subst h
  refine List.ext_getElem (by simp) fun j hj _ => ?_
  have hlt : j < xs.length := by simpa using hj
  simp [hlt]

/-- Columns side by side are the rows again. -/
theorem rowsOfColumns_eq {rows : List (List Float)} {n : Nat} (h : ∀ row ∈ rows, row.length = n) :
    rowsOfColumns rows.length
      ((List.range n).map fun j => rows.map fun row => Value.num (row.getD j 0)) =
        rows.map (·.map .num) := by
  refine List.ext_getElem (by simp [rowsOfColumns]) fun i hi _ => ?_
  have hlt : i < rows.length := by simpa [rowsOfColumns] using hi
  have hcells : ((List.range n).map fun j => rows.map fun row => Value.num (row.getD j 0)).filterMap
      (·[i]?) = (List.range n).map fun j => Value.num (rows[i].getD j 0) :=
    Sheet.filterMap_cells fun j _ => by rw [List.getElem?_map, List.getElem?_eq_getElem hlt]; rfl
  simp only [rowsOfColumns, List.getElem_map, List.getElem_range]
  rw [hcells, map_range_getD (h _ (List.getElem_mem hlt))]

/-- The lists that a program is read from. -/
theorem readProgram_eq {n m : Int} {objective constraints : Sheet}
    {profits columns : List (List Value)} {bounds operators : List Value}
    (hprofits : (variableNames n).mapM (fun c => liftFault (objective.numbers c)) = .ok profits)
    (hcolumns : (variableNames n).mapM (fun c => liftFault (constraints.numbers c)) = .ok columns)
    (hbounds : constraints.numbers boundColumn = .ok bounds)
    (hoperators : constraints.column operatorColumn = .ok operators) :
    readProgram n m objective constraints =
      Program.ofLists (.list (profits.filterMap List.head?))
        (.list ((rowsOfColumns constraints.rows.length columns).map .list)) (.list bounds)
        (.list (operators.map fun v => .text v.shown)) (.int n) (.int m) := by
  rw [readProgram, hprofits]
  show ((variableNames n).mapM (fun c => liftFault (constraints.numbers c)) >>= _) = _
  rw [hcolumns]
  show (liftFault (constraints.numbers boundColumn) >>= _) = _
  rw [hbounds]
  show (liftFault (constraints.column operatorColumn) >>= _) = _
  rw [hoperators]
  rfl

/-- **Unedited sheets hold the program that they show.** A program in shape, with operators that
    have symbols, is read from its own two sheets as it is. -/
theorem readProgram_sheets {p : Program Float} (hp : p.WellShaped)
    (hoperators : ∀ r ∈ p.operators, r.IsKnown) :
    readProgram p.n p.m (objectiveSheet p) (constraintSheet p) = .ok p := by
  have hprofits := mapM_variableNames (f := fun c => liftFault ((objectiveSheet p).numbers c))
    fun j hj => liftFault_eq_ok_iff.2 (numbers_objectiveSheet hp hj)
  have hcolumns := mapM_variableNames (f := fun c => liftFault ((constraintSheet p).numbers c))
    fun j hj => liftFault_eq_ok_iff.2 (numbers_constraintSheet hp hj)
  rw [readProgram_eq hprofits hcolumns (numbers_bounds hp) (column_operators hp)]
  -- each list is the one that stands for the part of the program
  have hcosts : ((List.range p.n.toNat).map fun j =>
      [Value.num (p.objective.entries.getD j 0)]).filterMap List.head? =
        p.objective.entries.map .num := by
    rw [List.filterMap_map, ← map_range_getD (Block.size_of_vector hp.objective_shape)]
    exact congrFun List.filterMap_eq_map _
  have hrows : rowsOfColumns (constraintSheet p).rows.length ((List.range p.n.toNat).map fun j =>
      (coefficientRows p).map fun row => Value.num (row.getD j 0)) =
        (coefficientRows p).map (·.map .num) := by
    rw [(fits_constraintSheet hp).height_eq, ← length_coefficientRows hp]
    exact rowsOfColumns_eq (length_of_mem_coefficientRows hp)
  have hsymbols : (p.operators.map Relation.symbol).map (fun v => Value.text v.shown) =
      p.operators.map Relation.symbol := by
    rw [List.map_map]
    exact List.map_congr_left fun r hr => (hoperators r hr).text_shown
  have hmatrix : Value.ofBlock p.coefficients =
      .list (((coefficientRows p).map (·.map .num)).map .list) := by
    rw [Value.ofBlock_matrix hp.coefficients_shape, coefficientRows, Block.toRows?,
      hp.coefficients_shape, List.map_map]
    rfl
  have hread := (hp.isListed hoperators).ofLists_eq_ok
  rw [Value.ofBlock_vector hp.objective_shape, Value.ofBlock_vector hp.bounds_shape,
    hmatrix] at hread
  rw [hcosts, hrows, hsymbols]
  exact hread

/-- Three variables and two constraints, with numbers and operators that no solver takes. -/
def unusual : Program Float where
  n := 3
  m := 2
  objective := .vector [-0.0, 0.0 / 0.0, 1.0 / 0.0]
  coefficients := .matrix [[1.5, -2.0, 5e-324], [-1.0 / 0.0, 0.1, 1e308]] 3 (by simp)
  bounds := .vector [-4.0, 0.0]
  operators := [.equal, .atLeast]

theorem readProgram_sheets_unusual :
    unusual.WellShaped ∧ (∀ r ∈ unusual.operators, r.IsKnown) ∧
      readProgram unusual.n unusual.m (objectiveSheet unusual) (constraintSheet unusual) =
        .ok unusual := by
  have hshaped : unusual.WellShaped := by constructor <;> decide
  have hoperators : ∀ r ∈ unusual.operators, r.IsKnown := by
    simp [unusual, Relation.IsKnown]
  exact ⟨hshaped, hoperators, readProgram_sheets hshaped hoperators⟩

end Page

end ProductionLP
