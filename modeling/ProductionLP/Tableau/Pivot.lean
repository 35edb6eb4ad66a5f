import ProductionLP.Tableau.Basic

/- Pivots.

   A pivot divides its row by the pivot entry and subtracts multiples of the result from the
   other rows so that the pivot column becomes a unit column. A row whose entry in that
   column is already zero is left alone. -/
namespace ProductionLP.Tableau

open Scalar

variable {α : Type} [Scalar α]

/-- A row divided by a number. -/
def divideRow (p : α) (row : List α) : List α := row.map (· / p)

/-- A row minus as many times the pivot row as it has in the pivot column. -/
def eliminate (pivotRow : List α) (col : Nat) (row : List α) : List α :=
  match row[col]? with
  | none => row
  | some factor =>
    if eq factor 0 then row else List.zipWith (fun x y => x - factor * y) row pivotRow

/-- Elimination keeps the width. -/
theorem length_eliminate {pivotRow row : List α} {width : Nat} (col : Nat)
    (hp : pivotRow.length = width) (hr : row.length = width) :
    (eliminate pivotRow col row).length = width := by
  unfold eliminate
  split
  · exact hr
  · split
    · exact hr
    · simp [hp, hr]

/-- The row divided by its entry in the pivot column; an entry outside the row changes
    nothing. -/
def normalRow (col : Nat) (row : List α) : List α :=
  match row[col]? with
  | none => row
  | some p => divideRow p row

/-- Normalising keeps the width. -/
theorem length_normalRow (col : Nat) (row : List α) : (normalRow col row).length = row.length := by
  unfold normalRow
  split <;> simp [divideRow]

/-- The rows after a pivot in row `r` and column `c`. -/
def pivotRows (rows : List (List α)) (r c : Nat) : List (List α) :=
  match rows[r]? with
  | none => rows
  | some row =>
    let pivotRow := normalRow c row
    rows.mapIdx fun i x => if i = r then pivotRow else eliminate pivotRow c x

/-- A pivot keeps the width of all rows. -/
theorem width_pivotRows {rows : List (List α)} {width : Nat} (r c : Nat)
    (h : ∀ x ∈ rows, x.length = width) : ∀ x ∈ pivotRows rows r c, x.length = width := by
  unfold pivotRows
  split
  · exact h
  · rename_i row hrow
    have hp : (normalRow c row).length = width := by
      rw [length_normalRow]
      exact h row (List.mem_of_getElem? hrow)
    intro x hx
    obtain ⟨i, hi, rfl⟩ := List.mem_mapIdx.1 hx
    split
    · exact hp
    · exact length_eliminate c hp (h _ (List.getElem_mem hi))

/-- The tableau after a pivot in row `r` and column `c`. -/
def pivot (t : Tableau α) (r c : Nat) : Tableau α :=
  ⟨t.width, pivotRows t.rows r c, width_pivotRows r c t.even⟩

/-- The rows after a pivot that does not spare its own row: the rows above see the divided
    row, the row itself is then eliminated by itself, and the rows below see what is left. -/
def sweepRows (rows : List (List α)) (r c : Nat) : List (List α) :=
  match rows[r]? with
  | none => rows
  | some row =>
    let pivotRow := normalRow c row
    let left := eliminate pivotRow c pivotRow
    (rows.take r).map (eliminate pivotRow c) ++ left :: (rows.drop (r + 1)).map (eliminate left c)

/-- A sweep keeps the width of all rows. -/
theorem width_sweepRows {rows : List (List α)} {width : Nat} (r c : Nat)
    (h : ∀ x ∈ rows, x.length = width) : ∀ x ∈ sweepRows rows r c, x.length = width := by
  unfold sweepRows
  split
  · exact h
  · rename_i row hrow
    have hp : (normalRow c row).length = width := by
      rw [length_normalRow]
      exact h row (List.mem_of_getElem? hrow)
    have hl := length_eliminate c hp hp
    intro x hx
    rcases List.mem_append.1 hx with hx | hx
    · obtain ⟨y, hy, rfl⟩ := List.mem_map.1 hx
      exact length_eliminate c hp (h y (List.mem_of_mem_take hy))
    · rcases List.mem_cons.1 hx with rfl | hx
      · exact hl
      · obtain ⟨y, hy, rfl⟩ := List.mem_map.1 hx
        exact length_eliminate c hl (h y (List.mem_of_mem_drop hy))

/-- The tableau after a pivot that does not spare its own row. -/
def sweep (t : Tableau α) (r c : Nat) : Tableau α :=
  ⟨t.width, sweepRows t.rows r c, width_sweepRows r c t.even⟩

end ProductionLP.Tableau
