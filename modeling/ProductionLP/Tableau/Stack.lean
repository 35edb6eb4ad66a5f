import ProductionLP.Tableau.Pivot
import ProductionLP.Tableau.Units

/- Stacks of tableaus.

   A block with more than two axes has rows and columns of cells, and every cell holds as many
   numbers as the remaining axes have room for. Where a cell is a single number the stack is
   looked at as the tableau of these numbers. Other stacks are looked at with the entries of
   their cells one after the other; whatever needs a cell to be a number fails, and what a
   pivot has done before it fails is kept. -/
namespace ProductionLP

/-- Rows and columns of cells of one shape. -/
structure Stack (α : Type) where
  height : Nat
  width : Nat
  cell : List Nat
  entries : List α
  fits : entries.length = Block.volume (height :: width :: cell)

namespace Stack

variable {α : Type}

/-- A block with at least two axes as a stack. -/
def ofBlock? (b : Block α) : Option (Stack α) :=
  match h : b.shape with
  | height :: width :: cell =>
    some ⟨height, width, cell, b.entries, by
      have fits := b.fits
      rw [h] at fits
      exact fits⟩
  | _ => none

/-- A stack as a block. -/
def toBlock (s : Stack α) : Block α := ⟨s.height :: s.width :: s.cell, s.entries, s.fits⟩

/-- The number of entries of a cell. -/
def cellSize (s : Stack α) : Nat := Block.volume s.cell

/-- The number of entries of a row. -/
def rowSize (s : Stack α) : Nat := s.width * s.cellSize

/-- The entries of a row without the part before column `c`. -/
def fromColumn (s : Stack α) (c : Nat) (row : List α) : List α := row.drop (c * s.cellSize)

/-- The entries of every row. -/
def rows (s : Stack α) : List (List α) := Block.pieces s.rowSize s.height s.entries

/-- The entries of a cell. -/
def cellAt (s : Stack α) (r c : Nat) : List α :=
  (s.fromColumn c (s.entries.drop (r * s.rowSize))).take s.cellSize

/-- The entries of a column from the objective row down. -/
def column (s : Stack α) (c : Nat) : List α :=
  s.rows.flatMap fun row => (s.fromColumn c row).take s.cellSize

/-- The entries of the objective row without its right-hand side. -/
def reducedCosts (s : Stack α) : List α := s.entries.take ((s.width - 1) * s.cellSize)

/-- Whether the stack has a right-hand side in the objective row. -/
def hasCorner (s : Stack α) : Bool := s.height ≠ 0 && s.width ≠ 0

/-- The tableau of a stack whose cells are single numbers. -/
def toTableau? (s : Stack α) : Option (Tableau α) :=
  if h : s.cellSize = 1 then
    some ⟨s.width, Block.pieces s.width s.height s.entries,
      Block.length_of_mem_pieces (by
        have fits := s.fits
        simp only [Block.volume] at fits
        rw [cellSize] at h
        rw [fits, h, Nat.mul_one])⟩
  else none

/-- The stack with other entries; it stays as it is when their number differs. -/
def withEntries (s : Stack α) (xs : List α) : Stack α :=
  if h : xs.length = Block.volume (s.height :: s.width :: s.cell) then
    { s with entries := xs, fits := h }
  else s

/-- The stack with the entries of one cell changed. -/
def withCell (s : Stack α) (r c : Nat) (ys : List α) : Stack α :=
  s.withEntries (s.entries.mapIdx fun i x =>
    if i / s.cellSize = r * s.width + c then ys.getD (i % s.cellSize) x else x)

variable [Scalar α]

/-- The stack with every cell of a row divided entry by entry by one of them. -/
def withDividedRow (s : Stack α) (r c : Nat) : Stack α :=
  let divisor := s.cellAt r c
  s.withEntries (s.entries.mapIdx fun i x =>
    if i / s.rowSize = r then
      match divisor[i % s.cellSize]? with
      | some p => x / p
      | none => x
    else x)

/-- The stack after a pivot in row `r` and column `c`, and whether it came to its end. A row
    counted from the end is not recognised as the pivot row by the elimination and is
    eliminated by itself; the elimination needs cells that are numbers. -/
def pivot (s : Stack α) (r c : Nat) (fromEnd : Bool) : Stack α × Except Fault Unit :=
  match s.toTableau? with
  | some t => (s.withEntries (if fromEnd then t.sweep r c else t.pivot r c).rows.flatten, .ok ())
  | none =>
    (s.withDividedRow r c, if s.height = 1 && !fromEnd then .ok () else .error .mismatch)

/-- The value of the variable of a column. A unit in a constraint row has no value where cells
    are no numbers. -/
def valueOf (tol : α) (s : Stack α) (column : List α) : Except Fault α :=
  match Tableau.unitRow? tol column with
  | some (i + 1) => .error (if i + 1 < s.height then .mismatch else .outOfRange)
  | _ => .ok 0

/-- The values of columns from `j` on, `count` of them. -/
def valuesFrom (tol : α) (s : Stack α) : Nat → Nat → Except Fault (List α)
  | _, 0 => .ok []
  | j, count + 1 => do
    if s.width ≤ j then throw .outOfRange
    let x ← s.valueOf tol (s.column j)
    return x :: (← valuesFrom tol s (j + 1) count)

/-- The values of the first `n` variables. -/
def values (s : Stack α) (n : Int) (tol : α) : Except Fault (List α) :=
  match s.toTableau? with
  | some t => t.values n tol
  | none => do
    if n < 0 then throw .negativeLength
    Block.checkRoom [n.toNat]
    valuesFrom tol s 0 n.toNat

end Stack

end ProductionLP
