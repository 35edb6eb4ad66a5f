import ProductionLP.Block
import ProductionLP.Fault
import ProductionLP.Scalar

/- Tableaus.

   A tableau is a matrix whose row 0 is the objective row and whose last column is the
   right-hand side. With `m` constraint rows its columns are `n` decision variables, `m`
   slack variables and the right-hand side. -/
namespace ProductionLP

/-- Rows of one width. -/
structure Tableau (α : Type) where
  width : Nat
  rows : List (List α)
  even : ∀ r ∈ rows, r.length = width

namespace Tableau

variable {α : Type}

/-- The number of rows. -/
def height (t : Tableau α) : Nat := t.rows.length

/-- The number of constraint rows. -/
def constraintCount (t : Tableau α) : Int := (t.height : Int) - 1

/-- The number of decision variables. -/
def variableCount (t : Tableau α) : Int := (t.width : Int) - t.constraintCount - 1

/-- The objective row. -/
def objectiveRow (t : Tableau α) : List α := t.rows.headD []

/-- The objective row without its right-hand side. -/
def reducedCosts (t : Tableau α) : List α := t.objectiveRow.dropLast

/-- The constraint rows. -/
def constraintRows (t : Tableau α) : List (List α) := t.rows.tail

/-- The entry in a row and a column. -/
def entry? (t : Tableau α) (i j : Nat) : Option α := t.rows[i]? >>= (·[j]?)

/-- The entry in a row and a column, zero outside the tableau. -/
def entry [Zero α] (t : Tableau α) (i j : Nat) : α := (t.entry? i j).getD 0

/-- A column from the objective row down. -/
def column? (t : Tableau α) (j : Nat) : Option (List α) :=
  if j < t.width then some (t.rows.filterMap (·[j]?)) else none

/-- The value that the right-hand side of the objective row holds. -/
def corner? (t : Tableau α) : Option α := t.objectiveRow.getLast?

/-- The right-hand side of a row. -/
def rhs? (t : Tableau α) (i : Nat) : Option α := t.rows[i]? >>= List.getLast?

/-- A block that is a matrix, as a tableau. -/
def ofBlock? (b : Block α) : Option (Tableau α) :=
  match h : b.shape with
  | [count, width] => some ⟨width, Block.pieces width count b.entries, by
      have fits := b.fits
      rw [h] at fits
      exact Block.length_of_mem_pieces (by simp [Block.volume] at fits; omega)⟩
  | _ => none

/-- A tableau with no rows and no columns. -/
def empty : Tableau α := ⟨0, [], by simp⟩

/-- A block as a tableau, which is empty when the block is no matrix: neither has a column or
    a corner. -/
def orEmpty (b : Block α) : Tableau α := (ofBlock? b).getD empty

/-- A tableau as a block. -/
def toBlock (t : Tableau α) : Block α := .matrix t.rows t.width t.even

end Tableau

end ProductionLP
