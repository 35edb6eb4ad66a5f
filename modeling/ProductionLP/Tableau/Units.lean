import ProductionLP.Block
import ProductionLP.Tableau.Basic

/- Unit columns.

   A column that holds a one in a single row and zeros elsewhere belongs to the variable that
   is basic in that row. Values and labels are read off a tableau by looking for such
   columns, up to a tolerance. -/
namespace ProductionLP.Tableau

open Scalar

variable {α : Type} [Scalar α]

/-- Within the tolerance of one. -/
def nearOne (tol x : α) : Bool := lt (abs (x - 1)) tol

/-- Within the tolerance of zero. -/
def nearZero (tol x : α) : Bool := lt (abs x) tol

/-- The row of a column's only one, when every entry is near one or near zero. -/
def unitRow? (tol : α) (column : List α) : Option Nat :=
  if column.countP (nearOne tol) = 1 ∧ column.all (fun x => nearOne tol x || nearZero tol x) then
    column.findIdx? (nearOne tol)
  else none

/-- The value of the variable of a column: the right-hand side of its unit row, zero when it
    has none or when that is the objective row. -/
def valueOf (tol : α) (t : Tableau α) (column : List α) : α :=
  match unitRow? tol column with
  | some (i + 1) => (t.rhs? (i + 1)).getD 0
  | _ => 0

/-- The values of columns from `j` on, `count` of them. -/
def valuesFrom (tol : α) (t : Tableau α) : Nat → Nat → Except Fault (List α)
  | _, 0 => .ok []
  | j, count + 1 =>
    match t.column? j with
    | none => .error .outOfRange
    | some column => do return valueOf tol t column :: (← valuesFrom tol t (j + 1) count)

/-- The values of the first `n` variables. -/
def values (t : Tableau α) (n : Int) (tol : α) : Except Fault (List α) := do
  if n < 0 then throw .negativeLength
  Block.checkRoom [n.toNat]
  valuesFrom tol t 0 n.toNat

/-- A column is a unit column of a row: not as far as the tolerance from one there, and near
    zero elsewhere. -/
def isUnitAt (tol : α) (row : Nat) (column : List α) : Bool :=
  match column[row]? with
  | none => false
  | some x => !le tol (abs (x - 1)) && (column.eraseIdx row).all (nearZero tol)

/-- The names of `n` decision variables. -/
def variableNames (n : Int) : List String :=
  (List.range n.toNat).map fun j => "x" ++ toString (j + 1)

/-- The names of `m` slack variables. -/
def slackNames (m : Int) : List String :=
  (List.range m.toNat).map fun i => "s" ++ toString (i + 1)

/-- The names of decision and slack variables. -/
def columnNames (n m : Int) : List String := variableNames n ++ slackNames m

/-- The columns without the right-hand side. -/
def variableColumns (t : Tableau α) : List (List α) :=
  (List.range (t.width - 1)).filterMap t.column?

/-- The name of the first unit column of a row, or the name of the row. -/
def rowLabel (tol : α) (t : Tableau α) (names : List String) (row : Nat) : String :=
  match (t.variableColumns.zip names).find? (fun c => isUnitAt tol row c.1) with
  | some (_, name) => name
  | none => "R" ++ toString row

/-- The labels of the constraint rows. -/
def rowLabels (t : Tableau α) (tol : α) : List String :=
  let names := columnNames t.variableCount t.constraintCount
  (List.range (t.height - 1)).map fun i => rowLabel tol t names (i + 1)

end ProductionLP.Tableau
