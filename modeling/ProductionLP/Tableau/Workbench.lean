import ProductionLP.Report
import ProductionLP.Tableau.Stack

/- Workbenches.

   A workbench holds a live block of numbers that is looked at and changed step by step as a
   tableau, together with copies of it that were recorded on the way. Places may be counted
   from the end by negative numbers. A block that is no matrix can be held and recorded; with
   more than two axes it is looked at as a stack of tableaus, and with fewer every look at its
   rows and columns fails. -/
namespace ProductionLP

/-- A live block, the settings of the method, and the recorded copies. -/
structure Workbench where
  live : Block Float
  settings : Settings Float
  records : List (Int × Block Float)

namespace Workbench

/-- A place on an axis; negative places count from the end. -/
def place? (length : Nat) (i : Int) : Option Nat :=
  if 0 ≤ i then (if i < length then some i.toNat else none)
  else if -i ≤ length then some (length + i).toNat
  else none

/-- The live block as a tableau; only a matrix is one. -/
def tableau (w : Workbench) : Except Fault (Tableau Float) :=
  match Tableau.ofBlock? w.live with
  | some t => .ok t
  | none => .error .mismatch

/-- The live block as rows and columns of cells. -/
def stack (w : Workbench) : Except Fault (Stack Float) :=
  match Stack.ofBlock? w.live with
  | some s => .ok s
  | none => .error .outOfRange

/-- The numbers of variables and of constraints that the shape stands for. -/
def dimensions (w : Workbench) : Except Fault (Int × Int) := do
  let t ← w.tableau
  return (t.variableCount, t.constraintCount)

/-- The entering column. -/
def enter (w : Workbench) : Except Fault (Option Nat) := do
  let s ← w.stack
  return w.settings.rule.entering s.reducedCosts

/-- Whether the live block has no parts after the first along its first axis. -/
def hasNoConstraints (w : Workbench) : Bool :=
  match w.live.shape with
  | [] => false
  | count :: _ => count ≤ 1

/-- The leaving row for a column, ties decided by the given basis labels. -/
def leave (w : Workbench) (col : Int) (basis : List Int) : Except Error (Option Nat) :=
  if w.hasNoConstraints then .ok none
  else do
    let s ← w.stack
    match place? s.width col, s.toTableau? with
    | none, _ => throw (.ratio .noColumn)
    | some _, none => throw (.fault .mismatch)
    | some c, some t =>
      (w.settings.rule.leaving w.settings.pivotTol t c basis).mapError .ratio

/-- A cell of the live block. -/
def cell (w : Workbench) (row col : Int) : Except Fault (Stack Float × Nat × Nat) := do
  let s ← w.stack
  match place? s.height row, place? s.width col with
  | some r, some c => return (s, r, c)
  | _, _ => throw .outOfRange

/-- The workbench after a pivot, and whether the pivot came to its end. -/
def pivot (w : Workbench) (row col : Int) : Workbench × Except Fault Unit :=
  match w.cell row col with
  | .error e => (w, .error e)
  | .ok (s, r, c) =>
    let (s, done) := s.pivot r c (row < 0)
    ({ w with live := s.toBlock }, done)

/-- The entries that a value puts into a cell of a shape. A cell that is an entry of a matrix
    takes no sequence. -/
def cellEntries (shape : List Nat) (v : Value) : Except Fault (List Float) := do
  if shape.isEmpty then return [← v.toEntry]
  match (← v.toBlock).spreadTo shape with
  | some xs => return xs
  | none => throw .mismatch

/-- The workbench with a cell changed, and the number that the cell holds afterwards. A cell
    with several numbers is changed, but it holds no number. -/
def set (w : Workbench) (row col : Int) (v : Value) : Workbench × Except Fault Float :=
  let changed : Except Fault (Stack Float × List Float) := do
    let (s, r, c) ← w.cell row col
    let xs ← cellEntries s.cell v
    return (s.withCell r c xs, xs)
  match changed with
  | .error e => (w, .error e)
  | .ok (s, xs) => ({ w with live := s.toBlock }, Report.single xs)

/-- The workbench with a copy of the live block recorded. -/
def record (w : Workbench) (iteration : Int) : Workbench :=
  { w with records := w.records ++ [(iteration, w.live)] }

/-- The values of the first `n` variables. -/
def values (w : Workbench) (n : Int) (tol : Float) : Except Fault (List Float) :=
  if n < 0 then .error .negativeLength
  else if n = 0 then .ok []
  else do (← w.stack).values n tol

/-- The labels of the constraint rows. -/
def labels (w : Workbench) (tol : Float) : Except Fault (List String) := do
  return (← w.tableau).rowLabels tol

/-- The live block as a frame. -/
def frame (w : Workbench) (digits : Option Int) : Except Fault Frame := do
  Report.ofTableau (← w.tableau) digits

end Workbench

end ProductionLP
