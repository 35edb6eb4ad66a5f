import ProductionLP.Solver.Run
import ProductionLP.Tableau.Stack

/- Solutions.

   A solution is read off the last tableau of a run: the values of the decision variables
   from its unit columns, the objective from its corner. An unbounded program has no best
   plan, so its values are zeros and its objective is without limit. -/
namespace ProductionLP

/-- The best value of an objective. -/
inductive Objective (α : Type) where
  | value (z : α)
  | unlimited
  deriving Repr, DecidableEq

/-- The objective as a double: without limit is infinite. -/
def Objective.toFloat : Objective Float → Float
  | .value z => z
  | .unlimited => 1.0 / 0.0

/-- The outcome of a run. -/
structure Solution (α : Type) where
  status : Status
  values : List α
  objective : Objective α
  snapshots : List (Snapshot α)
  pivots : List (PivotStep α)

namespace Solution

variable {α : Type} [Scalar α]

/-- Whether the plan is the best one. -/
def isOptimal (s : Solution α) : Bool := s.status = .optimal

/-- Reads a solution with `n` decision variables off a tableau. -/
def extract (t : Tableau α) (n : Int) (status : Status) (snapshots : List (Snapshot α))
    (pivots : List (PivotStep α)) (tol : α) : Except Fault (Solution α) :=
  match status with
  | .unbounded => do
    if n < 0 then throw .negativeLength
    Block.checkRoom [n.toNat]
    return ⟨status, List.replicate n.toNat 0, .unlimited, snapshots, pivots⟩
  | _ => do
    let values ← t.values n tol
    match t.corner? with
    | none => throw .outOfRange
    | some z => return ⟨status, values, .value z, snapshots, pivots⟩

/-- Reads a solution off a block. One with fewer than two axes is read as a tableau without
    columns. A stack whose cells are no numbers has no objective, but an unbounded program has
    the same solution whatever the block is. -/
def ofBlock (b : Block α) (n : Int) (status : Status) (snapshots : List (Snapshot α))
    (pivots : List (PivotStep α)) (tol : α) : Except Fault (Solution α) :=
  match Stack.ofBlock? b with
  | none => extract .empty n status snapshots pivots tol
  | some s =>
    match s.toTableau? with
    | some t => extract t n status snapshots pivots tol
    | none =>
      if status = .unbounded then extract .empty n status snapshots pivots tol
      else do
        let _ ← s.values n tol
        throw (if s.hasCorner then .wrongKind else .outOfRange)

/-- Reads the solution off a trace. -/
def ofTrace (s : Settings α) (n : Int) (t : Trace α) : Except Error (Solution α) :=
  match t.ending with
  | .error cause => .error (.ratio cause)
  | .ok status => liftFault (extract t.tableau n status t.snapshots t.pivots s.basicTol)

end Solution

/-- Solves a program. -/
def solve {α : Type} [Scalar α] (s : Settings α) (p : Program α) : Except Error (Solution α) := do
  Solution.ofTrace s p.n (← trace s p)

end ProductionLP
