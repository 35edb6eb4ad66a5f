import ProductionLP.Program.Validate
import ProductionLP.Solver.Settings
import ProductionLP.Tableau.Build
import ProductionLP.Tableau.Pivot
import ProductionLP.Tableau.Units

/- Runs of the tableau method.

   A run records every tableau it looks at, stops when no column enters or no row leaves, and
   is cut off after a number of pivots. The tableau after the last pivot of a run that is cut
   off is not looked at any more and so not recorded. -/
namespace ProductionLP

/-- How a run ends. -/
inductive Status where
  | optimal
  | unbounded
  | iterationLimit
  deriving Repr, DecidableEq

/-- The name of a status. -/
def Status.name : Status → String
  | .optimal => "optimal"
  | .unbounded => "unbounded"
  | .iterationLimit => "iteration-limit"

/-- The status with a name. -/
def Status.ofName (s : String) : Except Fault Status :=
  if s = "optimal" then .ok .optimal
  else if s = "unbounded" then .ok .unbounded
  else if s = "iteration-limit" then .ok .iterationLimit
  else .error (.unknownStatus s)

/-- A tableau as it stood at the start of a pass. -/
structure Snapshot (α : Type) where
  iteration : Int
  tableau : Tableau α

/-- A pivot: the pass, the entering column, the leaving row, and the entry there. -/
structure PivotStep (α : Type) where
  iteration : Int
  column : Int
  row : Int
  element : α
  deriving Repr

/-- What a run leaves behind: all snapshots and pivots, the last tableau with the columns
    that are basic in its constraint rows, and how the run ended. -/
structure Trace (α : Type) where
  snapshots : List (Snapshot α)
  pivots : List (PivotStep α)
  tableau : Tableau α
  basis : List Nat
  ending : Except RatioError Status

namespace Trace

variable {α : Type}

/-- A trace of a single look at a tableau, which ends the run. -/
def stop (iteration : Nat) (t : Tableau α) (basis : List Nat) (ending : Except RatioError Status) :
    Trace α :=
  ⟨[⟨iteration, t⟩], [], t, basis, ending⟩

/-- A trace with a look at a tableau and a pivot before it. -/
def cons (snapshot : Snapshot α) (step : PivotStep α) (rest : Trace α) : Trace α :=
  { rest with snapshots := snapshot :: rest.snapshots, pivots := step :: rest.pivots }

end Trace

variable {α : Type} [Scalar α]

/-- Runs the method for at most `remaining` more pivots. -/
def run (rule : PivotRule) (tol : α) :
    (remaining iteration : Nat) → Tableau α → (basis : List Nat) → Trace α
  | 0, _, t, basis => ⟨[], [], t, basis, .ok .iterationLimit⟩
  | remaining + 1, iteration, t, basis =>
    match rule.entering t.reducedCosts with
    | none => Trace.stop iteration t basis (.ok .optimal)
    | some col =>
      match rule.leaving tol t col basis with
      | .error cause => Trace.stop iteration t basis (.error cause)
      | .ok none => Trace.stop iteration t basis (.ok .unbounded)
      | .ok (some row) =>
        Trace.cons ⟨iteration, t⟩ ⟨iteration, col, row, t.entry row col⟩
          (run rule tol remaining (iteration + 1) (t.pivot row col) (basis.set (row - 1) col))

/-- The basis of the slack variables. -/
def slackBasis (n m : Nat) : List Nat := (List.range m).map (n + ·)

/-- The run on a program: the program is validated, and the run starts from its first
    tableau with the slack variables basic. -/
def trace (s : Settings α) (p : Program α) : Except Error (Trace α) := do
  liftProblem p.validate
  let t ← Tableau.ofProgram p
  return run s.rule s.pivotTol s.maxIterations 0 t (slackBasis p.n.toNat p.m.toNat)

end ProductionLP
