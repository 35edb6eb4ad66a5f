import ProductionLP.Decimal.Round
import ProductionLP.Solution

/- The reference solver.

   A second way to solve a program, used to check the first. A solution agrees with a reference
   when both have the same status and, unless they are unbounded, nearly the same objective.
   Plans are not compared, because there may be several best ones.

   Any solver can be the reference. The one at hand is the method of least indices on the exact
   values of the numbers, which always ends. -/
namespace ProductionLP

/-- What a reference solver reports. -/
structure Reference (α : Type) where
  status : String
  objective : Objective α

/-- A reference solver: what it reports of a program, or why it fails. -/
abbrev Reference.Solver : Type := Program Float → Except String (Reference Float)

namespace Reference

open Scalar

variable {α : Type} [Scalar α]

/-- Two numbers are close: equal, or no further apart than the absolute tolerance plus the
    relative tolerance of the second, which has to be finite. -/
def isClose (rtol atol a b : α) : Bool :=
  (le (abs (a - b)) (atol + rtol * abs b) && finite b) || eq a b

/-- Two objectives are close. -/
def closeObjectives (rtol atol : α) : Objective α → Objective α → Bool
  | .value a, .value b => isClose rtol atol a b
  | .unlimited, .unlimited => true
  | .unlimited, .value b => isTop b
  | .value a, .unlimited => isTop a

/-- Whether a solution's status and objective match the reference. -/
def agrees (rtol atol : α) (status : Status) (objective : Objective α) (r : Reference α) : Bool :=
  if status = .iterationLimit then false
  else if status.name ≠ r.status then false
  else if r.status = Status.unbounded.name then true
  else closeObjectives rtol atol objective r.objective

/-- The relative tolerance of the check on doubles. -/
def relativeTol : Float := 1e-5

/-- The absolute tolerance of the check when none is given. -/
def absoluteTol : Float := 1e-6

/-- Whether a solution in doubles matches the reference. -/
def confirms (r : Reference Float) (atol : Float) (s : Solution Float) : Bool :=
  agrees relativeTol atol s.status s.objective r

/-- The magnitude from which on a coefficient is refused. -/
def refused : Float := 1e15

/-- A program in exact numbers. -/
def exact (p : Program Float) : Program Rat :=
  ⟨p.n, p.m, p.objective.map Decimal.toRat, p.coefficients.map Decimal.toRat,
    p.bounds.map Decimal.toRat, p.operators⟩

/-- More pivots than a program with at most ten variables and ten constraints has bases. -/
def enough : Nat := 200000

/-- The settings of the exact method. -/
def exactSettings : Settings Rat := ⟨enough, .bland, 0, 1⟩

/-- The reference of a program. -/
def ofProgram (p : Program Float) : Except Error (Reference Float) := do
  liftProblem p.validate
  if p.coefficients.entries.any (fun a => le refused (abs a)) then throw .reference
  let t ← trace exactSettings (exact p)
  match t.ending, t.tableau.corner? with
  | .ok .unbounded, _ => return ⟨Status.unbounded.name, .unlimited⟩
  | .ok .optimal, some z => return ⟨Status.optimal.name, .value (Decimal.ofRat z)⟩
  | _, _ => throw .reference

/-- The solver at hand. -/
def atHand : Solver := fun p => (ofProgram p).mapError Error.message

end Reference

end ProductionLP
