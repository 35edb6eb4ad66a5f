import ProductionLP.Block.Product
import ProductionLP.Program.Basic

/- Validation.

   A program is fit to be solved when its sizes are in range, its arrays have the shapes
   that the sizes announce, its numbers are finite, its bounds are not negative and all of
   its constraints are "at most". The first rule that fails, in this order, is the one that
   is reported. An operator that is none at all is named in the report, which takes a quoted
   form of it: `quote` has it, or why there is none.

   A vector is fit for a program when it satisfies all constraints. -/
namespace ProductionLP.Program

open Scalar

variable {α : Type} [Scalar α]

/-- A size that the method is meant for. -/
def sizeAllowed (k : Int) : Bool := minDimension ≤ k && k ≤ maxDimension

/-- A part has exactly the shape that the sizes announce. -/
def checkShape (part : Part) (b : Block α) (expected : List Int) : Except ProblemError Unit :=
  if b.shape.map Int.ofNat = expected then .ok ()
  else .error (.wrongShape part (b.shape.map Int.ofNat) expected)

/-- All numbers of a part are finite. -/
def checkFinite (part : Part) (b : Block α) : Except ProblemError Unit :=
  if b.entries.all finite then .ok () else .error (.nonFinite part)

/-- The places of the negative numbers of a list, counted from `i`. -/
def negativePlaces (i : Nat) : List α → List Nat
  | [] => []
  | b :: rest => if lt b 0 then i :: negativePlaces (i + 1) rest else negativePlaces (i + 1) rest

/-- No bound is negative. -/
def checkBounds (bounds : List α) : Except ProblemError Unit :=
  match negativePlaces 1 bounds with
  | [] => .ok ()
  | rows => .error (.negativeBounds rows)

/-- All operators are "at most"; the first that is not is reported, counted from `i`. -/
def checkOperators (quote : Value → Except Fault String) (i : Nat) :
    List Relation → Except ProblemError Unit
  | [] => .ok ()
  | .atMost :: rest => checkOperators quote (i + 1) rest
  | .atLeast :: _ => .error (.unsupported i "≥")
  | .equal :: _ => .error (.unsupported i "=")
  | .other symbol :: _ =>
    match quote symbol with
    | .ok quoted => .error (.unknownOperator quoted)
    | .error obstacle => .error (.unshownOperator obstacle)

/-- Establishes what a solver relies on. -/
def validate (p : Program α) (quote : Value → Except Fault String := Value.quote?) :
    Except ProblemError Unit := do
  if !sizeAllowed p.n then throw (.variableCount p.n)
  if !sizeAllowed p.m then throw (.constraintCount p.m)
  checkShape .objective p.objective [p.n]
  checkShape .coefficients p.coefficients [p.m, p.n]
  checkShape .bounds p.bounds [p.m]
  if (p.operators.length : Int) ≠ p.m then throw (.operatorCount p.operators.length p.m)
  checkFinite .objective p.objective
  checkFinite .coefficients p.coefficients
  checkFinite .bounds p.bounds
  checkBounds p.bounds.entries
  checkOperators quote 1 p.operators

/-! Vectors that satisfy the constraints. -/

/-- The left-hand sides of the constraints. -/
def usage (p : Program α) (x : Block α) : Except Fault (Block α) := p.coefficients.times x

/-- All comparisons of a block with another, single entries and axes of length one repeated. -/
def allPairs (r : α → α → Bool) (a b : Block α) : Except Fault Bool :=
  match Block.commonShape a.shape b.shape with
  | none => .error .mismatch
  | some shape =>
    match a.spreadTo shape, b.spreadTo shape with
    | some xs, some ys => .ok ((List.zipWith r xs ys).all id)
    | _, _ => .error .mismatch

/-- Whether a vector has the right length, no entry below `-tol` and no left-hand side more
    than `tol` above its bound. -/
def feasible (p : Program α) (x : Block α) (tol : α) : Except Fault Bool :=
  if x.shape.map Int.ofNat ≠ [p.n] then .ok false
  else if x.entries.any (lt · (-tol)) then .ok false
  else do allPairs le (← p.usage x) (p.bounds.map (· + tol))

end ProductionLP.Program
