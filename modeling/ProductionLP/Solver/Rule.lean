import ProductionLP.Error
import ProductionLP.Tableau.Basic

/- Pivot rules.

   A pivot rule chooses the column that enters the basis and, among the rows of smallest
   ratio, the row that leaves it. The greatest-decrease rule takes the most negative reduced
   cost and the first row; the least-index rule takes the first negative reduced cost and the
   row whose basic variable has the smallest label, which rules out cycling. -/
namespace ProductionLP

/-- How entering columns and leaving rows are chosen. -/
inductive PivotRule where
  | dantzig
  | bland
  deriving Repr, DecidableEq

/-- The name of a rule. -/
def PivotRule.name : PivotRule → String
  | .dantzig => "dantzig"
  | .bland => "bland"

/-- The rule with a name. -/
def PivotRule.ofName? (s : String) : Option PivotRule :=
  if s = "dantzig" then some .dantzig else if s = "bland" then some .bland else none

namespace PivotRule

open Scalar

variable {α : Type} [Scalar α]

/-- The place and value of the first smallest entry, given the best so far and the place of
    the next entry. -/
def smallestFrom (best : Nat × α) : Nat → List α → Nat × α
  | _, [] => best
  | i, x :: rest => smallestFrom (if lt x best.2 then (i, x) else best) (i + 1) rest

/-- The place of the first smallest entry; an undefined entry comes before all others. -/
def smallest? (xs : List α) : Option Nat :=
  match xs.findIdx? undefined with
  | some i => some i
  | none =>
    match xs with
    | [] => none
    | x :: rest => some (smallestFrom (0, x) 1 rest).1

/-- The entering column for given reduced costs; none when no reduced cost is negative. -/
def entering (rule : PivotRule) (reduced : List α) : Option Nat :=
  match reduced.findIdx? (lt · 0) with
  | none => none
  | some first =>
    match rule with
    | .bland => some first
    | .dantzig => smallest? reduced

variable {β : Type} [LT β] [DecidableLT β]

/-- Whether a row that ties with the best row replaces it. Only the least-index rule looks at
    the basis, the tied row's label first. -/
def breaksTie (rule : PivotRule) (basis : List β) (row : Nat) (best : Option Nat) :
    Except RatioError Bool :=
  match rule with
  | .dantzig => .ok false
  | .bland =>
    match basis[row - 1]?, best with
    | none, _ => .error .shortBasis
    | some _, none => .error .tieWithNoRow
    | some label, some b =>
      match basis[b - 1]? with
      | none => .error .shortBasis
      | some other => .ok (decide (label < other))

/-- A ratio is smaller than the best so far; before the first it has to be below the number
    above all others. -/
def isSmaller (ratio : α) : Option (Nat × α) → Bool
  | none => belowTop ratio
  | some best => lt ratio best.2

/-- A ratio ties with the best so far; before the first it ties when it is the number above
    all others. -/
def isTied (ratio : α) : Option (Nat × α) → Bool
  | none => isTop ratio
  | some best => eq ratio best.2

/-- The ratio test over the constraint rows from `row` on. Rows whose entry is at most the
    tolerance do not take part. -/
def leavingFrom (rule : PivotRule) (tol : α) (col : Nat) (basis : List β)
    (best : Option (Nat × α)) : Nat → List (List α) → Except RatioError (Option Nat)
  | _, [] => .ok (best.map Prod.fst)
  | row, entries :: rest =>
    match entries[col]?, entries.getLast? with
    | some coeff, some rhs =>
      if le coeff tol then leavingFrom rule tol col basis best (row + 1) rest
      else
        let ratio := rhs / coeff
        if isSmaller ratio best then
          leavingFrom rule tol col basis (some (row, ratio)) (row + 1) rest
        else if isTied ratio best then
          match breaksTie rule basis row (best.map Prod.fst) with
          | .error e => .error e
          | .ok true =>
            leavingFrom rule tol col basis (best.map fun b => (row, b.2)) (row + 1) rest
          | .ok false => leavingFrom rule tol col basis best (row + 1) rest
        else leavingFrom rule tol col basis best (row + 1) rest
    | _, _ => .error .noColumn

/-- The leaving row of a tableau for an entering column; none when no entry of the column is
    above the tolerance. -/
def leaving (rule : PivotRule) (tol : α) (t : Tableau α) (col : Nat) (basis : List β) :
    Except RatioError (Option Nat) :=
  leavingFrom rule tol col basis none 1 t.constraintRows

end PivotRule

end ProductionLP
