import ProductionLP.Error
import ProductionLP.Scalar
import ProductionLP.Value.Convert
import ProductionLP.Value.Shown

/- Linear programs.

   A program asks for the greatest `c · x` subject to `A x ≤ b` and `x ≥ 0`. It is data: its
   declared sizes need not agree with its arrays, its arrays may have any shape, and its
   operators may be any symbols. What a solver may rely on is established by validation. -/
namespace ProductionLP

/-- The operator of a constraint. -/
inductive Relation where
  | atMost
  | atLeast
  | equal
  /-- A symbol that is none of the three. -/
  | other (symbol : Value)

namespace Relation

/-- The symbol of a known operator. -/
def symbol : Relation → Value
  | .atMost => .text "≤"
  | .atLeast => .text "≥"
  | .equal => .text "="
  | .other v => v

/-- The operator that has exactly this symbol. -/
def ofSymbol : Value → Relation
  | .text s =>
    if s = "≤" then .atMost
    else if s = "≥" then .atLeast
    else if s = "=" then .equal
    else .other (.text s)
  | v => .other v

/-- The operator that a trimmed text stands for; each has an ASCII spelling too. -/
def ofText? (s : String) : Option Relation :=
  if s = "≤" ∨ s = "<=" then some .atMost
  else if s = "≥" ∨ s = ">=" then some .atLeast
  else if s = "=" ∨ s = "==" then some .equal
  else none

/-- The operator that any value stands for, by the way it is shown. -/
def ofValue (v : Value) : Except Error Relation := do
  match ofText? (Text.trimString (← v.text?)) with
  | some r => return r
  | none => throw (.problem (.unknownOperator v.quoted))

end Relation

/-- Maximise `objective · x` subject to `coefficients x ≤ bounds`, `x ≥ 0`. -/
structure Program (α : Type) where
  n : Int
  m : Int
  objective : Block α
  coefficients : Block α
  bounds : Block α
  operators : List Relation

namespace Program

variable {α : Type}

/-- The rows of the matrix laid end to end must fill `rows.length` rows of `n` entries. -/
def matrixOfRows (rows : List (List Value)) (n : Int) : Except Fault (Block Float) := do
  let b ← (Value.list (rows.map .list)).toBlock
  if n < -Int.ofNat Block.lengthEnd then throw .longAxis
  Block.checkShape Block.numberOctets [rows.length, n.toNat]
  if h : 0 ≤ n ∧ b.entries.length = Block.volume [rows.length, n.toNat] then
    return ⟨[rows.length, n.toNat], b.entries, h.2⟩
  else throw (.unfilled b.size [rows.length, n])

/-- Fails at the first row that does not have `n` entries. -/
def checkRows (n : Int) : Nat → List (List Value) → Except ProblemError Unit
  | _, [] => .ok ()
  | i, row :: rest =>
    if (row.length : Int) = n then checkRows n (i + 1) rest
    else .error (.rowLength (i + 1) row.length n)

/-- A declared size, or the number of items when none is declared. -/
def sizeOr (declared : Value) (items : Value) : Except Fault Int :=
  match declared with
  | .null => do return (← items.count : Nat)
  | v => v.toInt

/-- A program from lists. Sizes come first, then the rows and their lengths, then the
    matrix, the objective, the bounds and the operators; missing operators are "at most". -/
def ofLists (objective coefficients bounds operators n m : Value) :
    Except Error (Program Float) := do
  let n ← sizeOr n objective
  let m ← sizeOr m coefficients
  let rows ← (← coefficients.items).mapM fun row => liftFault row.items
  liftProblem (checkRows n 0 rows)
  let matrix ← matrixOfRows rows n
  let objective ← objective.toVector
  let bounds ← bounds.toVector
  let operators ← match operators with
    | .null => pure (List.replicate rows.length Relation.atMost)
    | v => do (← v.items).mapM Relation.ofValue
  return ⟨n, m, objective, matrix, bounds, operators⟩

/-- The value under a key that must be there; only mappings have keys. -/
def required (key : String) (v : Value) : Except Error Value :=
  match v.entries? with
  | some entries =>
    match Value.lookup key entries with
    | some v => .ok v
    | none => .error (.problem (.missingField key))
  | none => .error (.fault .wrongKind)

/-- The constraints of a payload; whatever counts as absent is an empty mapping. -/
def constraintsOf (payload : Value) : Except Fault Value := do
  match ← payload.field? "constraints" with
  | some v => return if v.truthy then v else .map []
  | none => return .map []

/-- A program from a payload with the fields `objective` and `constraints`, and optionally
    `n` and `m`. -/
def ofPayload (payload : Value) : Except Error (Program Float) := do
  let constraints ← constraintsOf payload
  let objective ← required "objective" payload
  let coefficients ← required "coefficients" constraints
  let bounds ← required "bounds" constraints
  let operators := (← constraints.field? "operators").getD .null
  let n := (← payload.field? "n").getD .null
  let m := (← payload.field? "m").getD .null
  ofLists objective coefficients bounds operators n m

/-- The payload of a program. -/
def toPayload (p : Program Float) : Value :=
  .map [
    (.text "n", .int p.n),
    (.text "m", .int p.m),
    (.text "objective", .ofBlock p.objective),
    (.text "constraints", .map [
      (.text "coefficients", .ofBlock p.coefficients),
      (.text "bounds", .ofBlock p.bounds),
      (.text "operators", .list (p.operators.map Relation.symbol))])]

/-- Two products sharing two resources. -/
def sample : Program Float where
  n := 2
  m := 2
  objective := .vector [5.0, 3.0]
  coefficients := .matrix [[3.0, 2.0], [2.0, 1.0]] 2 (by simp)
  bounds := .vector [100.0, 80.0]
  operators := [.atMost, .atMost]

end Program

end ProductionLP
