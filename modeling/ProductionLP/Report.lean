import ProductionLP.Decimal.Round
import ProductionLP.Frame.Column
import ProductionLP.Program.Validate
import ProductionLP.Solution
import ProductionLP.Value.Convert
import ProductionLP.Value.Shown

/- Reports.

   What is shown of a run: tableaus with their labels, the plan, the objective after each
   pass, and how far each constraint is used up. -/
namespace ProductionLP

namespace Report

/-- The decimal places of shown numbers. -/
def places : Int := 3

/-- A number rounded for display; zero loses its sign. -/
def rounded (digits : Int) (x : Float) : Except Fault Float :=
  if !x.isFinite then .ok x
  else match Decimal.roundPlaces? x digits with
    | none => .error .roundedTooLarge
    | some y => .ok (if y == 0.0 then 0.0 else y)

/-- Integers that are taken for machine numbers. -/
def isMachineInt (i : Int) : Bool :=
  -Int.ofNat (Nat.pow 2 63) ≤ i && i < Int.ofNat (Nat.pow 2 64)

/-- A value rounded for display; only numbers and truth values can be. -/
def roundedValue (digits : Int) (v : Value) : Except Fault Float :=
  match v with
  | .bool b => rounded digits (if b then 1.0 else 0.0)
  | .num x => rounded digits x
  | .int i => if isMachineInt i then do rounded digits (← v.toFloat) else .error .wrongKind
  | _ => .error .wrongKind

/-- The tolerance of the labels of a shown tableau. -/
def labelTol : Float := 1e-10

/-- A number rounded as entries of a table are; without digits it is left as it is. -/
def roundedEntry (digits : Option Int) (x : Float) : Float :=
  match digits with
  | none => x
  | some d => Decimal.roundColumn d x

/-- Whether a machine word counts so many places. -/
def isPlaces (digits : Int) : Bool :=
  -Int.ofNat (Nat.pow 2 31) ≤ digits && digits < Int.ofNat (Nat.pow 2 31)

/-- A tableau with names of its columns and rows. A tableau with more rows than columns has
    no such names. -/
def ofTableau (t : Tableau Float) (digits : Option Int) : Except Fault Frame :=
  let columns := Tableau.columnNames t.variableCount t.constraintCount ++ ["RHS"]
  if columns.length = t.width then
    if digits.any (fun d => !isPlaces d) then .error .manyPlaces
    else .ok ⟨columns, .text "Z" :: (t.rowLabels labelTol).map .text,
      t.rows.map fun r => r.map fun x => .num (roundedEntry digits x)⟩
  else .error .mismatch

/-- One row of a plan per variable. -/
def planRows : Nat → List Float → Except Fault (List (List Cell))
  | _, [] => .ok []
  | j, x :: rest => do
    let y ← rounded places x
    return [.text ("x" ++ toString (j + 1)), .num y] :: (← planRows (j + 1) rest)

/-- The plan of a solution. -/
def plan (s : Solution Float) : Except Fault Frame := do
  return Frame.ofRows ["variable", "value"] (← planRows 0 s.values)

/-- One row per snapshot: its iteration and the value that its objective row holds. -/
def progressRows {α : Type} : List (Snapshot α) → Except Fault (List (Int × α))
  | [] => .ok []
  | s :: rest =>
    match s.tableau.corner? with
    | none => .error .outOfRange
    | some z => do return (s.iteration, z) :: (← progressRows rest)

/-- The objective at the start of each pass. -/
def progress (s : Solution Float) : Except Fault Frame := do
  let rows ← progressRows s.snapshots
  return Frame.ofRows ["iteration", "objective"] (rows.map fun r => [.int r.1, .num r.2])

/-- A part of a block as a number; a part with several numbers or none is no number. -/
def single : List Float → Except Fault Float
  | [x] => .ok x
  | _ => .error .wrongKind

/-- The number at a place of a block's first axis. -/
def numberAt (b : Block Float) (i : Nat) : Except Fault Float :=
  match b.parts? with
  | none => .error .outOfRange
  | some (parts, _) =>
    match parts[i]? with
    | none => .error .outOfRange
    | some part => single part

/-- The numbers along a block's first axis. -/
def numbers (b : Block Float) : Except Fault (List Float) :=
  match b.parts? with
  | none => .error .wrongKind
  | some (parts, _) => parts.mapM single

/-- The name of a constraint: counted when there are no labels, otherwise what the labels have
    in its place. -/
def labelAt (labels : Value) (i : Nat) : Except Fault Value := do
  match labels.face with
  | .null => return .text ("R" ++ toString (i + 1))
  | .set _ => throw .wrongKind
  | .map entries =>
    match entries.find? fun e => Value.sameKey e.1 (.int i) with
    | some e => return e.2
    | none => throw .unknownWord
  | labels =>
    match (← labels.items)[i]? with
    | some label => return label
    | none => throw .outOfRange

/-- How far a constraint is used up. -/
structure ConstraintUse where
  label : Value
  lhs : Float
  operator : Value
  rhs : Float

/-- What is left of the bound. -/
def ConstraintUse.slack (u : ConstraintUse) : Float := u.rhs - u.lhs

/-- A constraint counts as tight when its slack is this close to zero. -/
def tightness : Float := 1e-6

/-- The use of one constraint. -/
def constraintUse (p : Program Float) (usage : Block Float) (labels : Value) (i : Nat) :
    Except Fault ConstraintUse := do
  let rhs ← numberAt p.bounds i
  let lhs ← numberAt usage i
  let label ← labelAt labels i
  match p.operators[i]? with
  | none => throw .outOfRange
  | some r => return ⟨label, lhs, r.symbol, rhs⟩

/-- The use of `count` constraints from `i` on. -/
def constraintUses (p : Program Float) (usage : Block Float) (labels : Value) :
    (i count : Nat) → Except Fault (List ConstraintUse)
  | _, 0 => .ok []
  | i, count + 1 => do
    let use ← constraintUse p usage labels i
    return use :: (← constraintUses p usage labels (i + 1) count)

/-- The row of a constraint, with its name and operator as the columns have them. -/
def constraintRow (u : ConstraintUse) (label operator : Cell) : List Cell :=
  [label, .num u.lhs, operator, .num u.rhs, .num u.slack, .flag (u.slack.abs < tightness)]

/-- The columns of a report on constraints. -/
def constraintColumns : List String := ["constraint", "lhs", "operator", "rhs", "slack", "tight"]

/-- How far a vector uses up each constraint. A program without constraints has an empty
    report, columns included. -/
def constraints (p : Program Float) (values : Block Float) (labels : Value) :
    Except Fault Frame := do
  let uses ← constraintUses p (← p.usage values) labels 0 p.m.toNat
  if uses.isEmpty then return ⟨[], [], []⟩
  let names ← Frame.columnOf (uses.map (·.label))
  let operators ← Frame.columnOf (uses.map (·.operator))
  return Frame.ofRows constraintColumns
    (List.zipWith (fun u cells => constraintRow u cells.1 cells.2) uses (names.zip operators))

end Report

end ProductionLP
