import ProductionLP.Record.Basic
import ProductionLP.Solution

/- Trace and solution files.

   A trace file holds one record per line. A value without a record ends the writing; the lines
   before it stay. A solution file holds one record with one item per line. -/
namespace ProductionLP.Record

/-- A line of a trace file with its end. -/
def closedLine (reading : Reading) (v : Value) : Except Error (List Char) := do
  return (← reading.record v).line ++ ['\n']

/-- The text that a trace file holds after the records of some values have been written, and why
    the writing ended early if it did. -/
def history (vs : List Value) (reading : Reading := .usual) : List Char × Option Error :=
  match vs with
  | [] => ([], none)
  | v :: rest =>
    match closedLine reading v with
    | .error e => ([], some e)
    | .ok written =>
      let r := history rest reading
      (written ++ r.1, r.2)

/-- The record of a snapshot. -/
def ofSnapshot (s : Snapshot Float) : Value :=
  .map [(.text "iteration", .int s.iteration), (.text "tableau", .block s.tableau.toBlock)]

/-- A named part of a record. -/
def field (name : String) (r : Record) : List Text.CodePoint × Record := (Text.codePoints name, r)

/-- The record of a pivot. -/
def ofStep (s : PivotStep Float) : Record :=
  .object [field "iteration" (.int s.iteration), field "entering_column" (.int s.column),
    field "leaving_row" (.int s.row), field "pivot_element" (.num s.element)]

/-- The record of a solution. -/
def ofSolution (s : Solution Float) : Record :=
  .object [field "status" (.text (Text.codePoints s.status.name)),
    field "values" (.list (s.values.map .num)), field "objective" (.num s.objective.toFloat),
    field "iterations" (.int s.snapshots.length), field "pivots" (.list (s.pivots.map ofStep))]

/-- The text of a solution file. -/
def solutionText (s : Solution Float) : List Char := (ofSolution s).indented 0

end ProductionLP.Record
