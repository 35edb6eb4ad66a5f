import ProductionLP.Solution

/- Charts.

   A run is drawn as two charts over its passes: the objective, and the value of every
   decision variable. A run without snapshots has no charts. -/
namespace ProductionLP

/-- A named line through points. -/
structure Series where
  name : String
  xs : List Float
  ys : List Float

/-- A chart with its axis names, its title if it has one, and the file it is saved as. -/
structure Chart where
  series : List Series
  xName : String
  yName : String
  title : Option String
  file : String

namespace Chart

/-- The value in the objective row of a snapshot. -/
def cornerOf (s : Snapshot Float) : Except Fault Float :=
  match s.tableau.corner? with
  | some z => .ok z
  | none => .error .outOfRange

/-- The tolerance of the values that are drawn. -/
def valueTol : Float := 1e-10

/-- The line of one decision variable. -/
def variableSeries (passes : List Float) (values : List (List Float)) (j : Nat) : Series :=
  ⟨"x" ++ toString (j + 1), passes, values.filterMap (·[j]?)⟩

/-- The passes that a chart is drawn over. -/
def passesOf (s : Solution Float) : Except Fault (List Float) :=
  s.snapshots.mapM fun shot => Value.floatOfInt shot.iteration

/-- The charts of a solution. -/
def ofSolution (s : Solution Float) : Except Fault (List Chart) :=
  match s.snapshots with
  | [] => .ok []
  | first :: _ => do
    let passes ← passesOf s
    let objective ← s.snapshots.mapM cornerOf
    let n := first.tableau.variableCount
    let values ← s.snapshots.mapM fun shot => shot.tableau.values n valueTol
    return [
      ⟨[⟨"Z", passes, objective⟩], "iteration", "objective value",
        some ("status: " ++ s.status.name), "objective.png"⟩,
      ⟨(List.range n.toNat).map (variableSeries passes values), "iteration", "decision value",
        none, "decisions.png"⟩]

/-- Whether a block has a right-hand side in its objective row. -/
def hasCorner (b : Block Float) : Bool := ((Stack.ofBlock? b).map Stack.hasCorner).getD false

/-- The charts of a solution whose snapshots are given as blocks. Each must have a corner, and
    each must be a matrix. -/
def ofBlocks (s : Solution Float) (blocks : List (Block Float)) : Except Fault (List Chart) := do
  let _ ← passesOf s
  if !blocks.all hasCorner then throw .outOfRange
  if blocks.any fun b => b.rank ≠ 2 then throw .mismatch
  ofSolution s

end Chart

end ProductionLP
