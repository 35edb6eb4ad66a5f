import ProductionLP.Page.Event
import ProductionLP.Report

/- Results on the page.

   Below the editors the page shows how the last run ended: its status, the plan and the use of
   the resources unless the program is unbounded, the objective over the passes, and every
   tableau with a word on the step that follows it. -/
namespace ProductionLP.Page

/-- How the run ended. -/
def banner (s : Solution Float) : Event :=
  let count := toString s.pivots.length
  match s.status with
  | .optimal => .say .success ("Optimal solution found after " ++ count ++ " pivot(s).")
  | .unbounded =>
    .say .warning "The problem is unbounded: the objective can grow without limit."
  | .iterationLimit =>
    .say .error ("Stopped after " ++ count ++ " pivots without reaching optimality; "
      ++ "the values below come from a truncated search.")

/-- A number rounded for display, as a text. -/
def roundedText (x : Float) : Except Error String := do
  return Value.numText (← Report.rounded Report.places x)

/-- The objective as a text. -/
def objectiveText (s : Solution Float) : Except Error String :=
  let z := s.objective.toFloat
  if z.isInf then .ok "∞" else roundedText z

/-- The two figures at the top of the results. -/
def figures (s : Solution Float) : List Shown := [
  attempt do return [.metric "Z max" (.text (← objectiveText s))],
  shown [.metric "Tableaus recorded" (.int s.snapshots.length)]]

/-- The plan and the use of the resources. -/
def planEvents (p : Program Float) (s : Solution Float) : List Shown :=
  let labels := Value.list ((resourceLabels p.m).map .text)
  [shown [.say .markdown "**Decision variables**"],
    attempt do return [.table (← Report.plan s)],
    shown [.say .markdown "**Resource usage**"],
    attempt do return [.table (← Report.constraints p (.vector s.values) labels)]]

/-- The chart of the objective, if there is more than one pass to draw. -/
def progressEvents (s : Solution Float) : Shown :=
  attempt do
    let f ← Report.progress s
    return if 1 < f.rows.length then
      [.chart f "iteration:O|Iteration" "objective:Q|Objective value"] else []

/-- A word on what follows a tableau. -/
def caption (s : Solution Float) (labels : List String) (i : Nat) : Except Error String :=
  match s.pivots[i]? with
  | some step =>
    match labels[step.column.toNat]? with
    | none => .error (.fault .outOfRange)
    | some name => do
      return "entering " ++ name ++ ", leaving row " ++ toString step.row ++ ", pivot "
        ++ (← roundedText step.element)
  | none =>
    match s.status with
    | .optimal => .ok "optimality test passed"
    | .unbounded => .ok "no positive entry in the entering column"
    | .iterationLimit => .ok ""

/-- Decimal places of shown tableaus. -/
def tableauPlaces : Int := 3

/-- A tableau with its caption; the last one is unfolded. -/
def tableauEvents (s : Solution Float) (labels : List String) (i : Nat)
    (snapshot : Snapshot Float) : List Shown := [
  shown [.expander ("Step " ++ toString (i + 1)) (i + 1 == s.snapshots.length)],
  attempt do return [.table (← Report.ofTableau snapshot.tableau (some tableauPlaces))],
  attempt do
    let text ← caption s labels i
    return if text.isEmpty then [] else [.say .caption text]]

/-- The results of a run on a program. -/
def results (p : Program Float) (s : Solution Float) : Shown :=
  let labels := Tableau.columnNames p.n p.m
  inOrder (
    [shown [banner s]] ++ figures s
      ++ (if s.status = .unbounded then [] else planEvents p s)
      ++ [progressEvents s, shown [.say .subheader "Simplex iterations"]]
      ++ (s.snapshots.mapIdx (tableauEvents s labels)).flatten)

end ProductionLP.Page
