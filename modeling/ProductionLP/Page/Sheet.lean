import ProductionLP.Program.Basic
import ProductionLP.Tableau.Units

/- Sheets.

   The page shows a program in two sheets that the user may edit: one with the objective, one
   with a row for each constraint. Cells hold any values. Reading a program back from its
   unedited sheets gives the same program. -/
namespace ProductionLP.Page

/-- A table whose cells can be edited. -/
structure Sheet where
  columns : List String
  index : List String
  rows : List (List Value)

/-- The names of the resources. -/
def resourceNames : List String :=
  ["Machine (hours)", "Material (kg)", "Labour (h)", "Storage (m³)", "Budget (€)"]

/-- The name of a resource; those without a name of their own are counted. -/
def resourceName (i : Nat) : String := (resourceNames[i]?).getD ("Resource " ++ toString (i + 1))

/-- The names of the first resources. -/
def resourceLabels (m : Int) : List String := (List.range m.toNat).map resourceName

/-- The names of the decision variables. -/
def variableNames (n : Int) : List String := Tableau.columnNames n 0

/-- The columns behind those of the variables. -/
def operatorColumn : String := "operator"
def boundColumn : String := "bound"

/-- The sheet of the objective. -/
def objectiveSheet (p : Program Float) : Sheet :=
  ⟨variableNames p.n, ["profit per unit"], [p.objective.entries.map .num]⟩

/-- The rows of the coefficients. -/
def coefficientRows (p : Program Float) : List (List Float) := p.coefficients.toRows?.getD []

/-- The row of a constraint. -/
def sheetRow (coefficients : List Float) (r : Relation) (bound : Float) : List Value :=
  coefficients.map .num ++ [r.symbol, .num bound]

/-- The rows of constraints side by side. -/
def sheetRows : List (List Float) → List Relation → List Float → List (List Value)
  | cs :: css, r :: rs, b :: bs => sheetRow cs r b :: sheetRows css rs bs
  | _, _, _ => []

/-- The sheet of the constraints. -/
def constraintSheet (p : Program Float) : Sheet :=
  ⟨variableNames p.n ++ [operatorColumn, boundColumn], resourceLabels p.m,
    sheetRows (coefficientRows p) p.operators p.bounds.entries⟩

/-! Editing. -/

/-- A cell set to a value. -/
structure Edit where
  row : Int
  column : String
  value : Value

/-- The sheet after an edit; the cell must be there. -/
def Sheet.edit (s : Sheet) (e : Edit) : Except Fault Sheet :=
  match s.columns.findIdx? (· == e.column) with
  | none => .error .outOfRange
  | some j =>
    if 0 ≤ e.row ∧ e.row.toNat < s.rows.length then
      .ok { s with rows := s.rows.modify e.row.toNat fun r => r.set j e.value }
    else .error .outOfRange

/-- The sheet after edits one after the other. -/
def Sheet.edits (s : Sheet) (es : List Edit) : Except Fault Sheet := es.foldlM Sheet.edit s

/-! Reading. -/

/-- The cells of a column. -/
def Sheet.column (s : Sheet) (name : String) : Except Fault (List Value) :=
  match s.columns.findIdx? (· == name) with
  | none => .error .outOfRange
  | some j => .ok (s.rows.filterMap (·[j]?))

/-- The cells of a column as numbers; an empty cell is the undefined number. -/
def Sheet.numbers (s : Sheet) (name : String) : Except Fault (List Value) := do
  (← s.column name).mapM fun v => do return .num (← v.toEntry)

/-- Columns of equal height as rows. -/
def rowsOfColumns (height : Nat) (columns : List (List Value)) : List (List Value) :=
  (List.range height).map fun i => columns.filterMap (·[i]?)

/-- The program that two sheets hold, with the sizes that they are shown for. -/
def readProgram (n m : Int) (objective constraints : Sheet) : Except Error (Program Float) := do
  let names := variableNames n
  let profits ← names.mapM fun c => liftFault (objective.numbers c)
  let columns ← names.mapM fun c => liftFault (constraints.numbers c)
  let bounds ← constraints.numbers boundColumn
  let operators := (← constraints.column operatorColumn).map fun v => Value.text v.shown
  Program.ofLists (.list (profits.filterMap List.head?))
    (.list ((rowsOfColumns constraints.rows.length columns).map .list))
    (.list bounds) (.list operators) (.int n) (.int m)

end ProductionLP.Page
