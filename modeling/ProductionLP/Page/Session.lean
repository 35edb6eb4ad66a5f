import ProductionLP.Page.Results
import ProductionLP.Program.Resize

/- Sessions of the page.

   A session keeps the program that is edited, the last solution with the program that it
   solves, and the chosen pivot rule. Every visit to the page starts from the session and the
   state of the widgets, shows the page and leaves the next session. Changing the sizes drops
   the solution; solving replaces the program by what the sheets hold. -/
namespace ProductionLP.Page

/-- What is kept between visits. -/
structure Session where
  program : Program Float
  solution : Option (Solution Float)
  solved : Option (Program Float)
  rule : Value

/-- What the user does on a visit; a widget that is left alone keeps what it shows. -/
structure Widgets where
  n : Option Value
  m : Option Value
  rule : Option Value
  reset : Bool
  solve : Bool
  objective : List Edit
  constraints : List Edit

/-- A visit on which nothing is done. -/
def Widgets.untouched : Widgets := ⟨none, none, none, false, false, [], []⟩

namespace Session

/-- The names of the pivot rules to choose from; the first is chosen at the beginning. -/
def ruleNames : List String := [PivotRule.dantzig.name, PivotRule.bland.name]

/-- The beginning of a session. -/
def initial : Session := ⟨Program.sample, none, none, .text PivotRule.dantzig.name⟩

/-- The session with the sample program and no solution. -/
def reset (s : Session) : Session :=
  { s with program := Program.sample, solution := none, solved := none }

/-- The session with the program resized, if it does not have the sizes yet. -/
def fit (s : Session) (n m : Int) : Except Error Session :=
  if s.program.n = n ∧ s.program.m = m then .ok s
  else do
    let p ← s.program.resize n m
    return { s with program := p, solution := none }

/-- The place of the chosen rule in the list of rules. -/
def ruleIndex (s : Session) : Nat :=
  match s.rule with
  | .text name => if name = PivotRule.dantzig.name then 0 else 1
  | _ => 1

/-- The rule that is shown as chosen. -/
def shownRule (s : Session) : Value :=
  .text ((ruleNames[s.ruleIndex]?).getD PivotRule.dantzig.name)

/-- Solves a program by the chosen rule and keeps the solution. The program is kept before it
    is solved. -/
def solveWith (s : Session) (p : Program Float) : Session × Except Error Unit :=
  let s := { s with program := p }
  match (do solve (← Settings.ofNamed [(.text "pivot_rule", s.rule)]) p :
      Except Error (Solution Float)) with
  | .ok solution => ({ s with solution := some solution, solved := some p }, .ok ())
  | .error e => (s, .error e)

/-- Solves the program that two sheets hold. -/
def solveSheets (s : Session) (n m : Int) (objective constraints : Sheet) :
    Session × Except Error Unit :=
  match readProgram n m objective constraints with
  | .ok p => s.solveWith p
  | .error e => (s, .error e)

end Session

/-! Visits. -/

/-- What a visit leaves behind. -/
structure Visit where
  session : Session
  events : List Event
  failure : Option Error

/-- A visit with events before it. -/
def Visit.after (events : List Event) (v : Visit) : Visit := { v with events := events ++ v.events }

/-- A visit that fails. -/
def Visit.failed (s : Session) (e : Error) : Visit := ⟨s, [], some e⟩

/-- What the page shows of the last solution. -/
def showResults (s : Session) : Visit :=
  match s.solution, s.solved with
  | some solution, some program =>
    let r := results program solution
    ⟨s, r.1, r.2⟩
  | _, _ => ⟨s, [.say .info "Click \"Solve\" to see the optimisation results."], none⟩

/-- What the solve button does, and the results below it. A program that breaks a rule is
    reported; other failures end the visit. -/
def finish (s : Session) (w : Widgets) (n m : Int) (objective constraints : Sheet) : Visit :=
  if w.solve then
    match s.solveSheets n m objective constraints with
    | (s, .ok ()) => showResults s
    | (s, .error (.problem cause)) =>
      (showResults s).after [.say .error ("Cannot solve this problem: " ++ cause.message)]
    | (s, .error e) => .failed s e
  else showResults s

/-- The editor of the objective. -/
def objectiveEditor (p : Program Float) : Event :=
  .editor ("objective_editor_" ++ toString p.n) (objectiveSheet p)

/-- The editor of the constraints. -/
def constraintEditor (p : Program Float) : Event :=
  .editor ("constraints_editor_" ++ toString p.n ++ "_" ++ toString p.m) (constraintSheet p)

/-- The page below the choice of sizes. -/
def below (s : Session) (w : Widgets) (n m : Int) : Visit :=
  match s.fit n m with
  | .error e => .failed s e
  | .ok s =>
    (match (objectiveSheet s.program).edits w.objective with
    | .error e => Visit.failed s (.fault e)
    | .ok objective =>
      (match (constraintSheet s.program).edits w.constraints with
      | .error e => Visit.failed s (.fault e)
      | .ok constraints => finish s w n m objective constraints).after
        [.say .subheader "Constraints", constraintEditor s.program]).after
      [.say .subheader "Objective function (maximize)", objectiveEditor s.program]

/-- The input of a size. -/
def sizeInput (label : String) (size : Int) : Event :=
  .numberInput label minDimension maxDimension size

/-- A size as the user sets it, or as it is. -/
def sizeOf (widget : Option Value) (size : Int) : Except Fault Int :=
  match widget with
  | none => .ok size
  | some v => v.toInt

/-- The page from the choice of the rule on; `again` is the visit that follows a reset. -/
def withSizes (again : Session → Visit) (s : Session) (w : Widgets) (n m : Int) : Visit :=
  let chosen := { s with rule := w.rule.getD s.shownRule }
  (if w.reset then (again chosen.reset).after [.rerun] else below chosen w n m).after
    [.selectBox "Pivot rule" Session.ruleNames s.ruleIndex]

/-- The page with the sizes that the widgets hold. -/
def page (again : Session → Visit) (s : Session) (w : Widgets) : Visit :=
  (match sizeOf w.n s.program.n with
  | .error e => Visit.failed s (.fault e)
  | .ok n =>
    (match sizeOf w.m s.program.m with
    | .error e => Visit.failed s (.fault e)
    | .ok m => withSizes again s w n m).after
      [sizeInput "Number of resources" s.program.m]).after
    [.say .title "Production optimisation with the simplex method", .say .header "Problem size",
      sizeInput "Number of products" s.program.n]

/-- A visit on which nothing is done. -/
def visitAgain (s : Session) : Visit :=
  page (fun s => ⟨s, [], none⟩) s .untouched

/-- A visit to the page; a reset starts it anew, with no widget touched. -/
def visit (s : Session) (w : Widgets) : Visit := page visitAgain s w

end ProductionLP.Page
