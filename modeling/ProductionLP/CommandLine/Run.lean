import ProductionLP.Chart
import ProductionLP.CommandLine.Options
import ProductionLP.Config.Basic
import ProductionLP.Frame.Layout
import ProductionLP.Log.Run
import ProductionLP.Record.Files
import ProductionLP.Reference
import ProductionLP.Report

/- Runs of the command line.

   A run loads a configuration, solves its program, prints the tableaus and the plan, compares
   the result with that of a reference solver and writes the run down in files. It works on a
   console: the texts printed so far, the files and the loggers. A run ends with a code, or with
   an error that nobody reports. -/
namespace ProductionLP.CommandLine

/-- What a run has printed and written so far. -/
structure Console where
  output : String
  errors : String
  files : FileTree
  loggers : Registry

/-- Where a run takes place: the directory that paths are looked up from, and the home
    directories of users. -/
structure Place where
  directory : Path
  homes : List (String × Path)

/-- How a run ends before its last step. -/
inductive Stop where
  | exit (code : Nat)
  | failed (cause : Error)

/-- A step of a run. -/
abbrev Step (α : Type) := ExceptT Stop (StateM Console) α

/-- Prints lines. -/
def print (text : String) : Step Unit :=
  modify fun c => { c with output := c.output ++ text ++ "\n" }

/-- Ends the run because its input is refused. -/
def refuse {α : Type} (reason : String) : Step α := do
  modify fun c => { c with errors := c.errors ++ refusal reason }
  throw (.exit 2)

/-- A result without which the run fails. -/
def need {α : Type} (r : Except Error α) : Step α :=
  match r with
  | .ok a => pure a
  | .error e => throw (.failed e)

/-- Logs messages. -/
def log (name : String) (messages : List (Int × String)) : Step Unit :=
  modify fun c => { c with errors := c.errors ++ c.loggers.writeAll name messages }

/-- Changes the level of logging. -/
def changeLevel (name : String) : Step Unit := do
  let (loggers, done) := (← get).loggers.setLevel (.text name)
  modify fun c => { c with loggers := loggers }
  need done

/-- A number with six significant digits. -/
def brief (x : Float) : String := String.ofList (Decimal.significant 6 x)

/-- The configuration that the options name. -/
def configuration (place : Place) (files : FileTree) (o : Options) : Except Error Config := do
  let path ← (Path.ofText o.config).expand place.homes
  Config.load files place.directory path

/-- Loads the configuration; what is wrong with its path or its contents is reported. -/
def loadConfig (place : Place) (o : Options) : Step Config := do
  match configuration place (← get).files o with
  | .ok c => return c
  | .error e => if e.isReported then refuse e.message else throw (.failed e)

/-- Solves the program and logs the run; a program that breaks a rule is reported. -/
def solveProgram (c : Config) : Step (Solution Float) := do
  match trace c.solver c.program with
  | .error (.problem cause) => refuse cause.message
  | .error e => throw (.failed e)
  | .ok t =>
    log Registry.solverLogger (t.messages c.solver.maxIterations)
    need (Solution.ofTrace c.solver c.program.n t)

/-- Decimal places of printed tableaus. -/
def tableauPlaces : Int := 3

/-- Prints a tableau. -/
def printSnapshot (s : Snapshot Float) : Step Unit := do
  print ("-- iteration " ++ toString s.iteration)
  print (← need (Report.ofTableau s.tableau (some tableauPlaces))).labelled

/-- The snapshots that are printed: all of them, or the last one. -/
def printedSnapshots (all : Bool) (s : Solution Float) : List (Snapshot Float) :=
  if all then s.snapshots else s.snapshots.drop (s.snapshots.length - 1)

/-- Prints the tableaus and the plan. -/
def printReport (c : Config) (s : Solution Float) (all : Bool) : Step Unit := do
  (printedSnapshots all s).forM printSnapshot
  print ""
  print ("status: " ++ s.status.name)
  print ("pivots: " ++ toString s.pivots.length)
  print ("objective: " ++ brief s.objective.toFloat)
  print (← need (Report.plan s)).bare
  if s.isOptimal then
    print ""
    print (← need (Report.constraints c.program (.vector s.values) .null)).bare

/-- What is logged of a comparison with the reference. -/
def comparison (s : Solution Float) (r : Reference Float) : Int × String :=
  if r.confirms Reference.absoluteTol s then
    (Level.info, "reference solver agrees: " ++ r.status ++ ", objective "
      ++ brief r.objective.toFloat)
  else
    (Level.warning, "reference solver disagrees: " ++ r.status ++ " objective "
      ++ brief r.objective.toFloat ++ " vs " ++ s.status.name ++ " objective "
      ++ brief s.objective.toFloat)

/-- Compares the result with what the reference solver reports. -/
def verify (reference : Reference.Solver) (c : Config) (s : Solution Float) : Step Unit :=
  match reference c.program with
  | .ok r => log Registry.commandLogger [comparison s r]
  | .error reason =>
    log Registry.commandLogger [(Level.error, "reference solve failed: " ++ reason)]

/-- Changes the files. -/
def changeFiles (f : FileTree → Except Fault FileTree) : Step Unit := do
  let files ← need (liftFault (f (← get).files))
  modify fun c => { c with files := files }

/-- The octets of a text. -/
def octetsOf (text : List Char) : List UInt8 := (String.ofList text).toUTF8.toList

/-- The files that a run writes below its directory: the trace and the solution. -/
def traceFile : String := "iterations.jsonl"
def solutionFile : String := "solution.json"

/-- The directory of the charts. -/
def chartDirectory : String := "plots"

/-- Writes the trace, the solution and the charts into a directory. What a chart looks like is
    not the library's concern: its file is left empty. -/
def writeArtifacts (place : Place) (c : Config) (s : Solution Float) (out : Path) : Step Unit := do
  let target := place.directory.join out
  let (lines, failed) := Record.history (s.snapshots.map Record.ofSnapshot)
  changeFiles fun t => t.deliver (target.child traceFile) (octetsOf lines)
  if let some e := failed then throw (.failed e)
  changeFiles fun t => t.deliver (target.child solutionFile) (octetsOf (Record.solutionText s))
  if c.options.plots then
    let charts ← need (liftFault (Chart.ofSolution s))
    charts.forM fun chart =>
      changeFiles fun t => t.deliver ((target.child chartDirectory).child chart.file) []
  log Registry.commandLogger [(Level.info, "artifacts written to " ++ out.toText)]

/-- The code that a run ends with. -/
def exitCode (s : Solution Float) : Nat := if s.isOptimal then 0 else 1

/-- Carries out what the options ask for. -/
def perform (reference : Reference.Solver) (place : Place) (o : Options) : Step Nat := do
  let c ← loadConfig place o
  if c.options.logging then changeLevel c.options.logLevel
  let s ← solveProgram c
  printReport c s o.showTableaus
  if o.verify || c.options.verify then verify reference c s
  match o.out with
  | some out => if out ≠ "" then writeArtifacts place c s (Path.ofText out)
  | none => pure ()
  return exitCode s

/-- Carries out a command line. -/
def command (reference : Reference.Solver) (place : Place) (words : List String) : Step Nat :=
  match Request.ofWords words with
  | .help => do
    modify fun c => { c with output := c.output ++ helpText }
    return 0
  | .refused reason => refuse reason
  | .run o => perform reference place o

/-- What a command line leaves behind: its code or the error that it failed with, and the
    console. -/
def run (place : Place) (files : FileTree) (words : List String)
    (reference : Reference.Solver := Reference.atHand) : Except Error Nat × Console :=
  let (result, console) :=
    (command reference place words).run ⟨"", "", files, Registry.standing⟩
  match result with
  | .ok code => (.ok code, console)
  | .error (.exit code) => (.ok code, console)
  | .error (.failed e) => (.error e, console)

end ProductionLP.CommandLine
