import ProductionLP.Config.Source
import ProductionLP.Solver.Settings
import ProductionLP.Yaml.Document

/- Configurations.

   A configuration is a document with a program, the settings of the solver, and what a run
   does besides solving. -/
namespace ProductionLP

/-- What a run does besides solving. -/
structure RunOptions where
  /-- Compare the result with the reference. -/
  verify : Bool
  /-- Change the level of logging. -/
  logging : Bool
  logLevel : String
  /-- Draw charts of the run. -/
  plots : Bool
  deriving Repr, DecidableEq

/-- A configuration; `base` is the directory that it stands in. -/
structure Config where
  program : Program Float
  solver : Settings Float
  options : RunOptions
  base : Path

namespace Config

/-- A section of a configuration; whatever counts as absent is an empty mapping. -/
def sectionOf (v : Option Value) : Value :=
  match v with
  | some v => if v.truthy then v else .map []
  | none => .map []

/-- A switch of a section. -/
def switch (name : String) (standard : Bool) (raw : Value) : Except Fault Bool := do
  return ((← raw.field? name).map Value.truthy).getD standard

/-- The options of a section. -/
def optionsOf (raw : Value) : Except Fault RunOptions := do
  let verify ← switch "verify" false raw
  let logging ← switch "logging" true raw
  let logLevel ← match ← raw.field? "log_level" with
    | some v => v.text?
    | none => pure "INFO"
  let plots ← switch "plots" true raw
  return ⟨verify, logging, logLevel, plots⟩

/-- The configuration that a document's value holds; `path` is where it was found. -/
def ofValue (tree : FileTree) (path : Path) (document : Value) : Except Error Config := do
  let raw := sectionOf (some document)
  if !(← mentions "problem" raw) then throw (.problem (.missingProblem path.toText))
  let solver := sectionOf (← raw.field? "solver")
  let options ← optionsOf (sectionOf (← raw.field? "run"))
  let program ← programOf tree path.parent (sectionOf (← raw.field? "problem"))
  return ⟨program, ← Settings.ofConfiguration solver, options, path.parent⟩

/-- The characters of a text file with unified line ends. -/
def textOf (octets : List UInt8) : Except Fault (List Char) := do
  return Text.unifyLineEnds (← (Text.decodeUtf8 octets).mapError .notText)

/-- Loads the configuration at a path that is looked up from a directory. -/
def load (tree : FileTree) (directory path : Path) : Except Error Config := do
  path.steps.forM fun s => liftFault (Path.check s)
  let path := directory.resolve path
  let text ← textOf (← tree.read path)
  ofValue tree path (← Yaml.ofText text)

/-- The text under a key of a mapping as a path, if there is one. -/
def pathUnder? (base : Path) (key : String) (raw : Value) : Option Path :=
  match raw.entries?.bind (Value.lookup (pathKey key)) with
  | some (.text s) => some (base.join (Path.ofText s))
  | _ => none

/-- The matrix files that a document's value may refer to. -/
def sources (path : Path) (document : Value) : List Path :=
  let raw := sectionOf (document.entries?.bind (Value.lookup "problem"))
  let constraints := sectionOf (raw.entries?.bind (Value.lookup "constraints"))
  [pathUnder? path.parent "objective" raw, pathUnder? path.parent "coefficients" constraints,
    pathUnder? path.parent "bounds" constraints].filterMap id

/-- The matrix files that the configuration at a path may refer to. -/
def sourcesAt (tree : FileTree) (path : Path) : List Path :=
  match (do Yaml.ofText (← textOf (← tree.read path)) : Except Fault Value) with
  | .ok document => sources path document
  | .error _ => []

end Config

end ProductionLP
