import ProductionLP.Fault

/- Errors.

   Every operation that can fail names its cause here: a program that breaks a rule, a
   solver setting out of range, a ratio test that cannot decide, a file of the wrong kind,
   or a fault of the data. The wording of each is one function, `Error.message`. -/
namespace ProductionLP

/-- The three arrays of a program. -/
inductive Part where
  | objective
  | coefficients
  | bounds
  deriving Repr, DecidableEq

/-- The name of a part in messages. -/
def Part.name : Part → String
  | .objective => "objective"
  | .coefficients => "constraint matrix"
  | .bounds => "bounds"

/-- How a linear program can be malformed. -/
inductive ProblemError where
  /-- A symbol is no constraint operator; it is shown quoted. -/
  | unknownOperator (quoted : String)
  /-- A symbol is no constraint operator, and it cannot be shown. -/
  | unshownOperator (obstacle : Fault)
  /-- A constraint, counted from one, has another number of coefficients than there are
      variables. -/
  | rowLength (row got : Nat) (expected : Int)
  /-- A required field is missing from a payload. -/
  | missingField (name : String)
  /-- Neither a field nor a file for it is given. -/
  | missingSource (name : String)
  /-- A configuration has no program. -/
  | missingProblem (path : String)
  | variableCount (n : Int)
  | constraintCount (m : Int)
  | wrongShape (part : Part) (got expected : List Int)
  | operatorCount (got : Nat) (m : Int)
  | nonFinite (part : Part)
  /-- Bounds below zero, by their constraints counted from one. -/
  | negativeBounds (rows : List Nat)
  /-- A constraint, counted from one, uses an operator that the method cannot honour. -/
  | unsupported (row : Nat) (symbol : String)
  /-- A size below one was asked for. -/
  | sizes
  deriving Repr, DecidableEq

/-- The smallest and the greatest number of variables and of constraints. -/
def minDimension : Int := 1
def maxDimension : Int := 10

/-- The range of sizes in words. -/
def dimensionRange : String :=
  "[" ++ toString minDimension ++ ", " ++ toString maxDimension ++ "]"

/-- The subject and its verb, as the parts are spoken of. -/
def Part.hasShape : Part → String
  | .bounds => "bounds have shape "
  | p => p.name ++ " has shape "

/-- The cause in words. -/
def ProblemError.message : ProblemError → String
  | .unknownOperator q => "unknown constraint operator: " ++ q
  | .unshownOperator obstacle => obstacle.message
  | .rowLength row got expected =>
    "constraint " ++ toString row ++ " has " ++ toString got ++ " coefficients, expected "
      ++ toString expected
  | .missingField name => "problem is missing required field " ++ Text.quotedString name
  | .missingSource name =>
    "problem is missing '" ++ name ++ "' (or '" ++ name ++ "_path')"
  | .missingProblem path => path ++ " has no 'problem' section"
  | .variableCount n =>
    "number of variables must lie in " ++ dimensionRange ++ ", got " ++ toString n
  | .constraintCount m =>
    "number of constraints must lie in " ++ dimensionRange ++ ", got " ++ toString m
  | .wrongShape part got expected =>
    part.hasShape ++ shapeText got ++ ", expected " ++ shapeText expected
  | .operatorCount got m =>
    "got " ++ toString got ++ " operators for " ++ toString m ++ " constraints"
  | .nonFinite part => part.name ++ " contains non-finite values"
  | .negativeBounds rows =>
    "bounds must be non-negative; negative at constraint(s) ["
      ++ ", ".intercalate (rows.map toString) ++ "]"
  | .unsupported row symbol =>
    "constraint " ++ toString row ++ " uses '" ++ symbol
      ++ "'; only '≤' constraints are supported"
  | .sizes => "dimensions must be positive"

/-- What keeps an integer from being named. -/
def namingObstacle (i : Int) : Option Fault := if isWritten i then none else some .unshowable

/-- What keeps the cause from being put into words: what is named cannot be written. -/
def ProblemError.obstacle? : ProblemError → Option Fault
  | .unshownOperator obstacle => some obstacle
  | .rowLength _ _ expected => namingObstacle expected
  | .variableCount n => namingObstacle n
  | .constraintCount m => namingObstacle m
  | _ => none

/-- Whether the cause can be put into words. -/
def ProblemError.isWritten (cause : ProblemError) : Bool := cause.obstacle?.isNone

/-- How a setting can be refused: a setting of the solver is out of range, or what is set has
    too many digits to be named. -/
inductive SettingError where
  | iterations
  /-- A pivot rule that the solver does not know. -/
  | rule (shown : String)
  /-- A pivot rule that a configuration may not name. -/
  | configuredRule (name : String)
  | tolerances
  | pivotTolerance
  | basicTolerance
  /-- A message would have to name an integer that is not written. -/
  | unwritten
  deriving Repr, DecidableEq

/-- The cause in words. -/
def SettingError.message : SettingError → String
  | .iterations => "max_iterations must be at least 1"
  | .rule shown => "unknown pivot rule: " ++ shown
  | .configuredRule name => "unsupported pivot rule: " ++ name
  | .tolerances => "tolerances must be positive"
  | .pivotTolerance => "pivot_tol must be non-negative"
  | .basicTolerance => "basic_tol must be positive"
  | .unwritten => Fault.unshowable.message

/-- How the ratio test can fail to decide. -/
inductive RatioError where
  /-- A ratio equal to the number above all others ties with no row at all. -/
  | tieWithNoRow
  /-- A tie needs a basis label that is not there. -/
  | shortBasis
  /-- The column lies outside the tableau. -/
  | noColumn
  deriving Repr, DecidableEq

/-- A cause of failure. -/
inductive Error where
  | problem (cause : ProblemError)
  | setting (cause : SettingError)
  | ratio (cause : RatioError)
  /-- The reference solver refuses a coefficient of this magnitude. -/
  | reference
  /-- No log level has this name. -/
  | unknownLevel (name : String)
  /-- A value of this kind has no written form. -/
  | unserialisable (kind : String)
  /-- A matrix file is missing. -/
  | missingMatrix (path : String)
  /-- A matrix file has an unknown suffix. -/
  | unsupportedMatrix (path : String)
  | fault (cause : Fault)
  deriving Repr, DecidableEq

/-- The cause in words. -/
def Error.message : Error → String
  | .problem cause => cause.message
  | .setting cause => cause.message
  | .ratio .tieWithNoRow => "a tie with no row"
  | .ratio .shortBasis => "a basis label is missing"
  | .ratio .noColumn => "the column is outside the tableau"
  | .reference => "(HiGHS Status 2: Model error)"
  | .unknownLevel name => "unknown log level: " ++ name
  | .unserialisable kind =>
    "object of type <class '" ++ kind ++ "'> is not JSON serializable"
  | .missingMatrix path => path
  | .unsupportedMatrix path => "unsupported matrix file type: " ++ path
  | .fault cause => cause.message

/-- Faults that come of what a configuration says: they are reported to the user, while other
    faults end the program. -/
def Fault.isReported : Fault → Bool
  | .wrongKind | .noFields | .outOfRange | .tooLarge | .roundedTooLarge | .infiniteInteger => false
  | .emptyFile | .isDirectory _ | .notDirectory _ | .alreadyThere _ | .longPath _ => false
  | .noHome | .unknownWord | .deepDocument | .outOfMemory | .manyPlaces => false
  | .openHeader | .unevenHeader | .brokenShape | .notArchive | .brokenCode => false
  | _ => true

/-- Errors that are reported to the user when a configuration is loaded. -/
def Error.isReported : Error → Bool
  | .ratio _ | .reference | .unserialisable _ => false
  | .fault cause => cause.isReported
  | _ => true

/-- A problem error as an error. One that cannot be put into words fails for what stands in the
    way; a size with too many digits is then a refused setting. -/
def ProblemError.toError (cause : ProblemError) : Error :=
  match cause.obstacle? with
  | none => .problem cause
  | some .unshowable => .setting .unwritten
  | some obstacle => .fault obstacle

/-- Problem errors seen as errors. -/
def liftProblem {α : Type} (r : Except ProblemError α) : Except Error α :=
  r.mapError ProblemError.toError

/-- Faults of data seen as errors. -/
def liftFault {α : Type} (r : Except Fault α) : Except Error α := r.mapError .fault

instance : MonadLift (Except Fault) (Except Error) := ⟨liftFault⟩

end ProductionLP
