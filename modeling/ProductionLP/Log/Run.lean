import ProductionLP.Solution
import ProductionLP.Value.Shown

/- Logging.

   All loggers live under one name and share one level. A logger is made when it is first
   asked for, with the level that is then the standard; changing the level changes the
   standard and every logger. A message is written when its level reaches that of its logger;
   a logger at level zero takes the level of its nearest ancestor that has one.

   Of a run every pivot is a message for debugging; its end is an information, or a warning
   when the run was cut off. A run that fails has no message for its end. -/
namespace ProductionLP

/-- A level is an integer or a truth value. -/
inductive Level where
  | number (i : Int)
  | truth (b : Bool)
  deriving Repr, DecidableEq

namespace Level

/-- The number of a level. -/
def rank : Level → Int
  | .number i => i
  | .truth b => if b then 1 else 0

/-- A value that can be a level. -/
def ofValue? : Value → Option Level
  | .int i => some (.number i)
  | .bool b => some (.truth b)
  | _ => none

/-- The names of levels. -/
def named : List (String × Int) := [("DEBUG", 10), ("INFO", 20), ("WARNING", 30), ("ERROR", 40),
  ("CRITICAL", 50), ("NOTSET", 0), ("WARN", 30), ("FATAL", 50)]

/-- The level with a name. -/
def ofName? (s : String) : Option Int := named.lookup s

/-- The name of a level; a level without one is named by its number. -/
def nameOf (i : Int) : String :=
  match named.find? (fun e => e.2 == i) with
  | some e => e.1
  | none => "Level " ++ toString i

/-- The usual levels of messages. -/
def debug : Int := 10
def info : Int := 20
def warning : Int := 30
def error : Int := 40

/-- The level that applies where no logger has one. -/
def fallback : Int := 30

/-- Messages below this level are never written. -/
def least : Int := 10

end Level

/-- A named logger. -/
structure Logger where
  name : String
  level : Level
  handlers : Nat
  propagates : Bool
  deriving Repr, DecidableEq

/-- The standard level and the loggers made so far, in order. -/
structure Registry where
  standard : Value
  loggers : List Logger

namespace Registry

/-- The name that all loggers live under. -/
def root : String := "simplex_tableau"

/-- The full name of a logger. -/
def fullName (name : Option String) : String :=
  match name with
  | none => root
  | some s => if root.isPrefixOf s then s else root ++ "." ++ s

/-- A value as the name of a logger, which may be missing but has to be a text. -/
def nameOf : Value → Except Fault (Option String)
  | .null => .ok none
  | .text s => .ok (some s)
  | _ => .error .noFields

/-- A registry with no loggers and the level of warnings. -/
def empty : Registry := ⟨.int Level.warning, []⟩

/-- The logger with a full name. -/
def find? (r : Registry) (name : String) : Option Logger := r.loggers.find? (·.name == name)

/-- The logger with a name; it is made when it is not there yet, which fails when the standard
    level is none. -/
def get (r : Registry) (name : Option String) : Except Fault (Registry × Logger) :=
  match r.find? (fullName name) with
  | some l => .ok (r, l)
  | none =>
    match Level.ofValue? r.standard with
    | none => .error .wrongKind
    | some level =>
      let l : Logger := ⟨fullName name, level, 1, false⟩
      .ok ({ r with loggers := r.loggers ++ [l] }, l)

/-- The level that a value asks for: a known name stands for its number. -/
def requested (v : Value) : Except Error Value :=
  match v with
  | .text s =>
    match Level.ofName? (Text.capitals s) with
    | some i => .ok (.int i)
    | none => .error (.unknownLevel s)
  | v => .ok v

/-- Changes the level. An unknown name changes nothing. A value that is no level becomes the
    standard before the first logger refuses it. -/
def setLevel (r : Registry) (v : Value) : Registry × Except Error Unit :=
  match requested v with
  | .error e => (r, .error e)
  | .ok v =>
    match Level.ofValue? v with
    | some level =>
      ({ standard := v, loggers := r.loggers.map fun l => { l with level := level } }, .ok ())
    | none =>
      ({ r with standard := v }, if r.loggers.isEmpty then .ok () else .error (.fault .wrongKind))

/-- The level above a name, which is given backwards: that of the first logger at one of its
    points with a level that is not zero. The character before a point where no logger stands
    is not taken for a point. -/
def levelAbove (r : Registry) : List Char → Int
  | '.' :: c :: rest =>
    match r.find? (String.ofList (c :: rest).reverse) with
    | none => levelAbove r rest
    | some l => if l.level.rank = 0 then levelAbove r (c :: rest) else l.level.rank
  | _ :: rest => levelAbove r rest
  | [] => Level.fallback

/-- The level that decides for a logger. -/
def effective (r : Registry) (name : String) : Int :=
  match r.find? name with
  | none => r.levelAbove name.toList.reverse
  | some l => if l.level.rank = 0 then r.levelAbove name.toList.reverse else l.level.rank

/-- The line of a message. -/
def lineOf (name : String) (level : Int) (text : String) : String :=
  "[" ++ Level.nameOf level ++ "] " ++ name ++ ": " ++ text ++ "\n"

/-- What a logger writes for a message. -/
def write (r : Registry) (name : String) (level : Int) (text : String) : String :=
  if r.effective name ≤ level ∧ Level.least ≤ level then lineOf name level text else ""

/-- What a logger writes for messages one after the other. -/
def writeAll (r : Registry) (name : String) (messages : List (Int × String)) : String :=
  String.join (messages.map fun m => r.write name m.1 m.2)

/-- Logs any value at any level, which has to be an integer or a truth value. The logger is
    made before the level is looked at. -/
def emit (r : Registry) (name : Option String) (level text : Value) :
    Registry × Except Fault String :=
  match r.get name with
  | .error cause => (r, .error cause)
  | .ok (r, l) =>
    match Level.ofValue? level with
    | none => (r, .error .wrongKind)
    | some v => (r, .ok (r.write l.name v.rank text.shown))

/-- The loggers of the page, the command line and the solver. -/
def pageLogger : String := "simplex_tableau.app"
def commandLogger : String := "simplex_tableau.cli"
def solverLogger : String := "simplex_tableau.simplex"

/-- A logger at the level of warnings. -/
def fresh (name : String) : Logger := ⟨name, .number Level.warning, 1, false⟩

/-- The registry with the loggers of the program's parts. -/
def standing : Registry :=
  ⟨.int Level.warning, [fresh pageLogger, fresh commandLogger, fresh solverLogger]⟩

end Registry

/-! What a run logs. -/

namespace Trace

/-- The message of a pivot. -/
def stepMessage (s : PivotStep Float) : String :=
  "pass " ++ toString s.iteration ++ ": entering column " ++ toString s.column
    ++ ", leaving row " ++ toString s.row ++ ", pivot "
    ++ String.ofList (Decimal.significant 6 s.element)

/-- The message of the end of a run. -/
def endMessage (limit pivots : Nat) (status : Status) : Int × String :=
  match status with
  | .iterationLimit =>
    (Level.warning, "stopped after " ++ toString limit ++ " pivots without reaching optimality")
  | s => (Level.info, s.name ++ " after " ++ toString pivots ++ " pivots")

/-- The messages of a run with a limit on its pivots. -/
def messages (limit : Nat) (t : Trace Float) : List (Int × String) :=
  t.pivots.map (fun s => (Level.debug, stepMessage s)) ++
    match t.ending with
    | .error _ => []
    | .ok status => [endMessage limit t.pivots.length status]

end Trace

end ProductionLP
