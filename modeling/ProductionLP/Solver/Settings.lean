import ProductionLP.Error
import ProductionLP.Solver.Rule
import ProductionLP.Value.Convert
import ProductionLP.Value.Shown

/- Solver settings.

   A solver is set up by naming any of its settings. Names that it does not know are refused
   first; then the settings are checked in a fixed order, before they are converted. -/
namespace ProductionLP

/-- The settings of a solver. -/
structure Settings (α : Type) where
  maxIterations : Nat
  rule : PivotRule
  pivotTol : α
  basicTol : α
  deriving Repr

namespace Settings

/-- The settings of a solver that names none. -/
def standard : Settings Float := ⟨100, .dantzig, 1e-9, 1e-10⟩

/-- The number below which a setting must not lie, compared as numbers; only numbers and
    truth values can be compared. -/
def isBelow (limit : Int) (v : Value) : Except Fault Bool :=
  match v.numeric? with
  | some (.int i) => .ok (decide (i < limit))
  | some (.num x) => .ok (decide (x < Float.ofInt limit))
  | none => .error .wrongKind

/-- A setting is not above zero. -/
def isNotPositive (v : Value) : Except Fault Bool :=
  match v.numeric? with
  | some (.int i) => .ok (decide (i ≤ 0))
  | some (.num x) => .ok (decide (x ≤ 0.0))
  | none => .error .wrongKind

/-- The rule that a value names. -/
def ruleOf? : Value → Option PivotRule
  | .text s => PivotRule.ofName? s
  | _ => none

/-- How a rule that the solver does not know is refused: it is named, unless it cannot be. -/
def unknownRule (rule : Value) : Error :=
  match rule.text? with
  | .ok shown => .setting (.rule shown)
  | .error .unshowable => .setting .unwritten
  | .error obstacle => .fault obstacle

/-- The names of the settings. -/
def names : List String := ["max_iterations", "pivot_rule", "pivot_tol", "basic_tol"]

/-- Settings from values: the iteration limit is checked first, then the rule, then the
    tolerances, and only then are the numbers converted. -/
def ofValues (maxIterations rule pivotTol basicTol : Value) : Except Error (Settings Float) := do
  if ← isBelow 1 maxIterations then throw (.setting .iterations)
  match ruleOf? rule with
  | none => throw (unknownRule rule)
  | some r =>
    if ← isBelow 0 pivotTol then throw (.setting .tolerances)
    if ← isNotPositive basicTol then throw (.setting .tolerances)
    let limit ← maxIterations.toInt
    return ⟨limit.toNat, r, ← pivotTol.toFloat, ← basicTol.toFloat⟩

/-- A named setting, or its standard value. -/
def setting (named : List (Value × Value)) (name : String) (standard : Value) : Value :=
  (Value.lookup name named).getD standard

/-- Whether a key is the name of a setting. -/
def isName : Value → Bool
  | .text s => names.contains s
  | _ => false

/-- Settings from named values. -/
def ofNamed (named : List (Value × Value)) : Except Error (Settings Float) := do
  if !named.all (fun e => isName e.1) then throw (.fault .wrongKind)
  ofValues (setting named "max_iterations" (.int 100))
    (setting named "pivot_rule" (.text "dantzig"))
    (setting named "pivot_tol" (.num 1e-9))
    (setting named "basic_tol" (.num 1e-10))

/-- A field of a configuration, or its standard value. -/
def fieldOr (name : String) (standard raw : Value) : Except Fault Value := do
  return (← raw.field? name).getD standard

/-- Fails at the first of the converted settings that is out of range. -/
def checkConfigured (limit : Int) (rule : String) (pivotTol basicTol : Float) :
    Except SettingError PivotRule :=
  match PivotRule.ofName? rule with
  | none => .error (.configuredRule rule)
  | some r =>
    if limit < 1 then .error .iterations
    else if pivotTol < 0.0 then .error .pivotTolerance
    else if basicTol ≤ 0.0 then .error .basicTolerance
    else .ok r

/-- Settings from a configuration: all values are converted first, then checked. -/
def ofConfiguration (raw : Value) : Except Error (Settings Float) := do
  let limit ← (← fieldOr "max_iterations" (.int 100) raw).toInt
  let rule ← (← fieldOr "pivot_rule" (.text "dantzig") raw).text?
  let pivotTol ← (← fieldOr "pivot_tol" (.num 1e-9) raw).toFloat
  let basicTol ← (← fieldOr "basic_tol" (.num 1e-10) raw).toFloat
  let r ← (checkConfigured limit rule pivotTol basicTol).mapError Error.setting
  return ⟨limit.toNat, r, pivotTol, basicTol⟩

end Settings

end ProductionLP
