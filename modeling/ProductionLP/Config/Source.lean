import ProductionLP.Matrix.File
import ProductionLP.Program.Basic

/- Where the parts of a program come from.

   A configuration gives each array of a program in place, or by the path of a matrix file
   that is looked up from the configuration's own directory. What stands in place wins. -/
namespace ProductionLP.Config

/-- Whether a text occurs in another one. -/
def occursIn (part : List Char) : List Char → Bool
  | [] => part.isEmpty
  | c :: rest => part.isPrefixOf (c :: rest) || occursIn part rest

/-- Whether a word is a key of a mapping, an item of a list or part of a text; other values
    cannot be asked. -/
def mentions (word : String) (v : Value) : Except Fault Bool :=
  match v.face with
  | .map entries => .ok (entries.any fun e => Value.sameKey e.1 (.text word))
  | .list items => .ok (items.any fun v => Value.sameKey v (.text word))
  | .tuple items => .ok (items.any fun v => Value.sameKey v (.text word))
  | .set items => .ok (items.any fun v => Value.sameKey v (.text word))
  | .text s => .ok (occursIn word.toList s.toList)
  | _ => .error .wrongKind

/-- The value under a key; only mappings have one. -/
def itemOf (key : String) (v : Value) : Except Fault Value :=
  match v.entries?.bind (Value.lookup key) with
  | some v => .ok v
  | none => .error .wrongKind

/-- The key under which the path of a part's file stands. -/
def pathKey (key : String) : String := key ++ "_path"

/-- The path that a value names; only texts do. -/
def pathOf (base : Path) : Value → Except Fault Path
  | .text s => .ok (base.join (Path.ofText s))
  | _ => .error .wrongKind

/-- A part of a program, in place or from a file. -/
def part (tree : FileTree) (base : Path) (vector : Bool) (key : String) (raw : Value) :
    Except Error Value := do
  if ← mentions key raw then return ← itemOf key raw
  if ← mentions (pathKey key) raw then
    return ← Matrix.ofFile tree vector (← pathOf base (← itemOf (pathKey key) raw))
  throw (.problem (.missingSource key))

/-- The program of a configuration. -/
def programOf (tree : FileTree) (base : Path) (raw : Value) : Except Error (Program Float) := do
  let constraints ← Program.constraintsOf raw
  let objective ← part tree base true "objective" raw
  let coefficients ← part tree base false "coefficients" constraints
  let bounds ← part tree base true "bounds" constraints
  let operators := (← constraints.field? "operators").getD .null
  let n := (← raw.field? "n").getD .null
  let m := (← raw.field? "m").getD .null
  Program.ofLists objective coefficients bounds operators n m

end ProductionLP.Config
