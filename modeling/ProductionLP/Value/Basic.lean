import ProductionLP.Block
import ProductionLP.Calendar
import ProductionLP.Decimal.Written

/- Dynamic values.

   A configuration, a payload or a record is data whose kinds are not known beforehand. A
   mapping keeps its entries in the order in which their keys first came; keys may be any
   scalar. Besides the kinds of a document there are the kinds that a record of a run may
   hold: blocks of numbers and sets.

   A collection of a document may contain itself. It is then a knot: it carries a number, and
   inside it the same number stands for the whole. Looking into a knot (`face`) puts the knot
   back in those places, so what is found inside is a value of its own. -/
namespace ProductionLP

/-- A dynamic value. -/
inductive Value where
  | null
  | bool (b : Bool)
  | int (i : Int)
  | num (x : Float)
  | text (s : String)
  | octets (bytes : List UInt8)
  | date (d : Date)
  /-- A scalar that is no number and known only by how it is quoted. -/
  | stamp (quoted : String)
  | list (items : List Value)
  | tuple (items : List Value)
  | map (entries : List (Value × Value))
  | set (items : List Value)
  | block (b : Block Float)
  /-- A collection that contains itself. -/
  | knot (number : Nat) (whole : Value)
  /-- The knot with this number, from inside it. -/
  | back (number : Nat)

namespace Value

instance : Inhabited Value := ⟨.null⟩

/-- A number in decimal as a string. -/
def intText (i : Int) : String := String.ofList (Text.integer i)

/-- The shortest form of a double as a string. -/
def numText (x : Float) : String := String.ofList (Decimal.shortest x)

/-- The word for a truth value. -/
def boolText (b : Bool) : String := if b then "True" else "False"

/-! Knots. -/

mutual

/-- A value with `whole` in the places that stand for the knot with a number. -/
def refill (number : Nat) (whole : Value) : Value → Value
  | .list items => .list (refillItems number whole items)
  | .tuple items => .tuple (refillItems number whole items)
  | .set items => .set (refillItems number whole items)
  | .map entries => .map (refillEntries number whole entries)
  | .knot k v => if k = number then .knot k v else .knot k (refill number whole v)
  | .back k => if k = number then whole else .back k
  | v => v

/-- The items of a collection with a knot put back. -/
def refillItems (number : Nat) (whole : Value) : List Value → List Value
  | [] => []
  | v :: rest => refill number whole v :: refillItems number whole rest

/-- The entries of a mapping with a knot put back. -/
def refillEntries (number : Nat) (whole : Value) : List (Value × Value) → List (Value × Value)
  | [] => []
  | (k, v) :: rest =>
    (refill number whole k, refill number whole v) :: refillEntries number whole rest

end

/-- What a value is when it is looked into: a knot is the collection that it ties. -/
def face : Value → Value
  | .knot number v => refill number (.knot number v) v
  | v => v

/-- Whether a value is a knot or the inside of one. -/
def isTied : Value → Bool
  | .knot _ _ => true
  | .back _ => true
  | _ => false

mutual

/-- Whether a knot occurs in a value. -/
def hasKnot : Value → Bool
  | .list items => anyKnot items
  | .tuple items => anyKnot items
  | .map entries => anyKnotEntry entries
  | v => v.isTied

/-- Whether a knot occurs in one of the items. -/
def anyKnot : List Value → Bool
  | [] => false
  | v :: rest => hasKnot v || anyKnot rest

/-- Whether a knot occurs in the value of one of the entries. -/
def anyKnotEntry : List (Value × Value) → Bool
  | [] => false
  | (_, v) :: rest => hasKnot v || anyKnotEntry rest

end

/-- A value without knots that agrees with it down to a depth. -/
def unroll : (depth : Nat) → Value → Value
  | 0, _ => .list []
  | depth + 1, v =>
    match v.face with
    | .list items => .list (items.map (unroll depth))
    | .tuple items => .tuple (items.map (unroll depth))
    | v => v

/-! Equality of scalars. -/

/-- The numeric value of a number or truth value as a double or an integer. -/
inductive Numeric where
  | int (i : Int)
  | num (x : Float)

/-- The number that a value is, truth values being zero and one. -/
def numeric? : Value → Option Numeric
  | .bool b => some (.int (if b then 1 else 0))
  | .int i => some (.int i)
  | .num x => some (.num x)
  | _ => none

/-- A finite double that is a whole number, as an integer. -/
def wholeOf (x : Float) : Option Int :=
  match Decimal.view x with
  | .finite b =>
    let f := b.fraction
    if f.1 % f.2 = 0 then
      let n : Int := (f.1 / f.2 : Nat)
      some (if b.negative then -n else n)
    else none
  | _ => none

/-- Numerically equal; an integer equals a double with exactly its value. -/
def Numeric.same : Numeric → Numeric → Bool
  | .int a, .int b => a == b
  | .num a, .num b => a == b
  | .int a, .num b => wholeOf b == some a
  | .num a, .int b => wholeOf a == some b

/-- Equality of keys and of scalars: numbers by value, texts by their characters, dates by
    what they name, and nothing else but the same kind of scalar. -/
def sameKey (a b : Value) : Bool :=
  match numeric? a, numeric? b with
  | some x, some y => x.same y
  | none, none =>
    match a, b with
    | .null, .null => true
    | .text s, .text t => s == t
    | .octets s, .octets t => s == t
    | .date s, .date t => s.same t
    | .stamp s, .stamp t => s == t
    | _, _ => false
  | _, _ => false

/-! Mappings. -/

/-- The value under a text key of a list of entries. -/
def lookup (key : String) : List (Value × Value) → Option Value
  | [] => none
  | (.text k, v) :: rest => if k = key then some v else lookup key rest
  | _ :: rest => lookup key rest

/-- Sets a key: in place when it is there, at the end otherwise. -/
def insert (key value : Value) : List (Value × Value) → List (Value × Value)
  | [] => [(key, value)]
  | (k, v) :: rest =>
    if sameKey k key then (k, value) :: rest else (k, v) :: insert key value rest

/-- The entries of a mapping; other values have none. -/
def entries? (v : Value) : Option (List (Value × Value)) :=
  match v.face with
  | .map entries => some entries
  | _ => none

/-! Blocks. -/

/-- The nested lists of a block's entries; a single number is itself. -/
def nested : List Nat → List Float → Value
  | [], xs => .num (xs.headD 0.0)
  | count :: rest, xs => .list ((Block.pieces (Block.volume rest) count xs).map (nested rest))

/-- A block as nested lists. -/
def ofBlock (b : Block Float) : Value := nested b.shape b.entries

/-- A list of numbers. -/
def ofFloats (xs : List Float) : Value := .list (xs.map .num)

/-- What counts as present in a condition: everything but null, false, zero and what is
    empty. -/
def truthy (v : Value) : Bool :=
  match v.face with
  | .null => false
  | .bool b => b
  | .int i => i != 0
  | .num x => !(x == 0.0)
  | .text s => !s.isEmpty
  | .octets bytes => !bytes.isEmpty
  | .list items => !items.isEmpty
  | .tuple items => !items.isEmpty
  | .map entries => !entries.isEmpty
  | .set items => !items.isEmpty
  | .block b => b.entries.any (fun x => !(x == 0.0))
  | _ => true

end Value

end ProductionLP
