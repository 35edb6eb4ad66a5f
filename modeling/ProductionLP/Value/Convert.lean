import ProductionLP.Decimal.Integer
import ProductionLP.Value.Basic

/- Values as numbers and sequences.

   Conversions fail with a cause. Truth values count as zero and one wherever a number is
   asked for, and texts and octets are read as numbers. -/
namespace ProductionLP.Value

/-- The double nearest to an integer, unless it is beyond the doubles. -/
def floatOfInt (i : Int) : Except Fault Float :=
  let x := Decimal.nearest i.natAbs 0
  if x.isFinite then .ok (if i < 0 then -x else x) else .error .tooLarge

/-- A double without its fraction, as an integer. -/
def truncate (x : Float) : Except Fault Int :=
  match Decimal.view x with
  | .nan => .error .undefinedInteger
  | .infinite _ => .error .infiniteInteger
  | .finite b =>
    let f := b.fraction
    let n : Int := (f.1 / f.2 : Nat)
    .ok (if b.negative then -n else n)

/-- Octets as characters for reading a number; those beyond ASCII belong to none. -/
def plainChars (bytes : List UInt8) : List Char :=
  bytes.map fun b => if b < 0x80 then Char.ofNat b.toNat else Char.ofNat 0xFFFD

/-- The octets that a message shows when they are not an integer. -/
def shownOctets (bytes : List UInt8) : String :=
  String.ofList (Text.quotedOctets (bytes.take shownLength))

/-- A value as an integer: fractions are dropped, texts are decimal integers. -/
def toInt : Value → Except Fault Int
  | .int i => .ok i
  | .bool b => .ok (if b then 1 else 0)
  | .num x => truncate x
  | .text s => Decimal.integerIn 10 (Text.quotedString s) s.toList
  | .octets bytes => Decimal.integerIn 10 (shownOctets bytes) (plainChars bytes)
  | _ => .error .wrongKind

/-- A value as a double. -/
def toFloat : Value → Except Fault Float
  | .int i => floatOfInt i
  | .bool b => .ok (if b then 1.0 else 0.0)
  | .num x => .ok x
  | .text s =>
    match Decimal.floatOfText? s.toList with
    | some x => .ok x
    | none => .error (.notNumber (Text.quotedString s))
  | .octets bytes =>
    match Decimal.floatOfText? (plainChars bytes) with
    | some x => .ok x
    | none => .error (.notNumber (String.ofList (Text.quotedOctets bytes)))
  | _ => .error .wrongKind

/-- A value as an entry of an array: null is the undefined number, and a sequence does not fit
    into an entry. -/
def toEntry : Value → Except Fault Float
  | .null => .ok (0.0 / 0.0)
  | .list _ => .error .mismatch
  | .tuple _ => .error .mismatch
  | v => v.toFloat

/-- The number of items: characters of a text, entries of a mapping. -/
def count (v : Value) : Except Fault Nat :=
  match v.face with
  | .text s => .ok s.length
  | .octets bytes => .ok bytes.length
  | .list items => .ok items.length
  | .tuple items => .ok items.length
  | .map entries => .ok entries.length
  | .set items => .ok items.length
  | .block b =>
    match b.shape with
    | [] => .error .wrongKind
    | n :: _ => .ok n
  | _ => .error .wrongKind

/-- The items in order: characters of a text, numbers of octets, keys of a mapping. -/
def items (v : Value) : Except Fault (List Value) :=
  match v.face with
  | .text s => .ok (s.toList.map fun c => .text (String.ofList [c]))
  | .octets bytes => .ok (bytes.map fun b => .int b.toNat)
  | .list xs => .ok xs
  | .tuple xs => .ok xs
  | .map entries => .ok (entries.map Prod.fst)
  | .set xs => .ok xs
  | .block b =>
    match b.parts? with
    | none => .error .wrongKind
    | some (ps, shape) => .ok (ps.map (nested shape))
  | _ => .error .wrongKind

/-- The entry under a key of a mapping; only mappings can be asked. -/
def field? (key : String) (v : Value) : Except Fault (Option Value) :=
  match v.entries? with
  | some entries => .ok (lookup key entries)
  | none => .error .noFields

/-- The longest common beginning of two shapes. -/
def commonShape : List Nat → List Nat → List Nat
  | a :: as, b :: bs => if a = b then a :: commonShape as bs else []
  | _, _ => []

mutual

/-- The shape of nested lists and whether they agree on it all the way down. -/
def layout : Value → List Nat × Bool
  | .list items => layoutList items
  | .tuple items => layoutList items
  | .block b => (b.shape, true)
  | _ => ([], true)

/-- The shape of a list with these items. -/
def layoutList : List Value → List Nat × Bool
  | [] => ([0], true)
  | first :: rest =>
    let r := layoutItems (layout first) rest
    ((rest.length + 1) :: r.1, r.2)

/-- The shape that the first item shares with the items after it. -/
def layoutItems (acc : List Nat × Bool) : List Value → List Nat × Bool
  | [] => acc
  | v :: rest =>
    let s := layout v
    layoutItems
      (commonShape acc.1 s.1, acc.2 && s.2 && acc.1 == s.1) rest

end

mutual

/-- The entries of nested lists in reading order. -/
def entries : Value → Except Fault (List Float)
  | .list xs => entriesItems xs
  | .tuple xs => entriesItems xs
  | .block b => .ok b.entries
  | v => do return [← v.toEntry]

/-- The entries of the items of a list. -/
def entriesItems : List Value → Except Fault (List Float)
  | [] => .ok []
  | v :: rest => do
    let xs ← entries v
    return xs ++ (← entriesItems rest)

end

/-- The greatest number of axes of an array. -/
def mostAxes : Nat := 64

/-- A value as far as an array's axes reach into it, and one level further. -/
def unrolled (v : Value) : Value := if v.hasKnot then v.unroll (mostAxes + 2) else v

/-- The shape that nested lists have as an array. -/
def shape? (v : Value) : Except Fault (List Nat) :=
  let (shape, even) := layout v
  if even then
    if mostAxes < shape.length then .error .deepArray else .ok shape
  else if mostAxes ≤ shape.length then .error .deepArray
  else .error (.ragged shape)

/-- Nested lists of numbers as a block; the lists must be rectangular. -/
def toBlock (v : Value) : Except Fault (Block Float) := do
  let v := v.unrolled
  let shape ← v.shape?
  let xs ← entries v
  if h : xs.length = Block.volume shape then return ⟨shape, xs, h⟩
  else throw (.ragged shape)

/-- The entries of nested lists as a vector, whatever their shape. -/
def toVector (v : Value) : Except Fault (Block Float) := do
  return Block.vector (← v.toBlock).entries

end ProductionLP.Value
