import ProductionLP.Error
import ProductionLP.Value.Shown

/- Records.

   A record is a value that has a written form: nested lists and objects of texts, numbers,
   truth values and null. An integer with very many digits has none, nor has a collection that
   is nested deeper than can be followed. A record is written on one line, or with one item per
   line. Only ASCII is written; every other character is escaped. -/
namespace ProductionLP

open Text (CodePoint)

/-- A value with a written form. A text is a list of code points, surrogates among them. -/
inductive Record where
  | null
  | bool (b : Bool)
  | int (i : Int)
  | num (x : Float)
  | text (codes : List CodePoint)
  | list (items : List Record)
  | object (entries : List (List CodePoint × Record))

namespace Record

/-- What the record of a value depends on besides the value: the code points that the texts in it
    stand for, and the levels of nesting that are left to follow. -/
structure Reading where
  codes : String → List CodePoint
  levels : Nat

/-- The reading of a run. -/
def Reading.usual : Reading := ⟨Text.codePoints, Value.usualLevels⟩

/-- Nested lists of the entries of a block. -/
def nested : List Nat → List Float → Record
  | [], xs => .num (xs.headD 0.0)
  | count :: rest, xs => .list ((Block.pieces (Block.volume rest) count xs).map (nested rest))

/-- A number as it is written; the special numbers have names. -/
def numberText (x : Float) : List Char :=
  match Decimal.view x with
  | .nan => "NaN".toList
  | .infinite negative => (if negative then "-Infinity" else "Infinity").toList
  | .finite _ => Decimal.shortest x

/-- An integer, unless it has too many digits to be written. -/
def writable (i : Int) : Except Error Int :=
  if isWritten i then .ok i else .error (.fault .unshowable)

/-- A key of an object; scalars are written as texts. -/
def keyOf (codes : String → List CodePoint) : Value → Except Error (List CodePoint)
  | .text s => .ok (codes s)
  | .int i => do return Text.codePoints (Value.intText (← writable i))
  | .num x => .ok (Text.codePoints (String.ofList (numberText x)))
  | .bool b => .ok (Text.codePoints (if b then "true" else "false"))
  | .null => .ok (Text.codePoints "null")
  | _ => .error (.fault .wrongKind)

/-- The levels that are left inside of a collection. -/
def enter : Nat → Except Error Nat
  | 0 => .error (.fault .deepDocument)
  | levels + 1 => .ok levels

/-- The levels that are taken to turn a block into lists, and to refuse a value with a reason. -/
def conversionLevels : Nat := 2
def refusalLevels : Nat := 4

/-- How deep the lists are nested that a block of a shape is turned into. -/
def depthOfShape : List Nat → Nat
  | [] => 0
  | 0 :: _ => 1
  | _ :: rest => depthOfShape rest + 1

/-- The record of a block, one level further in. -/
def ofBlock (levels : Nat) (b : Block Float) : Except Error Record :=
  if levels < conversionLevels ∨ levels < depthOfShape b.shape + 1 then
    .error (.fault .deepDocument)
  else .ok (nested b.shape b.entries)

/-- A value of a kind that has no record. -/
def refuse (levels : Nat) (kind : String) : Except Error Record :=
  if levels < refusalLevels then .error (.fault .deepDocument) else .error (.unserialisable kind)

mutual

/-- The record of a value; sets, octets and dates have none, nor has what contains itself. -/
def ofValue (codes : String → List CodePoint) (levels : Nat) : Value → Except Error Record
  | .null => .ok .null
  | .bool b => .ok (.bool b)
  | .int i => do return .int (← writable i)
  | .num x => .ok (.num x)
  | .text s => .ok (.text (codes s))
  | .list items => do return .list (← ofItems codes (← enter levels) items)
  | .tuple items => do return .list (← ofItems codes (← enter levels) items)
  | .map entries => do return .object (← ofEntries codes (← enter levels) entries)
  | .set _ => refuse levels "set"
  | .block b => ofBlock levels b
  | .octets _ => refuse levels "bytes"
  | .date _ => refuse levels "datetime.date"
  | .stamp _ => refuse levels "datetime.datetime"
  | .knot _ v => ofValue codes levels v
  | .back _ => do
    discard (enter levels)
    throw (.fault .circular)

/-- The records of the items of a list. -/
def ofItems (codes : String → List CodePoint) (levels : Nat) :
    List Value → Except Error (List Record)
  | [] => .ok []
  | v :: rest => do
    let r ← ofValue codes levels v
    return r :: (← ofItems codes levels rest)

/-- The records of the entries of a mapping. -/
def ofEntries (codes : String → List CodePoint) (levels : Nat) :
    List (Value × Value) → Except Error (List (List CodePoint × Record))
  | [] => .ok []
  | (k, v) :: rest => do
    let key ← keyOf codes k
    let r ← ofValue codes levels v
    return (key, r) :: (← ofEntries codes levels rest)

end

/-- The record of a value. -/
def Reading.record (reading : Reading) (v : Value) : Except Error Record :=
  ofValue reading.codes reading.levels v

/-- An escaped unit of sixteen bits. -/
def escapedUnit (n : Nat) : List Char := '\\' :: 'u' :: Text.hex 4 n

/-- A code point as it is written inside quotes; one beyond sixteen bits is two units. -/
def escaped (code : CodePoint) : List Char :=
  let n := code.val
  if n = 0x22 then ['\\', '"']
  else if n = 0x5C then ['\\', '\\']
  else if n = 10 then ['\\', 'n']
  else if n = 13 then ['\\', 'r']
  else if n = 9 then ['\\', 't']
  else if n = 8 then ['\\', 'b']
  else if n = 12 then ['\\', 'f']
  else if 0x20 ≤ n ∧ n < 0x7F then [Char.ofNat n]
  else if n < 0x10000 then escapedUnit n
  else
    let k := n - 0x10000
    escapedUnit (0xD800 + k / 0x400) ++ escapedUnit (0xDC00 + k % 0x400)

/-- A text between quotes. -/
def textForm (codes : List CodePoint) : List Char := '"' :: codes.flatMap escaped ++ ['"']

mutual

/-- The record on one line. -/
def line : Record → List Char
  | .null => "null".toList
  | .bool b => (if b then "true" else "false").toList
  | .int i => Text.integer i
  | .num x => numberText x
  | .text s => textForm s
  | .list items => '[' :: lineItems items ++ [']']
  | .object entries => '\x7b' :: lineEntries entries ++ ['\x7d']

/-- Items separated by commas. -/
def lineItems : List Record → List Char
  | [] => []
  | [r] => line r
  | r :: rest => line r ++ ',' :: ' ' :: lineItems rest

/-- Entries separated by commas. -/
def lineEntries : List (List CodePoint × Record) → List Char
  | [] => []
  | [(k, r)] => textForm k ++ ':' :: ' ' :: line r
  | (k, r) :: rest => textForm k ++ ':' :: ' ' :: line r ++ ',' :: ' ' :: lineEntries rest

end

/-- The start of a line at a depth of nesting. -/
def newLine (depth : Nat) : List Char := '\n' :: List.replicate (2 * depth) ' '

mutual

/-- The record with one item per line, `depth` levels deep. -/
def indented (depth : Nat) : Record → List Char
  | .null => "null".toList
  | .bool b => (if b then "true" else "false").toList
  | .int i => Text.integer i
  | .num x => numberText x
  | .text s => textForm s
  | .list [] => "[]".toList
  | .list (r :: rest) =>
    '[' :: newLine (depth + 1) ++ indented (depth + 1) r ++ indentedItems (depth + 1) rest
      ++ newLine depth ++ [']']
  | .object [] => ['\x7b', '\x7d']
  | .object ((k, r) :: rest) =>
    '\x7b' :: newLine (depth + 1) ++ textForm k ++ ':' :: ' ' :: indented (depth + 1) r
      ++ indentedEntries (depth + 1) rest ++ newLine depth ++ ['\x7d']

/-- The items after the first, each after a comma on a line of its own. -/
def indentedItems (depth : Nat) : List Record → List Char
  | [] => []
  | r :: rest => ',' :: newLine depth ++ indented depth r ++ indentedItems depth rest

/-- The entries after the first, each after a comma on a line of its own. -/
def indentedEntries (depth : Nat) : List (List CodePoint × Record) → List Char
  | [] => []
  | (k, r) :: rest =>
    ',' :: newLine depth ++ textForm k ++ ':' :: ' ' :: indented depth r
      ++ indentedEntries depth rest

end

end Record

end ProductionLP
