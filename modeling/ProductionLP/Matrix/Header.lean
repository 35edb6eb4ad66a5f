import ProductionLP.Block
import ProductionLP.Matrix.Layout

/- Headers of binary matrices.

   The header is a literal that says how the entries of a binary matrix are laid out: a mapping
   with a layout, an order of the axes and a shape. The lengths of integers may be marked by a
   letter, as older programs did; a header that is no literal is read again without these
   marks. -/
namespace ProductionLP.Matrix

/-- How the entries of a binary matrix are laid out. -/
structure Header where
  layout : Layout
  /-- Whether the first axis runs fastest. -/
  columnsFirst : Bool
  /-- The lengths of the axes, integers or truth values. -/
  axes : List Value

namespace Header

/-- The complaint about a header. -/
def complaint {α : Type} (what : String) (v : Value) : Except Fault α :=
  .error (.binaryMatrix (what ++ ": " ++ v.quoted))

/-- The complaint about a header that is no literal. -/
def unreadable {α : Type} (text : List Char) : Except Fault α :=
  complaint "Cannot parse header" (.text (String.ofList text))

/-- The value of a header; marks of long integers are passed over where `marks` allows it. -/
def literal (marks : Bool) (text : List Char) : Except Fault Value :=
  match Literal.ofText? text with
  | some v => v
  | none =>
    let words := Words.ofText text
    if !marks then unreadable text
    else if !Words.isEven [0] 0 true words.pieces then .error .unevenHeader
    else if words.isOpen || words.openBrackets ≠ 0 then .error .openHeader
    else
      let plain := words.plainText
      (Literal.ofText? plain).getD (unreadable plain)

/-- The names of the fields. -/
def names : List String := ["descr", "fortran_order", "shape"]

/-- Whether one key comes before another one in order, if they can be compared. -/
def before? (a b : Value) : Option Bool :=
  match a, b with
  | .text s, .text t => some (decide (s < t))
  | .octets s, .octets t => some (decide (s < t))
  | a, b =>
    match a.numeric?, b.numeric? with
    | some (.int i), some (.int j) => some (decide (i < j))
    | some _, some _ =>
      match a.toFloat, b.toFloat with
      | .ok x, .ok y => some (decide (x < y))
      | _, _ => none
    | _, _ => none

/-- A key put into its place among sorted keys. -/
def place (key : Value) : List Value → Except Fault (List Value)
  | [] => .ok [key]
  | k :: rest =>
    match before? key k with
    | none => .error .wrongKind
    | some true => .ok (key :: k :: rest)
    | some false => do return k :: (← place key rest)

/-- Keys in order; keys that cannot be compared have none. -/
def sorted (keys : List Value) : Except Fault (List Value) :=
  keys.foldlM (fun done key => place key done) []

/-- The length of an axis is an integer; truth values are taken for one here. -/
def isAxis : Value → Bool
  | .int _ => true
  | .bool _ => true
  | _ => false

/-- The layout that a header describes. -/
def layoutOf (v : Value) : Except Fault Layout :=
  match Layout.ofValue 256 v with
  | .error .wrongKind => complaint "descr is not a valid dtype descriptor" v
  | r => r

/-- The header that a value is: exactly the three fields. -/
def ofValue (v : Value) : Except Fault Header := do
  match v with
  | .map entries =>
    match entries.length, names.map fun n => Value.lookup n entries with
    | 3, [some layout, some order, some shape] =>
      match shape, order with
      | .tuple axes, .bool columnsFirst =>
        if axes.all isAxis then return ⟨← layoutOf layout, columnsFirst, axes⟩
        else complaint "shape is not valid" shape
      | .tuple axes, order =>
        if axes.all isAxis then complaint "fortran_order is not a valid bool" order
        else complaint "shape is not valid" shape
      | shape, _ => complaint "shape is not valid" shape
    | _, _ =>
      complaint "Header does not contain the correct keys"
        (.list (← sorted (entries.map Prod.fst)))
  | v => complaint "Header is not a dictionary" v

/-- The most characters of a header. -/
def longest : Nat := 10000

/-- The header that a text holds. -/
def ofText (marks : Bool) (text : List Char) : Except Fault Header := do
  if longest < text.length then
    throw (.binaryMatrix ("Header info length (" ++ toString text.length
      ++ ") is large and may not be safe to load securely.\n"
      ++ "To allow loading, adjust \x60max_header_size\x60 or fully trust the \x60.npy\x60 "
      ++ "file using \x60allow_pickle=True\x60.\nFor safety against large resource use or "
      ++ "crashes, sandboxing may be necessary."))
  ofValue (← literal marks text)

/-! Shapes. -/

/-- A number as a signed word of 64 bits keeps it. -/
def asWord (i : Int) : Int := Int.bmod i (Nat.pow 2 64)

/-- The length of an axis as a number. -/
def lengthOf : Value → Int
  | .int i => i
  | .bool true => 1
  | _ => 0

/-- The number of entries that the axes ask for. -/
def count (h : Header) : Int :=
  h.axes.foldl (fun n v => asWord (n * asWord (lengthOf v))) 1

/-- The product of the lengths that are known. -/
def knownVolume (lengths : List Int) : Nat :=
  Block.volume ((lengths.filter (0 ≤ ·)).map Int.toNat)

/-- The shape of a number of entries; one axis may be left to be found. -/
def shapeFor (h : Header) (size : Nat) : Except Fault (List Nat) := do
  let lengths := h.axes.map lengthOf
  if !h.axes.all (fun v => v matches .int _) then throw .wrongKind
  if Value.mostAxes < lengths.length then throw .deepArray
  if lengths.any (fun n => Int.ofNat Block.lengthEnd ≤ n) then throw .longAxis
  let known := knownVolume lengths
  let shown := if h.columnsFirst then lengths.reverse else lengths
  match lengths.filter (· < 0) with
  | [] =>
    if known = size then return lengths.map Int.toNat else throw (.unfilled size shown)
  | [_] =>
    if known = 0 || size % known ≠ 0 then throw (.unfilled size shown)
    return lengths.map fun n => if n < 0 then size / known else n.toNat
  | _ => throw (.binaryMatrix "can only specify one unknown dimension")

end Header

end ProductionLP.Matrix
