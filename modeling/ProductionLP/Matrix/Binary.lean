import ProductionLP.Matrix.Archive

/- Binary matrices.

   A binary matrix is a magic word, a version, a header and the entries; the shape is filled
   with the last axis or with the first axis fastest. Octets behind the entries are not looked
   at. An archive of matrices is none. -/
namespace ProductionLP.Matrix

/-! Entries in their shape. -/

/-- The distance between neighbours along each axis, the last axis running fastest. -/
def rowStrides : List Nat → List Nat
  | [] => []
  | _ :: rest => Block.volume rest :: rowStrides rest

/-- The distance between neighbours along each axis, the first axis running fastest;
    `before` is the product of the axes already passed. -/
def columnStrides (before : Nat) : List Nat → List Nat
  | [] => []
  | n :: rest => before :: columnStrides (before * n) rest

/-- The nested lists of a shape; a place is the sum of its steps times their distances. -/
def nest (entries : Array Value) : List (Nat × Nat) → Nat → Value
  | [], at_ => (entries[at_]?).getD .null
  | (count, stride) :: rest, at_ =>
    .list ((List.range count).map fun i => nest entries rest (at_ + i * stride))

/-- Entries as the nested lists of a shape. -/
def shaped (columnsFirst : Bool) (shape : List Nat) (entries : List Value) : Value :=
  let strides := if columnsFirst then columnStrides 1 shape else rowStrides shape
  nest entries.toArray (shape.zip strides) 0

/-! Files. -/

/-- The word that a binary matrix begins with. -/
def magic : List UInt8 := [0x93, 0x4E, 0x55, 0x4D, 0x50, 0x59]

/-- The first `count` octets and the others, when there are enough. -/
def takeOctets (what : String) (count : Nat) (octets : List UInt8) :
    Except Fault (List UInt8 × List UInt8) :=
  let got := octets.take count
  if got.length = count then .ok (got, octets.drop count)
  else .error (.binaryMatrix ("EOF: reading " ++ what ++ ", expected " ++ toString count
    ++ " bytes got " ++ toString got.length))

/-- The number of octets that the length of the header takes in a version. -/
def lengthOctets? (major minor : Nat) : Option Nat :=
  if minor ≠ 0 then none
  else if major = 1 then some 2
  else if major = 2 ∨ major = 3 then some 4
  else none

/-- The characters of a header; from the third version on they are in UTF-8. -/
def headerText (major : Nat) (octets : List UInt8) : Except Fault (List Char) :=
  if major < 3 then .ok (octets.map fun b => Char.ofNat b.toNat)
  else (Text.decodeUtf8 octets).mapError .notText

/-- The header of a binary matrix and the octets behind it. -/
def readHeader (octets : List UInt8) : Except Fault (Header × List UInt8) := do
  let (start, rest) ← takeOctets "magic string" 8 octets
  let version := (start.drop 6).map UInt8.toNat
  let major := version.headD 0
  match lengthOctets? major (version.getLastD 0) with
  | none =>
    .error (.binaryMatrix ("we only support format version (1,0), (2,0), and (3,0), not "
      ++ shapeText (version.map Int.ofNat)))
  | some count =>
    let (size, rest) ← takeOctets "array header length" count rest
    let (text, rest) ← takeOctets "array header" (number size) rest
    return (← Header.ofText (major < 3) (← headerText major text), rest)

/-- The layouts of the single entries that an entry of an array consists of. -/
def innerLayout : Layout → Nat × Layout
  | .grid shape item =>
    let inner := innerLayout item
    (Block.volume shape * inner.1, inner.2)
  | l => (1, l)

/-- The number of entries that are read: as many as are there when the shape leaves it open. -/
def entryCount (wanted : Int) (size : Nat) (octets : List UInt8) : Except Fault Nat := do
  if size = 0 then
    if wanted < 0 then throw .negativeLength else return wanted.toNat
  else if wanted < 0 then return octets.length / size
  else if Block.lengthEnd ≤ wanted.toNat * size then throw .hugeArray
  else return min wanted.toNat (octets.length / size)

/-- The entries that a header describes, with their shape. -/
def readEntries (h : Header) (octets : List UInt8) : Except Fault (List Nat × Value) := do
  if h.layout.isForeign then
    throw (.binaryMatrix "Object arrays cannot be loaded when allow_pickle=False")
  let count ← entryCount h.count h.layout.size octets
  let (each, inner) := innerLayout h.layout
  let shape ← h.shapeFor (count * each)
  Block.checkShape inner.size shape
  let entries ← (chunks inner.size (count * each) octets).mapM fun o => inner.value o
  return (shape, shaped h.columnsFirst shape entries)

/-- The values of a binary matrix with its shape. -/
def readBinary (octets : List UInt8) : Except Fault (List Nat × Value) := do
  if octets.isEmpty then throw .emptyFile
  if Archive.isClaimed octets then
    throw (if Archive.isArchive octets then .noFields else .notArchive)
  if octets.take 6 ≠ magic then
    throw (.binaryMatrix
      "Cannot load file containing pickled data when allow_pickle=False")
  let (header, rest) ← readHeader octets
  readEntries header rest

/-- The binary matrix in octets; where rows are asked for, a vector is a single row. -/
def ofBinary (vector : Bool) (octets : List UInt8) : Except Fault Value := do
  let (shape, value) ← readBinary octets
  return if !vector && shape.length == 1 then .list [value] else value

end ProductionLP.Matrix
