import ProductionLP.Error
import ProductionLP.Files.Tree
import ProductionLP.Matrix.Binary

/- Matrix files.

   The suffix of a file says how its matrix is written, in binary or as a text. In a text
   matrix a line is a row and commas separate its fields. A number sign starts a comment, a line
   without any character is no row, and all rows have as many fields as the first. A single
   row or column is a vector where a vector is asked for. -/
namespace ProductionLP.Matrix

open Text

/-- The pieces of a text between separators. -/
def splitAt (separator : Char) : List Char → List (List Char)
  | [] => [[]]
  | c :: rest =>
    if c = separator then [] :: splitAt separator rest
    else
      match splitAt separator rest with
      | [] => [[c]]
      | p :: ps => (c :: p) :: ps

/-- A line up to its comment. -/
def withoutComment (line : List Char) : List Char := line.takeWhile (· != '#')

/-- The rows of a text as their fields. -/
def fieldRows (text : List Char) : List (List (List Char)) :=
  (((splitAt '\n' text).map withoutComment).filter fun l => !l.isEmpty).map (splitAt ',')

/-- How much of a field a message shows. -/
def shownField (field : List Char) : String := String.ofList ((quoted field).take 100)

/-- The numbers of a row; `row` counts from zero, columns count from one. -/
def readFields (row column : Nat) : List (List Char) → Except Fault (List Float)
  | [] => .ok []
  | field :: rest =>
    match Decimal.readFloat? (trim field) with
    | none => .error (.matrixField (shownField field) row column)
    | some x => do return x :: (← readFields row (column + 1) rest)

/-- The numbers of the rows from `row` on, each of which must have `width` fields. -/
def readRows (width row : Nat) : List (List (List Char)) → Except Fault (List (List Float))
  | [] => .ok []
  | fields :: rest =>
    if fields.length = width then do
      let xs ← readFields row 1 fields
      return xs :: (← readRows width (row + 1) rest)
    else .error (.matrixWidth width fields.length (row + 1))

/-- The rows of a text matrix. -/
def rowsOfText (text : List Char) : Except Fault (List (List Float)) :=
  let rows := fieldRows (unifyLineEnds text)
  readRows (rows.headD []).length 0 rows

/-- Rows as nested lists, a single row or column as a list. -/
def asVector (rows : List (List Float)) : Value :=
  match rows with
  | [row] => .ofFloats row
  | rows =>
    if rows.all (fun r => r.length == 1) then .ofFloats rows.flatten
    else .list (rows.map .ofFloats)

/-- Rows as nested lists. -/
def asRows (rows : List (List Float)) : Value := .list (rows.map .ofFloats)

/-- The text matrix in octets, as a vector where it is one, or always as rows. -/
def ofText (vector : Bool) (octets : List UInt8) : Except Fault Value := do
  let text ← (decodeUtf8 octets).mapError .notText
  let rows ← rowsOfText text
  return if vector then asVector rows else asRows rows

/-! Files. -/

/-- The matrix of a file, as a vector or as rows. -/
def ofFile (tree : FileTree) (vector : Bool) (path : Path) : Except Error Value := do
  if !(← tree.has path) then throw (.missingMatrix path.toText)
  if path.suffix = ".npy" then ofBinary vector (← tree.read path)
  else if path.suffix = ".csv" ∨ path.suffix = ".txt" then ofText vector (← tree.read path)
  else throw (.unsupportedMatrix path.toText)

end ProductionLP.Matrix
