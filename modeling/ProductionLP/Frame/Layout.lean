import ProductionLP.Decimal.Written
import ProductionLP.Frame.Basic
import ProductionLP.Value.Shown

/- The layout of frames as text.

   Every column is written on its own and justified to the right. A column of numbers is
   written with six decimal places, zeros that all of its numbers end in are dropped, and one
   place is always kept; when a number is very small, or a very large one makes the column
   wide, the whole column is written with an exponent. -/
namespace ProductionLP.Frame

/-- Decimal places of a number column. -/
def places : Nat := 6

/-- The widest number text that is still written without an exponent. -/
def widest : Nat := places + 6

/-- A blank in front of a number that has no sign, when the sign has a place of its own. -/
def signPlace (signed : Bool) (s : List Char) : List Char :=
  if signed && s.head? != some '-' then ' ' :: s else s

/-- A number in a column; an undefined one has no sign. -/
def numberText (signed : Bool) (form : Float → List Char) (x : Float) : List Char :=
  if x.isNaN then "NaN".toList else signPlace signed (form x)

/-- The zeros at the end of a text, counted up to the decimal places. -/
def trailingZeros (s : List Char) : Nat := min places (s.reverse.takeWhile (· == '0')).length

/-- The zeros that the finite numbers of a column all end in. -/
def commonZeros : List (Float × List Char) → Nat
  | [] => places
  | (x, s) :: rest =>
    if x.isFinite then min (trailingZeros s) (commonZeros rest) else commonZeros rest

/-- A number text without the common zeros, but with at least one decimal place. -/
def dropCommon (zeros : Nat) (entry : Float × List Char) : List Char :=
  if entry.1.isFinite then
    let s := entry.2.take (entry.2.length - zeros)
    if zeros = places then s ++ ['0'] else s
  else entry.2

/-- A column of numbers with fixed places. -/
def fixedColumn (signed : Bool) (xs : List Float) : List (List Char) :=
  let entries := xs.map fun x => (x, numberText signed (Decimal.fixed places) x)
  entries.map (dropCommon (commonZeros entries))

/-- A number too small for fixed places. -/
def tooSmall (x : Float) : Bool := 0.0 < x.abs && x.abs < 1e-6

/-- A number that may need an exponent. -/
def tooLarge (x : Float) : Bool := 1e6 < x.abs

/-- A column of numbers. -/
def numberColumn (signed : Bool) (xs : List Float) : List (List Char) :=
  let fixed := fixedColumn signed xs
  if xs.any tooSmall || (xs.any tooLarge && fixed.any (widest < ·.length)) then
    xs.map (numberText signed (Decimal.scientific places))
  else fixed

/-- An entry that is no number. -/
def cellText : Cell → List Char
  | .text s => s.toList
  | .int i => Text.integer i
  | .num x => Decimal.shortest x
  | .flag b => (Value.boolText b).toList
  | .value v => v.shown.toList

/-- The numbers of a column, when all of its entries are numbers. -/
def numbers? (cells : List Cell) : Option (List Float) :=
  cells.mapM fun c => match c with
    | .num x => some x
    | _ => none

/-- Whether the header of a column is set off by a blank. -/
def isWide (cells : List Cell) : Bool :=
  cells.all fun c => match c with
    | .text _ => false
    | .value _ => false
    | _ => true

/-- A text filled up with blanks on the left. -/
def justifyRight (width : Nat) (s : List Char) : List Char :=
  List.replicate (width - s.length) ' ' ++ s

/-- A text filled up with blanks on the right. -/
def justifyLeft (width : Nat) (s : List Char) : List Char :=
  s ++ List.replicate (width - s.length) ' '

/-- The greatest length of a list of texts. -/
def widthOf (texts : List (List Char)) : Nat := (texts.map List.length).foldl max 0

/-- A column with its header, justified. -/
def column (signed : Bool) (name : String) (cells : List Cell) : List (List Char) :=
  let header := if isWide cells then ' ' :: name.toList else name.toList
  let entries := match numbers? cells with
    | some xs => numberColumn signed xs
    | none => cells.map cellText
  let texts := header :: entries
  texts.map (justifyRight (widthOf texts))

/-- Column by column, the header and the entries of every row. -/
def columnTexts (signed : Bool) (f : Frame) : List (List (List Char)) :=
  f.columns.mapIdx fun j name => column signed name (f.rows.filterMap (·[j]?))

/-- The row labels under an empty header. -/
def indexTexts (f : Frame) : List (List Char) :=
  let texts := [] :: f.index.map cellText
  texts.map (justifyLeft (widthOf texts))

/-- The lines of columns side by side. -/
def joinColumns (height : Nat) (columns : List (List (List Char))) : List (List Char) :=
  (List.range height).map fun i => List.intercalate [' '] (columns.map fun c => c.getD i [])

/-- Lines as one text. -/
def joinLines (lines : List (List Char)) : String :=
  String.ofList (List.intercalate ['\n'] lines)

/-- The frame with its row labels. -/
def labelled (f : Frame) : String :=
  joinLines (joinColumns (f.rows.length + 1) (f.indexTexts :: f.columnTexts true))

/-- The frame without row labels. -/
def bare (f : Frame) : String :=
  joinLines (joinColumns (f.rows.length + 1) (f.columnTexts false))

end ProductionLP.Frame
