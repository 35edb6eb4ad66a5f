import ProductionLP.Fault

/- Places in a document.

   A document is read from left to right. A cursor is what is still to be read, together
   with the place that has been reached: how many characters, lines and columns lie before
   it. Line ends are unified before a document is read, so that a carriage return never
   occurs. -/
namespace ProductionLP.Yaml

/-- The line ends of a document. -/
def isBreak (c : Char) : Bool :=
  c = '\n' || c = Char.ofNat 0x85 || c = Char.ofNat 0x2028 || c = Char.ofNat 0x2029

/-- A blank within a line. -/
def isGap (c : Char) : Bool := c = ' ' || c = '\t'

/-- A blank or a line end. -/
def isWhite (c : Char) : Bool := isGap c || isBreak c

/-- The mark that a document may begin with to announce the order of its octets. -/
def orderMark : Char := Char.ofNat 0xFEFF

/-- What is still to be read and the place that has been reached. -/
structure Cursor where
  rest : List Char
  index : Nat
  line : Nat
  column : Nat
  deriving Repr, DecidableEq

namespace Cursor

/-- The beginning of a text. -/
def start (text : List Char) : Cursor := ⟨text, 0, 0, 0⟩

/-- The next character, or the one `k` places behind it. -/
def peek (c : Cursor) (k : Nat) : Option Char := c.rest[k]?

/-- Past one character. An order mark takes no column. -/
def forward (c : Cursor) : Cursor :=
  match c.rest with
  | [] => c
  | ch :: rest =>
    if isBreak ch then ⟨rest, c.index + 1, c.line + 1, 0⟩
    else ⟨rest, c.index + 1, c.line, if ch = orderMark then c.column else c.column + 1⟩

/-- Past a number of characters. -/
def skip : Nat → Cursor → Cursor
  | 0, c => c
  | n + 1, c => skip n c.forward

/-- The leading characters of a class, and the cursor past them. -/
def span (p : Char → Bool) (c : Cursor) : List Char × Cursor :=
  let taken := c.rest.takeWhile p
  (taken, c.skip taken.length)

/-- Past the leading characters of a class. -/
def skipWhile (p : Char → Bool) (c : Cursor) : Cursor := (c.span p).2

/-- The next character is of a class, or nothing is left. -/
def atEndOr (p : Char → Bool) (c : Cursor) (k : Nat) : Bool :=
  match c.peek k with
  | none => true
  | some ch => p ch

/-- The next character is of a class. -/
def isAt (p : Char → Bool) (c : Cursor) : Bool :=
  match c.peek 0 with
  | none => false
  | some ch => p ch

/-- The line end that is next, as it counts in a text, and the cursor past it. -/
def lineBreak? (c : Cursor) : Option (Char × Cursor) :=
  match c.peek 0 with
  | none => none
  | some ch =>
    if isBreak ch then
      some (if ch = Char.ofNat 0x85 then '\n' else ch, c.forward)
    else none

/-- Past a comment, if one is next. -/
def skipComment (c : Cursor) : Cursor :=
  if c.isAt (· == '#') then c.skipWhile (fun ch => !isBreak ch) else c

/-- Past the remaining blanks and the comment of a line, which must end there. -/
def endLine (c : Cursor) : Except Fault Cursor :=
  let c := (c.skipWhile (· == ' ')).skipComment
  match c.rest with
  | [] => .ok c
  | _ =>
    match c.lineBreak? with
    | some (_, c) => .ok c
    | none => .error .document

/-- Three given characters come next and end there: the marker of a document. -/
def isMarker (mark : Char) (c : Cursor) : Bool :=
  c.rest.take 3 == [mark, mark, mark] && c.atEndOr isWhite 3

/-- A marker of a document's beginning or end comes next. -/
def atMarker (c : Cursor) : Bool := c.isMarker '-' || c.isMarker '.'

end Cursor

/-- Letters, digits and the two joining characters of names. -/
def isNameChar (c : Char) : Bool :=
  ('0' ≤ c && c ≤ '9') || ('A' ≤ c && c ≤ 'Z') || ('a' ≤ c && c ≤ 'z') || c = '-' || c = '_'

/-- The value of a hexadecimal digit. -/
def hexDigit? (c : Char) : Option Nat :=
  if '0' ≤ c ∧ c ≤ '9' then some (c.toNat - 48)
  else if 'a' ≤ c ∧ c ≤ 'f' then some (c.toNat - 87)
  else if 'A' ≤ c ∧ c ≤ 'F' then some (c.toNat - 55)
  else none

/-- Exactly `count` hexadecimal digits as a number, and the cursor past them. -/
def readHex (count : Nat) (c : Cursor) : Except Fault (Nat × Cursor) :=
  match (c.rest.take count).mapM hexDigit? with
  | none => .error .document
  | some ds =>
    if ds.length = count then .ok (ds.foldl (fun n d => 16 * n + d) 0, c.skip count)
    else .error .document

end ProductionLP.Yaml
