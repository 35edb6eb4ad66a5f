import ProductionLP.Yaml.PlainText
import ProductionLP.Text.Quoted

/- Quoted scalars.

   Between single quotes a quote is written twice and nothing else is special. Between double
   quotes a backslash begins an escape. Line ends count as in plain scalars; a backslash at
   the end of a line joins it to the next. -/
namespace ProductionLP.Yaml

/-- The line ends that follow one inside quotes, with the blanks around them dropped. -/
def quotedBreaks : Nat → Cursor → Except Fault (List Char × Cursor)
  | 0, _ => .error .document
  | fuel + 1, c =>
    if c.atMarker then .error .document
    else
      let c := c.skipWhile isGap
      match c.lineBreak? with
      | none => .ok ([], c)
      | some (b, c) => do
        let (more, c) ← quotedBreaks fuel c
        return (b :: more, c)

/-- The escapes of one letter. -/
def simpleEscapes : List (Char × Nat) := [('0', 0), ('a', 7), ('b', 8), ('t', 9), ('\t', 9),
  ('n', 10), ('v', 11), ('f', 12), ('r', 13), ('e', 27), (' ', 32), ('"', 34), ('\\', 92),
  ('/', 47), ('N', 0x85), ('_', 0xA0), ('L', 0x2028), ('P', 0x2029)]

/-- The number of hexadecimal digits behind an escape letter. -/
def codeDigits? (c : Char) : Option Nat :=
  if c = 'x' then some 2 else if c = 'u' then some 4 else if c = 'U' then some 8 else none

/-- The character with a code. -/
def charOfCode (code : Nat) : Except Fault Char :=
  if code < 0x110000 then .ok (Text.charOf code)
  else if code < Nat.pow 2 31 then .error .noCharacter
  else .error .tooLarge

/-- The escape behind a backslash. -/
def readEscape (c : Cursor) : Except Fault (List Char × Cursor) :=
  match c.peek 0 with
  | none => .error .document
  | some ch =>
    match simpleEscapes.lookup ch, codeDigits? ch with
    | some code, _ => .ok ([Char.ofNat code], c.forward)
    | none, some count => do
      let (code, c) ← readHex count c.forward
      return ([← charOfCode code], c)
    | none, none =>
      match c.lineBreak? with
      | some (_, c) => quotedBreaks (c.rest.length + 1) c
      | none => .error .document

/-- The characters inside quotes up to a blank, a line end or the closing quote. -/
def quotedRun (double : Bool) : Nat → Cursor → Except Fault (List Char × Cursor)
  | 0, _ => .error .document
  | fuel + 1, c =>
    match c.peek 0 with
    | none => .ok ([], c)
    | some ch =>
      if isWhite ch then .ok ([], c)
      else if ch = '\\' && double then do
        let (piece, c) ← readEscape c.forward
        let (more, c) ← quotedRun double fuel c
        return (piece ++ more, c)
      else if ch = Text.singleQuote && !double && c.peek 1 == some Text.singleQuote then do
        let (more, c) ← quotedRun double fuel (c.skip 2)
        return (ch :: more, c)
      else if ch = (if double then '"' else Text.singleQuote) then .ok ([], c)
      else do
        let (more, c) ← quotedRun double fuel c.forward
        return (ch :: more, c)

/-- The blanks and line ends between two parts of a quoted scalar. -/
def quotedGap (c : Cursor) : Except Fault (List Char × Cursor) :=
  let (blanks, c) := c.span isGap
  match c.rest with
  | [] => .error .document
  | _ =>
    match c.lineBreak? with
    | none => .ok (blanks, c)
    | some (first, c) => do
      let (others, c) ← quotedBreaks (c.rest.length + 1) c
      return (foldedBreaks first others, c)

/-- The parts of a quoted scalar up to its closing quote. -/
def quotedParts (double : Bool) : Nat → Cursor → Except Fault (List Char × Cursor)
  | 0, _ => .error .document
  | fuel + 1, c => do
    let (run, c) ← quotedRun double (c.rest.length + 1) c
    if c.isAt (· == if double then '"' else Text.singleQuote) then return (run, c.forward)
    let (gap, c) ← quotedGap c
    let (more, c) ← quotedParts double fuel c
    return (run ++ gap ++ more, c)

/-- Reads a quoted scalar from behind its opening quote. -/
def readQuoted (double : Bool) (c : Cursor) : Except Fault (List Char × Cursor) :=
  quotedParts double (c.rest.length + 1) c

end ProductionLP.Yaml
