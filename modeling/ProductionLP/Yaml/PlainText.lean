import ProductionLP.Yaml.Cursor

/- Plain scalars.

   A plain scalar has no quotes. It ends before a colon that a blank follows, before a
   comment, and inside brackets before any of the characters that brackets need. It may go
   on over several lines as long as these are indented; a single line end counts as a blank
   and every further one as itself. -/
namespace ProductionLP.Yaml

/-- The characters that separate the items of a collection in brackets. -/
def isBracket (c : Char) : Bool :=
  c = ',' || c = '[' || c = ']' || c = '\x7b' || c = '\x7d'

/-- A colon ends a plain scalar when this follows. -/
def endsColon (flow : Bool) : List Char → Bool
  | [] => true
  | c :: _ => isWhite c || (flow && isBracket c)

/-- The characters of a plain scalar up to the next blank or to its end. -/
def plainRun (flow : Bool) : List Char → List Char
  | [] => []
  | c :: rest =>
    if isWhite c || (c = ':' && endsColon flow rest) || (flow && (isBracket c || c = '?')) then []
    else c :: plainRun flow rest

/-- The further line ends after one, up to a character that is neither a blank nor a line
    end; nothing when a marker of the document comes first. -/
def plainBreaks : Nat → Cursor → List Char → Option (List Char) × Cursor
  | 0, c, breaks => (some breaks, c)
  | fuel + 1, c, breaks =>
    if c.isAt (· == ' ') then plainBreaks fuel c.forward breaks
    else
      match c.lineBreak? with
      | none => (some breaks, c)
      | some (b, c) =>
        if c.atMarker then (none, c) else plainBreaks fuel c (breaks ++ [b])

/-- What line ends count as inside a scalar: the first is a blank unless others follow. -/
def foldedBreaks (first : Char) (others : List Char) : List Char :=
  if first ≠ '\n' then first :: others
  else if others.isEmpty then [' '] else others

/-- The blanks between two parts of a plain scalar, and whether they cross a line end. -/
def plainGap (c : Cursor) : List Char × Bool × Cursor :=
  let (blanks, c) := c.span (· == ' ')
  match c.lineBreak? with
  | none => (blanks, false, c)
  | some (first, c) =>
    if c.atMarker then ([], true, c)
    else
      match plainBreaks c.rest.length c [] with
      | (none, c) => ([], true, c)
      | (some others, c) => (foldedBreaks first others, true, c)

/-- A plain scalar as read so far: its text, whether a line end was crossed behind it, and
    where it ends. -/
structure PlainText where
  text : List Char
  crossed : Bool
  cursor : Cursor

/-- Reads the parts of a plain scalar whose lines are indented at least by `indent`. -/
def plainParts (flow : Bool) (indent : Nat) : Nat → List Char → PlainText → PlainText
  | 0, _, p => p
  | fuel + 1, gap, p =>
    if p.cursor.isAt (· == '#') then p
    else
      match plainRun flow p.cursor.rest with
      | [] => p
      | run =>
        let (next, crossed, c) := plainGap (p.cursor.skip run.length)
        let p : PlainText := ⟨p.text ++ gap ++ run, crossed, c⟩
        if next.isEmpty || (!flow && c.column < indent) then p
        else plainParts flow indent fuel next p

/-- Reads a plain scalar. -/
def readPlain (flow : Bool) (indent : Nat) (c : Cursor) : PlainText :=
  plainParts flow indent (c.rest.length + 1) [] ⟨[], false, c⟩

end ProductionLP.Yaml
