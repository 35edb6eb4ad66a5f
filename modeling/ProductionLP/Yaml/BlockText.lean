import ProductionLP.Yaml.Cursor

/- Block scalars.

   A block scalar is a header on its own line and the indented lines below it. A bar keeps
   line ends; an angle joins lines that are not indented further. The header may say how
   deep the lines are indented and what happens to the line ends behind the last line. -/
namespace ProductionLP.Yaml

/-- What happens to the line ends behind a block scalar. -/
inductive Chomping where
  /-- One is kept. -/
  | clip
  /-- None is kept. -/
  | strip
  /-- All are kept. -/
  | keep
  deriving Repr, DecidableEq

/-- The chomping that a sign stands for. -/
def chomping? (c : Char) : Option Chomping :=
  if c = '+' then some .keep else if c = '-' then some .strip else none

/-- The depth that a digit stands for; zero is none. -/
def readDepth (c : Cursor) : Except Fault (Option Nat × Cursor) :=
  match c.peek 0 with
  | none => .ok (none, c)
  | some ch =>
    if '0' ≤ ch ∧ ch ≤ '9' then
      if ch = '0' then .error .document else .ok (some (ch.toNat - 48), c.forward)
    else .ok (none, c)

/-- The sign of a header, if one is next. -/
def readChomping (c : Cursor) : Option Chomping × Cursor :=
  match (c.peek 0).bind chomping? with
  | some k => (some k, c.forward)
  | none => (none, c)

/-- The sign and the depth of a header, in either order. -/
def readHeader (c : Cursor) : Except Fault (Chomping × Option Nat × Cursor) := do
  let (sign, c) := readChomping c
  let (depth, c) ← readDepth c
  let (late, c) := if sign.isNone && depth.isSome then readChomping c else (none, c)
  if c.atEndOr (fun ch => ch = ' ' || isBreak ch) 0 then
    return ((sign.or late).getD .clip, depth, c)
  else throw .document

/-- Blank lines before the first line of a block scalar, and the greatest indentation seen
    in them and in that line. -/
def leadingBreaks : Nat → Nat → Cursor → List Char × Nat × Cursor
  | 0, deepest, c => ([], deepest, c)
  | fuel + 1, deepest, c =>
    match c.lineBreak? with
    | some (b, c) =>
      let r := leadingBreaks fuel deepest c
      (b :: r.1, r.2)
    | none =>
      if c.isAt (· == ' ') then
        let c := c.forward
        leadingBreaks fuel (max deepest c.column) c
      else ([], deepest, c)

/-- Past blanks up to a column. -/
def indentTo : Nat → Nat → Cursor → Cursor
  | 0, _, c => c
  | fuel + 1, indent, c =>
    if c.column < indent && c.isAt (· == ' ') then indentTo fuel indent c.forward else c

/-- The blank lines from the beginning of a line on. -/
def blankLines (indent : Nat) : Nat → Cursor → List Char × Cursor
  | 0, c => ([], c)
  | fuel + 1, c =>
    let c := indentTo indent indent c
    match c.lineBreak? with
    | none => ([], c)
    | some (b, c) =>
      let r := blankLines indent fuel c
      (b :: r.1, r.2)

/-- What joins a line to the next one. -/
def joint (folded : Bool) (firstIsBlank nextIsBlank : Bool) (lineEnd : List Char)
    (breaks : List Char) : List Char :=
  if folded && lineEnd == ['\n'] && !firstIsBlank && !nextIsBlank then
    if breaks.isEmpty then [' '] else []
  else lineEnd

/-- The lines of a block scalar, its last line end, and the line ends behind that. -/
def blockLines (folded : Bool) (indent : Nat) :
    Nat → Cursor → (breaks : List Char) → List Char × List Char × List Char × Cursor
  | 0, c, breaks => ([], [], breaks, c)
  | fuel + 1, c, breaks =>
    let firstIsBlank := c.isAt isGap
    let (line, c) := c.span (fun ch => !isBreak ch)
    let (lineEnd, c) := match c.lineBreak? with
      | some (b, c) => ([b], c)
      | none => ([], c)
    let (next, c) := blankLines indent (c.rest.length + 1) c
    if c.column = indent && !c.rest.isEmpty then
      let (text, lastEnd, behind, c') := blockLines folded indent fuel c next
      (breaks ++ line ++ joint folded firstIsBlank (c.isAt isGap) lineEnd next ++ text,
        lastEnd, behind, c')
    else (breaks ++ line, lineEnd, next, c)

/-- Reads a block scalar from behind its indicator; `parent` is the indentation of the
    collection that it stands in, one more than the column of its items. -/
def readBlock (folded : Bool) (parent : Nat) (c : Cursor) : Except Fault (List Char × Cursor) := do
  let (chomping, depth, c) ← readHeader c
  let c ← c.endLine
  let least := max 1 parent
  let (breaks, indent, c) := match depth with
    | none =>
      let (breaks, deepest, c) := leadingBreaks c.rest.length 0 c
      (breaks, max least deepest, c)
    | some d =>
      let indent := least + d - 1
      let (breaks, c) := blankLines indent (c.rest.length + 1) c
      (breaks, indent, c)
  let (text, lastEnd, behind, c) :=
    if c.column = indent && !c.rest.isEmpty then
      blockLines folded indent (c.rest.length + 1) c breaks
    else ([], [], breaks, c)
  return (match chomping with
    | .strip => text
    | .clip => text ++ lastEnd
    | .keep => text ++ lastEnd ++ behind, c)

end ProductionLP.Yaml
