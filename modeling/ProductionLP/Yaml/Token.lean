import ProductionLP.Yaml.BlockText
import ProductionLP.Yaml.QuotedText
import ProductionLP.Yaml.Tag

/- Tokens of a document.

   Indentation opens and closes block collections, brackets open and close flow collections.
   Whether a scalar or a collection is a key shows only at the colon behind it, so each place
   where a key may have begun is remembered with the number of tokens before it; at the colon
   the key token is inserted there. Such a key must lie on one line and within 1024
   characters. -/
namespace ProductionLP.Yaml

/-- A token. -/
inductive Token where
  | directive (d : Directive)
  | documentStart
  | documentEnd
  | blockSequence
  | blockMapping
  | blockEnd
  | blockEntry
  | flowSequence
  | flowSequenceEnd
  | flowMapping
  | flowMappingEnd
  | flowEntry
  | key
  | value
  | alias (name : String)
  | anchor (name : String)
  | tag (handle : Option String) (name : String)
  | scalar (plain : Bool) (text : String)
  | streamEnd
  deriving Repr, DecidableEq

/-- A place where a key may have begun. -/
structure PossibleKey where
  /-- The brackets around it. -/
  depth : Nat
  /-- The number of tokens before it. -/
  number : Nat
  /-- Whether it can be nothing but a key. -/
  required : Bool
  index : Nat
  line : Nat
  column : Nat
  deriving Repr, DecidableEq

/-- The state of reading tokens. -/
structure Lexer where
  cursor : Cursor
  /-- The tokens read so far, the latest first. -/
  tokens : List Token
  /-- The number of brackets that are open. -/
  depth : Nat
  /-- The column of the innermost block collection, and those of the others; outside of all
      it is minus one. -/
  indent : Int
  outer : List Int
  /-- Whether a key may begin here. -/
  keyAllowed : Bool
  keys : List PossibleKey
  deriving Repr

namespace Lexer

/-- The beginning of a text. -/
def start (text : List Char) : Lexer := ⟨.start text, [], 0, -1, [], true, []⟩

/-- Whether brackets are open. -/
def inFlow (l : Lexer) : Bool := l.depth != 0

/-- One more token. -/
def emit (l : Lexer) (t : Token) : Lexer := { l with tokens := t :: l.tokens }

/-- One more token, and past a number of characters. -/
def emitPast (l : Lexer) (t : Token) (count : Nat) : Lexer :=
  { l with tokens := t :: l.tokens, cursor := l.cursor.skip count }

/-- A token inserted so that `number` tokens are before it. -/
def insertAt (l : Lexer) (number : Nat) (t : Token) : Lexer :=
  let later := l.tokens.length - number
  { l with tokens := l.tokens.take later ++ t :: l.tokens.drop later }

/-! Possible keys. -/

/-- A possible key that is too far back. -/
def isStale (l : Lexer) (k : PossibleKey) : Bool :=
  k.line != l.cursor.line || 1024 < l.cursor.index - k.index

/-- Gives up possible keys; one that is required must not be given up. -/
def dropKeys (l : Lexer) (p : PossibleKey → Bool) : Except Fault Lexer :=
  if l.keys.any (fun k => p k && k.required) then .error .document
  else .ok { l with keys := l.keys.filter fun k => !p k }

/-- Gives up the possible keys that are too far back. -/
def dropStale (l : Lexer) : Except Fault Lexer := l.dropKeys l.isStale

/-- Gives up the possible key inside the innermost brackets. -/
def dropKey (l : Lexer) : Except Fault Lexer := l.dropKeys fun k => k.depth == l.depth

/-- Remembers that a key may begin here. -/
def markKey (l : Lexer) : Except Fault Lexer :=
  if l.keyAllowed then do
    let required := !l.inFlow && l.indent == (l.cursor.column : Int)
    let c := l.cursor
    let l ← l.dropKey
    return { l with
      keys := ⟨l.depth, l.tokens.length, required, c.index, c.line, c.column⟩ :: l.keys }
  else .ok l

/-! Indentation. -/

/-- Closes the block collections that are indented deeper than a column. -/
def closeBlocks (column : Int) : List Int → Lexer → Lexer
  | [], l => l
  | parent :: outer, l =>
    if column < l.indent then
      closeBlocks column outer { l.emit .blockEnd with indent := parent, outer := outer }
    else l

/-- Closes the block collections that end at a column; brackets keep them open. -/
def unwind (l : Lexer) (column : Int) : Lexer :=
  if l.inFlow then l else closeBlocks column l.outer l

/-- Whether a column is deeper than the innermost block collection. -/
def isDeeper (l : Lexer) (column : Nat) : Bool := decide (l.indent < (column : Int))

/-- The state inside a new block collection at a column. -/
def enter (l : Lexer) (column : Nat) : Lexer :=
  { l with indent := column, outer := l.indent :: l.outer }

/-- Opens a block collection here when this is deeper; no key or entry may stand here
    otherwise than at the beginning of a line. -/
def openBlock (l : Lexer) (t : Token) : Except Fault Lexer :=
  if l.inFlow then .ok l
  else if !l.keyAllowed then .error .document
  else
    let column := l.cursor.column
    .ok (if l.isDeeper column then (l.enter column).emit t else l)

/-! Tokens one by one. -/

/-- Past blanks, comments and line ends; behind a line end a key may begin. -/
def skipGaps : Nat → Lexer → Lexer
  | 0, l => l
  | fuel + 1, l =>
    let c := (l.cursor.skipWhile (· == ' ')).skipComment
    match c.lineBreak? with
    | none => { l with cursor := c }
    | some (_, c) =>
      skipGaps fuel { l with cursor := c, keyAllowed := l.keyAllowed || !l.inFlow }

/-- Past the order mark at the beginning of a document. -/
def skipMark (l : Lexer) : Lexer :=
  if l.cursor.index = 0 && l.cursor.isAt (· == orderMark) then
    { l with cursor := l.cursor.forward }
  else l

/-- Ends all blocks, as a directive or a marker does. -/
def leaveAll (l : Lexer) : Except Fault Lexer := do
  let l ← (l.unwind (-1)).dropKey
  return { l with keyAllowed := false }

/-- An opening bracket. -/
def openFlow (l : Lexer) (t : Token) : Except Fault Lexer := do
  let l ← l.markKey
  return { l.emitPast t 1 with depth := l.depth + 1, keyAllowed := true }

/-- A closing bracket. -/
def closeFlow (l : Lexer) (t : Token) : Except Fault Lexer := do
  let l ← l.dropKey
  return { l.emitPast t 1 with depth := l.depth - 1, keyAllowed := false }

/-- A comma. -/
def comma (l : Lexer) : Except Fault Lexer := do
  let l ← { l with keyAllowed := true }.dropKey
  return l.emitPast .flowEntry 1

/-- A dash that begins an item. -/
def dash (l : Lexer) : Except Fault Lexer := do
  let l ← l.openBlock .blockSequence
  let l ← { l with keyAllowed := true }.dropKey
  return l.emitPast .blockEntry 1

/-- A question mark that begins a key. -/
def question (l : Lexer) : Except Fault Lexer := do
  let l ← l.openBlock .blockMapping
  let l ← { l with keyAllowed := !l.inFlow }.dropKey
  return l.emitPast .key 1

/-- A colon. -/
def colon (l : Lexer) : Except Fault Lexer :=
  match l.keys.find? fun k => k.depth == l.depth with
  | some k =>
    let l := { l with keys := l.keys.filter fun k => k.depth != l.depth, keyAllowed := false }
    let l := l.insertAt k.number .key
    let l :=
      if !l.inFlow && l.isDeeper k.column then
        (l.enter k.column).insertAt k.number .blockMapping
      else l
    .ok (l.emitPast .value 1)
  | none => do
    let l ← l.openBlock .blockMapping
    let l ← { l with keyAllowed := !l.inFlow }.dropKey
    return l.emitPast .value 1

/-- A token that may begin a key and behind which no key may begin. -/
def leaf (l : Lexer) (read : Cursor → Except Fault (Token × Cursor)) : Except Fault Lexer := do
  let l ← l.markKey
  let (t, c) ← read l.cursor
  return { l.emit t with cursor := c, keyAllowed := false }

/-- A plain scalar; when it ends with a line, a key may begin behind it. -/
def plain (l : Lexer) : Except Fault Lexer := do
  let l ← l.markKey
  let p := readPlain l.inFlow (l.indent + 1).toNat l.cursor
  return { l.emit (.scalar true (String.ofList p.text)) with
    cursor := p.cursor, keyAllowed := p.crossed }

/-- A block scalar. -/
def block (l : Lexer) (folded : Bool) : Except Fault Lexer := do
  let l ← { l with keyAllowed := true }.dropKey
  let (text, c) ← readBlock folded (l.indent + 1).toNat l.cursor.forward
  return { l.emit (.scalar false (String.ofList text)) with cursor := c }

/-- A marker of a document's beginning or end. -/
def marker (l : Lexer) (t : Token) : Except Fault Lexer := do
  return (← l.leaveAll).emitPast t 3

/-- A directive. -/
def directive (l : Lexer) : Except Fault Lexer := do
  let l ← l.leaveAll
  let (d, c) ← readDirective l.cursor.forward
  return { l.emit (.directive d) with cursor := c }

/-- A plain scalar may begin here. -/
def startsPlain (l : Lexer) (c : Char) : Bool :=
  !(isWhite c || "-?:,[]\x7b\x7d#&*!|>'\"%@\x60".toList.contains c)
    || (!l.cursor.atEndOr isWhite 1 && (c = '-' || (!l.inFlow && (c = '?' || c = ':'))))

/-- The token that begins with the next character. -/
def step (l : Lexer) (c : Char) : Except Fault Lexer :=
  let lineStart := l.cursor.column = 0
  let alone := l.cursor.atEndOr isWhite 1
  if c = '%' && lineStart then l.directive
  else if lineStart && l.cursor.isMarker '-' then l.marker .documentStart
  else if lineStart && l.cursor.isMarker '.' then l.marker .documentEnd
  else if c = '[' then l.openFlow .flowSequence
  else if c = '\x7b' then l.openFlow .flowMapping
  else if c = ']' then l.closeFlow .flowSequenceEnd
  else if c = '\x7d' then l.closeFlow .flowMappingEnd
  else if c = ',' then l.comma
  else if c = '-' && alone then l.dash
  else if c = '?' && (l.inFlow || alone) then l.question
  else if c = ':' && (l.inFlow || alone) then l.colon
  else if c = '*' then
    l.leaf fun c => do
      let (name, c) ← readName c.forward
      return (.alias name, c)
  else if c = '&' then
    l.leaf fun c => do
      let (name, c) ← readName c.forward
      return (.anchor name, c)
  else if c = '!' then
    l.leaf fun c => do
      let (t, c) ← readTag c
      return (.tag t.1 t.2, c)
  else if c = '|' && !l.inFlow then l.block false
  else if c = '>' && !l.inFlow then l.block true
  else if c = Text.singleQuote || c = '"' then
    l.leaf fun cur => do
      let (text, cur) ← readQuoted (c = '"') cur.forward
      return (.scalar false (String.ofList text), cur)
  else if l.startsPlain c then l.plain
  else .error .document

/-- The end of the text: all blocks are closed. -/
def finish (l : Lexer) : Except Fault Lexer := do
  return (← (l.unwind (-1)).dropKey).emit .streamEnd

/-- Reads on: whether the end of the text is reached, and the state behind the next token. -/
def advance (l : Lexer) : Except Fault (Bool × Lexer) := do
  let l ← (l.skipMark.skipGaps (l.cursor.rest.length + 1)).dropStale
  let l := l.unwind l.cursor.column
  match l.cursor.peek 0 with
  | none => return (true, ← l.finish)
  | some c => return (false, ← l.step c)

end Lexer

/-- The tokens of a text up to where reading goes on no further, and the fault that one meets
    who asks for more. -/
structure Tokens where
  list : List Token
  stop : Fault
  deriving Repr, DecidableEq

namespace Lexer

/-- The number of tokens that are settled: a key token may still come before the others. -/
def settled (l : Lexer) : Nat :=
  ((l.keys.filter fun k => !l.isStale k).map PossibleKey.number).foldl min l.tokens.length

/-- Reads tokens to the end of the text or to the first fault. -/
def run : Nat → Lexer → Tokens
  | 0, l => ⟨l.tokens.reverse, .document⟩
  | fuel + 1, l =>
    match l.advance with
    | .error stop => ⟨l.tokens.reverse.take l.settled, stop⟩
    | .ok (true, l) => ⟨l.tokens.reverse, .document⟩
    | .ok (false, l) => run fuel l

end Lexer

/-- The tokens of a text. -/
def Tokens.ofText (text : List Char) : Tokens := Lexer.run (text.length + 2) (Lexer.start text)

end ProductionLP.Yaml
