import ProductionLP.Matrix.Literal.Word
import ProductionLP.Value.Convert
import ProductionLP.Value.Shown

/- Literals.

   A literal writes a value down: texts and octets in quotes, numbers, truth values, nothing,
   and tuples, lists, sets and mappings of literals. It may go over several lines inside of
   brackets and hold comments. What only looks like a literal, and what is indented at its
   beginning, is none. -/
namespace ProductionLP.Matrix.Literal

open Text (small ofDigits)

/-! Numbers. -/

/-- A number of a literal. -/
inductive Number where
  | whole (i : Int)
  | real (x : Float)
  | imaginary (x : Float)

/-- The value of a digit of any base. -/
def digitValue (c : Char) : Nat :=
  let d := small c
  if Word.isDigit d then d.toNat - 48 else d.toNat - 87

/-- Digits of a base as a number. -/
def digitsIn (base : Nat) (s : List Char) : Int :=
  (ofDigits base ((s.filter (· != '_')).map digitValue) : Nat)

/-- A number in decimal, without underscores. -/
def decimal? (s : List Char) : Option Number :=
  if s.any Word.isImaginary then (Decimal.readFloat? s.dropLast).map .imaginary
  else if s.all Word.isDigit then
    if mostDigits < s.length then none else some (.whole (digitsIn 10 s))
  else (Decimal.readFloat? s).map .real

/-- The base that a letter behind a zero names. -/
def baseOf? (letter : Char) : Option Nat :=
  let l := small letter
  if l = 'x' then some 16 else if l = 'o' then some 8 else if l = 'b' then some 2 else none

/-- The number that a word spells. -/
def number? (s : List Char) : Option Number :=
  match s with
  | '0' :: letter :: rest =>
    match baseOf? letter with
    | some base => some (.whole (digitsIn base rest))
    | none => decimal? (s.filter (· != '_'))
  | _ => decimal? (s.filter (· != '_'))

/-- A part of a complex number, without a point if it is whole. -/
def partText (x : Float) : String :=
  let s := (Value.numText x).toList
  String.ofList (if s.reverse.take 2 == ['0', '.'] then s.dropLast.dropLast else s)

/-- A complex number as it is quoted. -/
def complexText (re im : Float) : String :=
  if re.toBits = 0 then partText im ++ "j"
  else
    let sign := if (partText im).startsWith "-" then "" else "+"
    "(" ++ partText re ++ sign ++ partText im ++ "j)"

/-- The value of a number behind a sign. -/
def Number.value (negative : Bool) : Number → Value
  | .whole i => .int (if negative then -i else i)
  | .real x => .num (if negative then -x else x)
  | .imaginary x => .stamp (if negative then complexText (-0.0) (-x) else complexText 0.0 x)

/-- A number that is not imaginary, as a double. -/
def Number.real? (negative : Bool) : Number → Option Float
  | .whole i => (Value.floatOfInt i).toOption.map fun x => if negative then -x else x
  | .real x => some (if negative then -x else x)
  | .imaginary _ => none

/-! Texts. -/

/-- The codes of escapes of one letter. -/
def simpleEscapes : List (Char × Nat) := [('\\', 92), (Text.singleQuote, 39), ('"', 34),
  ('a', 7), ('b', 8), ('f', 12), ('n', 10), ('r', 13), ('t', 9), ('v', 11)]

/-- The number of hexadecimal digits behind an escape letter; octets have only short ones. -/
def codeDigits? (octets : Bool) (c : Char) : Option Nat :=
  if c = 'x' then some 2
  else if octets then none
  else if c = 'u' then some 4
  else if c = 'U' then some 8
  else none

/-- The codes of the characters between quotes. A backslash that begins no escape stands for
    itself. -/
def codes (octets : Bool) : Nat → List Char → Option (List Nat)
  | 0, _ => none
  | _ + 1, [] => some []
  | fuel + 1, '\\' :: '\n' :: rest => codes octets fuel rest
  | fuel + 1, '\\' :: c :: rest =>
    let octal := ((c :: rest).take 3).takeWhile (Word.isDigitBelow 8)
    match simpleEscapes.lookup c, codeDigits? octets c with
    | some code, _ => (codes octets fuel rest).map (code :: ·)
    | none, some count =>
      let ds := rest.take count
      let code := (digitsIn 16 ds).toNat
      if ds.length = count && ds.all Word.isHexDigit && code < 0x110000 then
        (codes octets fuel (rest.drop count)).map (code :: ·)
      else none
    | none, none =>
      if !octal.isEmpty then
        let code := (digitsIn 8 octal).toNat
        (codes octets fuel ((c :: rest).drop octal.length)).map
          ((if octets then code % 256 else code) :: ·)
      else if c = 'N' && !octets then none
      else (codes octets fuel (c :: rest)).map (92 :: ·)
  | fuel + 1, c :: rest => (codes octets fuel rest).map (Text.codeOf c :: ·)

/-- The characters between the quotes of a quoted text, behind its opening quote. -/
def insideQuotes (s : List Char) : List Char :=
  match s with
  | q :: a :: b :: _ =>
    if a = q && b = q then (s.drop 3).take (s.length - 6) else (s.drop 1).take (s.length - 2)
  | _ => []

/-- Whether a quoted text writes octets, and the codes of its characters. Octets are written
    in ASCII; a text with parts to be filled in is no literal. -/
def quoted? (s : List Char) : Option (Bool × List Nat) :=
  let mark := (s.takeWhile fun c => !Word.isQuote c).map small
  let inside := insideQuotes (s.drop mark.length)
  let octets := mark.contains 'b'
  if mark.contains 'f' then none
  else if octets && inside.any (fun c => 0x80 ≤ c.toNat) then none
  else
    let cs := if mark.contains 'r' then some (inside.map Text.codeOf)
      else codes octets (inside.length + 1) inside
    cs.map fun cs => (octets, cs)

/-- The value of quoted texts that stand side by side; they must all be of one sort. -/
def joined? (parts : List (List Char)) : Option Value := do
  let read ← parts.mapM quoted?
  let cs := read.flatMap Prod.snd
  if read.all (fun p => p.1) then return .octets (cs.map Nat.toUInt8)
  else if read.any (fun p => p.1) then none
  else return .text (String.ofList (cs.map Text.charOf))

/-! Terms. -/

/-- The words that stand for a value. -/
def namedValue? (name : List Char) : Option Value :=
  if name = "True".toList then some (.bool true)
  else if name = "False".toList then some (.bool false)
  else if name = "None".toList then some .null
  else if name = "...".toList then some (.stamp "Ellipsis")
  else none

/-- The texts of the quoted words at the beginning, and the other words. -/
def spanQuoted : List Word → List (List Char) × List Word
  | .quoted t :: rest => let r := spanQuoted rest; (t :: r.1, r.2)
  | rest => ([], rest)

/-- A number behind a sign, and an imaginary number that is added to it if one follows. -/
def readNumber (negative : Bool) (t : List Char) (rest : List Word) :
    Option (Value × List Word) := do
  let n ← number? t
  match rest with
  | .sign op :: .number t' :: rest' =>
    if op = '+' ∨ op = '-' then
      match n.real? negative, ← number? t' with
      | some re, .imaginary x =>
        return (.stamp (complexText re (if op = '-' then 0.0 - x else x)), rest')
      | _, _ => none
    else return (n.value negative, rest)
  | _ => return (n.value negative, rest)

/-- A tuple, unless a single item stands in its brackets without a comma. -/
def inRound (items : List Value) (comma : Bool) : Value :=
  match items, comma with
  | [v], false => v
  | items, _ => .tuple items

mutual

/-- Reads a value and returns what follows it. -/
def read : Nat → List Word → Option (Value × List Word)
  | 0, _ => none
  | fuel + 1, ws =>
    match ws with
    | .number t :: rest => readNumber false t rest
    | .sign '-' :: .number t :: rest => readNumber true t rest
    | .sign '+' :: .number t :: rest => readNumber false t rest
    | .quoted t :: rest => do
      let (parts, rest) := spanQuoted rest
      return (← joined? (t :: parts), rest)
    | .name n :: rest =>
      match rest with
      | .sign '(' :: .sign ')' :: rest =>
        if n = "set".toList then some (.set [], rest) else none
      | _ => (namedValue? n).map fun v => (v, rest)
    | .sign '(' :: rest => do
      let (items, comma, rest) ← readItems ')' fuel rest
      return (inRound items comma, rest)
    | .sign '[' :: rest => do
      let (items, _, rest) ← readItems ']' fuel rest
      return (.list items, rest)
    | .sign '\x7b' :: .sign '\x7d' :: rest => some (.map [], rest)
    | .sign '\x7b' :: rest => do
      let (_, behind) ← read fuel rest
      if behind.head? = some (.sign ':') then
        let (entries, rest) ← readEntries fuel rest
        return (.map entries, rest)
      else
        let (items, _, rest) ← readItems '\x7d' fuel rest
        return (.set items, rest)
    | _ => none

/-- Items up to a closing bracket, and whether a comma stands before it. -/
def readItems (closing : Char) : Nat → List Word → Option (List Value × Bool × List Word)
  | 0, _ => none
  | fuel + 1, ws =>
    if ws.head? = some (.sign closing) then some ([], false, ws.tail)
    else do
      let (item, rest) ← read fuel ws
      match rest with
      | .sign ',' :: rest =>
        let (items, comma, rest) ← readItems closing fuel rest
        return (item :: items, items.isEmpty || comma, rest)
      | .sign c :: rest => if c = closing then return ([item], false, rest) else none
      | _ => none

/-- Entries up to the closing bracket. -/
def readEntries : Nat → List Word → Option (List (Value × Value) × List Word)
  | 0, _ => none
  | fuel + 1, ws =>
    match ws with
    | .sign '\x7d' :: rest => some ([], rest)
    | ws => do
      let (key, rest) ← read fuel ws
      match rest with
      | .sign ':' :: rest =>
        let (value, rest) ← read fuel rest
        match rest with
        | .sign ',' :: rest =>
          let (entries, rest) ← readEntries fuel rest
          return ((key, value) :: entries, rest)
        | .sign '\x7d' :: rest => return ([(key, value)], rest)
        | _ => none
      | _ => none

end

/-- The words that count: comments do not, nor do line ends inside of brackets. -/
def significant (depth : Int) : List Piece → List Word
  | [] => []
  | p :: rest =>
    match p.word with
    | .comment _ => significant depth rest
    | .lineEnd _ => if depth = 0 then p.word :: significant depth rest else significant depth rest
    | word => word :: significant (depth + Words.bracketStep word) rest

/-- A line end. -/
def isLineEnd : Word → Bool
  | .lineEnd _ => true
  | _ => false

/-- A comment or a line end. -/
def isSilent : Word → Bool
  | .comment _ => true
  | w => isLineEnd w

/-- The value in a line of words; commas outside of brackets make a tuple. -/
def readLine (ws : List Word) : Option Value := do
  let fuel := 2 * ws.length + 2
  let (v, rest) ← read fuel ws
  match rest with
  | .sign ',' :: _ =>
    let line := ws.takeWhile fun w => !isLineEnd w
    if (ws.drop line.length).all isLineEnd then
      let (items, _, rest) ← readItems ')' fuel (line ++ [.sign ')'])
      if rest.isEmpty then return .tuple items else none
    else none
  | rest => if rest.all isLineEnd then return v else none

/-! Keys. -/

mutual

/-- A value that can be a key or an item of a set. -/
def isKey : Value → Bool
  | .list _ => false
  | .map _ => false
  | .set _ => false
  | .tuple items => areKeys items
  | _ => true

/-- Whether all values can be keys. -/
def areKeys : List Value → Bool
  | [] => true
  | v :: rest => isKey v && areKeys rest

end

/-- Values without those that are the same as an earlier one. -/
def distinct (vs : List Value) : List Value :=
  (vs.foldl (fun m v => Value.insert v .null m) []).map Prod.fst

mutual

/-- The value with every key once; the last value of a key counts. -/
def settle : Value → Except Fault Value
  | .list items => do return .list (← settleItems items)
  | .tuple items => do return .tuple (← settleItems items)
  | .set items => do
    let items ← settleItems items
    if areKeys items then return .set (distinct items) else throw .wrongKind
  | .map entries => do
    let entries ← settleEntries entries
    if areKeys (entries.map Prod.fst) then
      return .map (entries.foldl (fun m e => Value.insert e.1 e.2 m) [])
    else throw .wrongKind
  | v => .ok v

/-- The items of a collection settled. -/
def settleItems : List Value → Except Fault (List Value)
  | [] => .ok []
  | v :: rest => do
    let v ← settle v
    return v :: (← settleItems rest)

/-- The entries of a mapping settled. -/
def settleEntries : List (Value × Value) → Except Fault (List (Value × Value))
  | [] => .ok []
  | (k, v) :: rest => do
    let k ← settle k
    let v ← settle v
    return (k, v) :: (← settleEntries rest)

end

/-- The words behind the blank lines and comments at the beginning, unless the first of them is
    indented. -/
def unindented? (pieces : List Piece) : Option (List Piece) :=
  match pieces.dropWhile fun p => isSilent p.word with
  | [] => none
  | p :: rest => if Words.columnBehind p.gap = 0 then some (p :: rest) else none

/-- The value that a text writes down; nothing when the text is no literal. -/
def ofText? (text : List Char) : Option (Except Fault Value) := do
  let words := Words.ofText ((Text.unifyLineEnds text).dropWhile fun c => c = ' ' || c = '\t')
  if words.isOpen then none
  else return settle (← readLine (significant 0 (← unindented? words.pieces)))

end ProductionLP.Matrix.Literal
