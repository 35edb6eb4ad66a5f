import ProductionLP.Text.Character
import ProductionLP.Text.Digit
import ProductionLP.Text.Quoted

/- Words of literals.

   A literal is written in words: numbers, names, quoted texts, signs, comments and line ends,
   with gaps between them. A backslash at the end of a line belongs to the gap. Cutting a text
   into words never fails, but a text can end inside of a quoted text of several lines or
   behind such a backslash; it is then open. -/
namespace ProductionLP.Matrix

/-- A word, with the characters that spell it. -/
inductive Word where
  | number (text : List Char)
  | name (text : List Char)
  /-- A quoted text with its quotes and what stands before them. -/
  | quoted (text : List Char)
  | sign (c : Char)
  | comment (text : List Char)
  | lineEnd (text : List Char)
  deriving Repr, DecidableEq

namespace Word

/-- The characters that spell a word. -/
def text : Word → List Char
  | .number t => t
  | .name t => t
  | .quoted t => t
  | .sign c => [c]
  | .comment t => t
  | .lineEnd t => t

/-! Numbers. -/

/-- An ASCII digit. -/
def isDigit (c : Char) : Bool := '0' ≤ c && c ≤ '9'

/-- A hexadecimal digit. -/
def isHexDigit (c : Char) : Bool :=
  let d := Text.small c
  isDigit c || ('a' ≤ d && d ≤ 'f')

/-- A digit of a base up to ten. -/
def isDigitBelow (base : Nat) (c : Char) : Bool := isDigit c && c.toNat - 48 < base

/-- The leading digits of a class, with single underscores before digits. -/
def digitRun (p : Char → Bool) : List Char → List Char
  | [] => []
  | c :: rest =>
    if p c then c :: digitRun p rest
    else if c = '_' && (rest.head?.map p).getD false then c :: digitRun p rest
    else []

/-- Leading digits that do not begin with an underscore. -/
def wholeText (s : List Char) : List Char :=
  if (s.head?.map isDigit).getD false then digitRun isDigit s else []

/-- An exponent at the beginning of a text. -/
def exponentText (s : List Char) : List Char :=
  match s with
  | e :: rest =>
    let sign := rest.takeWhile (fun c => c = '+' || c = '-')
    let digits := wholeText (rest.drop sign.length)
    if (e = 'e' || e = 'E') && sign.length ≤ 1 && !digits.isEmpty then e :: sign ++ digits else []
  | [] => []

/-- An integer at the beginning of a text; a zero is followed by zeros or by the letter of a
    base. -/
def integerText (s : List Char) : List Char :=
  let based := match s with
    | '0' :: letter :: rest =>
      let l := Text.small letter
      let p := if l = 'x' then isHexDigit else if l = 'o' then isDigitBelow 8
        else if l = 'b' then isDigitBelow 2 else fun _ => false
      match digitRun p rest with
      | [] => []
      | ds => '0' :: letter :: ds
    | _ => []
  if !based.isEmpty then based
  else if s.head? = some '0' then digitRun (· == '0') s
  else wholeText s

/-- The letter that makes a number imaginary. -/
def isImaginary (c : Char) : Bool := c = 'j' || c = 'J'

/-- A number at the beginning of a text. -/
def numberText (s : List Char) : List Char :=
  let whole := wholeText s
  let part := match s.drop whole.length with
    | '.' :: rest =>
      let digits := wholeText rest
      if whole.isEmpty && digits.isEmpty then [] else '.' :: digits
    | _ => []
  let base := whole ++ part
  if base.isEmpty then []
  else
    let long := base ++ exponentText (s.drop base.length)
    match s.drop long.length with
    | c :: _ =>
      if isImaginary c then long ++ [c]
      else if long.length = whole.length then integerText s else long
    | [] => if long.length = whole.length then integerText s else long

/-! Names and quoted texts. -/

/-- The beginning of a name. -/
def startsName (c : Char) : Bool :=
  let d := Text.small c
  ('a' ≤ d && d ≤ 'z') || c = '_' || 0x80 ≤ c.toNat

/-- A further character of a name. -/
def isNamePart (c : Char) : Bool := startsName c || isDigit c

/-- A quote of either kind. -/
def isQuote (c : Char) : Bool := c = '"' || c = Text.singleQuote

/-- What may stand before the opening quote, in small letters. -/
def quoteMarks : List String := ["", "r", "u", "b", "f", "br", "rb", "fr", "rf"]

/-- What stands before an opening quote, the quote, and what follows it. -/
def quoteStart? (s : List Char) : Option (List Char × Char × List Char) :=
  let mark := s.takeWhile fun c => !isQuote c
  match s.drop mark.length with
  | q :: rest =>
    if quoteMarks.contains (String.ofList (mark.map Text.small)) then some (mark, q, rest)
    else none
  | [] => none

/-- The characters up to a closing quote on the same line, with it. -/
def closeQuote (q : Char) : List Char → Option (List Char)
  | [] => none
  | '\n' :: _ => none
  | '\\' :: c :: rest => (closeQuote q rest).map ('\\' :: c :: ·)
  | c :: rest => if c = q then some [c] else (closeQuote q rest).map (c :: ·)

/-- The characters up to three closing quotes, with them. -/
def closeQuotes (q : Char) : List Char → Option (List Char)
  | [] => none
  | '\\' :: c :: rest => (closeQuotes q rest).map ('\\' :: c :: ·)
  | c :: rest =>
    if c = q && rest.take 2 == [q, q] then some [q, q, q]
    else (closeQuotes q rest).map (c :: ·)

/-- A quoted text at the beginning of a text; the second part says that three quotes open a
    text that has no end. -/
def quotedText (s : List Char) : List Char × Bool :=
  match quoteStart? s with
  | none => ([], false)
  | some (mark, q, rest) =>
    if rest.take 2 == [q, q] then
      match closeQuotes q (rest.drop 2) with
      | some body => (mark ++ [q, q, q] ++ body, false)
      | none => ([], true)
    else
      match closeQuote q rest with
      | some body => (mark ++ q :: body, false)
      | none => ([], false)

end Word

/-! Cutting a text into words. -/

/-- A word and the gap before it. -/
structure Piece where
  gap : List Char
  word : Word
  deriving Repr, DecidableEq

/-- A text cut into words. -/
structure Words where
  pieces : List Piece
  /-- The gap behind the last word. -/
  tail : List Char
  /-- Whether the text ends inside of something. -/
  isOpen : Bool
  deriving Repr, DecidableEq

namespace Words

/-- A blank between words. -/
def isBlank (c : Char) : Bool := c = ' ' || c = '\t' || c = Char.ofNat 12

/-- The gap at the beginning of a text. -/
def gapText : List Char → List Char
  | [] => []
  | '\\' :: '\n' :: rest => '\\' :: '\n' :: gapText rest
  | c :: rest => if isBlank c then c :: gapText rest else []

/-- The word at the beginning of a text that has no gap there. -/
def wordAt (s : List Char) : Option Word :=
  match s with
  | [] => none
  | c :: rest =>
    let quoted := (Word.quotedText s).1
    let number := Word.numberText s
    some
      (if c = '\n' then .lineEnd [c]
      else if c = '\r' && rest.head? = some '\n' then .lineEnd ['\r', '\n']
      else if c = '#' then .comment (s.takeWhile fun d => d != '\n' && d != '\r')
      else if !quoted.isEmpty then .quoted quoted
      else if !number.isEmpty then .number number
      else if s.take 3 == ['.', '.', '.'] then .name (s.take 3)
      else if Word.startsName c then .name (s.takeWhile Word.isNamePart)
      else .sign c)

/-- Cuts a text. -/
def cut : Nat → List Char → Words
  | 0, _ => ⟨[], [], false⟩
  | fuel + 1, s =>
    let gap := gapText s
    let s := s.drop gap.length
    match wordAt s with
    | none => ⟨[], gap, gap.getLast? = some '\n'⟩
    | some word =>
      if (Word.quotedText s).2 then ⟨[], gap, true⟩
      else
        let more := cut fuel (s.drop word.text.length)
        ⟨⟨gap, word⟩ :: more.pieces, more.tail, more.isOpen⟩

/-- The words of a text. -/
def ofText (s : List Char) : Words := cut (s.length + 1) s

/-- How a bracket changes the number of brackets that are open. -/
def bracketStep : Word → Int
  | .sign c =>
    if "([\x7b".toList.contains c then 1 else if ")]\x7d".toList.contains c then -1 else 0
  | _ => 0

/-- The number of brackets that stay open. -/
def openBrackets (w : Words) : Int :=
  (w.pieces.map fun p => bracketStep p.word).foldl (· + ·) 0

/-! Writing words again. -/

/-- A gap as it is written again: blanks are spaces, and those before the end of a line are
    dropped. -/
def plainGap (gap : List Char) : List Char :=
  let lines := gap.filter (· == '\n')
  let last := (gap.reverse.takeWhile (· != '\n')).length
  lines.flatMap (fun _ => ['\\', '\n']) ++ List.replicate last ' '

/-- The pieces without the marks of long integers: a mark is the letter behind a number, and
    spaces take its place. The gap so far is kept until a word follows. -/
def withoutLong (behind : Bool) (kept : List Char) : List Piece → List Piece × List Char
  | [] => ([], kept)
  | p :: rest =>
    if behind && p.word == .name ['L'] then withoutLong behind (kept ++ p.gap ++ [' ']) rest
    else
      let isNumber := match p.word with
        | .number _ => true
        | _ => false
      let more := withoutLong isNumber [] rest
      (⟨kept ++ p.gap, p.word⟩ :: more.1, more.2)

/-- The text without the marks of long integers, and without blanks on a last line of its
    own. -/
def plainText (w : Words) : List Char :=
  let (pieces, kept) := withoutLong false [] w.pieces
  let tail := match w.pieces.getLast?.map Piece.word with
    | none => []
    | some (.lineEnd _) => []
    | _ => plainGap (kept ++ w.tail)
  pieces.flatMap (fun p => plainGap p.gap ++ p.word.text) ++ tail

/-! Indentation. -/

/-- The column behind a gap: a tab goes on to a multiple of eight, a page feed goes back. -/
def columnBehind (gap : List Char) : Nat :=
  gap.foldl (fun n c => if c = '\t' then (n / 8 + 1) * 8 else if c = ' ' then n + 1 else 0) 0

/-- Whether the lines outside of brackets are indented evenly: a line that is indented less
    than the one before goes back to a column of an earlier line. -/
def isEven (columns : List Nat) (depth : Int) (lineStart : Bool) : List Piece → Bool
  | [] => true
  | p :: rest =>
    match p.word with
    | .comment _ => isEven columns depth lineStart rest
    | .lineEnd _ => isEven columns depth (depth == 0) rest
    | word =>
      let column := columnBehind p.gap
      let kept := columns.dropWhile (column < ·)
      if lineStart && kept.head? != some column && kept.length < columns.length then false
      else
        let columns := if !lineStart then columns
          else if kept.head? = some column then kept else column :: kept
        isEven columns (depth + bracketStep word) false rest

end Words

end ProductionLP.Matrix
