import ProductionLP.Text.Character
import ProductionLP.Text.Digit

/- Reading numbers.

   A number is an optional sign and either digits with an optional point and an optional
   exponent, or one of the words for infinity and for an undefined number in any case.
   `readFloat?` reads exactly that. `floatOfText?` is what a configuration may hold: blanks
   around the number, digits of any script, and single underscores between digits. -/
namespace ProductionLP.Decimal

open Text (asciiDigit? digit? ofDigits small)

/-- The leading ASCII digits and what follows them. -/
def spanDigits : List Char → List Nat × List Char
  | [] => ([], [])
  | c :: rest =>
    match asciiDigit? c with
    | none => ([], c :: rest)
    | some d => let r := spanDigits rest; (d :: r.1, r.2)

/-- An optional sign: whether it is a minus, and the rest. -/
def takeSign : List Char → Bool × List Char
  | '-' :: rest => (true, rest)
  | '+' :: rest => (false, rest)
  | s => (false, s)

/-- The double nearest to `mantissa · 10 ^ exponent`; the powers of ten far outside the range
    of doubles are not computed. -/
def nearest (mantissa : Nat) (exponent : Int) : Float :=
  if mantissa = 0 then 0.0
  else
    let top := ((Text.digits mantissa).length : Int) + exponent
    if 400 < top then 1.0 / 0.0
    else if top < -400 then 0.0
    else if 0 ≤ exponent then Float.ofScientific mantissa false exponent.toNat
    else Float.ofScientific mantissa true (-exponent).toNat

/-- An optional exponent that ends the text. -/
def readExponent? : List Char → Option Int
  | [] => some 0
  | c :: rest =>
    if c = 'e' ∨ c = 'E' then
      let s := takeSign rest
      let ds := spanDigits s.2
      if ds.1.isEmpty || !ds.2.isEmpty then none
      else
        let n : Int := ofDigits 10 ds.1
        some (if s.1 then -n else n)
    else none

/-- Digits with an optional point and exponent, unsigned. -/
def readUnsigned? (s : List Char) : Option Float :=
  let whole := spanDigits s
  let part := match whole.2 with
    | '.' :: rest => spanDigits rest
    | rest => ([], rest)
  if whole.1.isEmpty && part.1.isEmpty then none
  else (readExponent? part.2).map fun e =>
    nearest (ofDigits 10 (whole.1 ++ part.1)) (e - part.1.length)

/-- A number written in ASCII, with nothing around it. -/
def readFloat? (s : List Char) : Option Float :=
  let signed := takeSign s
  let word := String.ofList (signed.2.map small)
  let magnitude :=
    if word = "inf" ∨ word = "infinity" then some (1.0 / 0.0)
    else if word = "nan" then some (0.0 / 0.0)
    else readUnsigned? signed.2
  magnitude.map fun x => if signed.1 then -x else x

/-- White space around numbers: every blank but the four separator controls. -/
def isNumberBlank (c : Char) : Bool := Text.isBlank c && !(0x1C ≤ c.toNat && c.toNat ≤ 0x1F)

/-- The text without the white space around a number. -/
def trimNumber (s : List Char) : List Char :=
  ((s.dropWhile isNumberBlank).reverse.dropWhile isNumberBlank).reverse

/-- Digits of every script as ASCII digits. -/
def plainDigits (s : List Char) : List Char :=
  s.map fun c => match digit? c with
    | some d => Text.digitChar d
    | none => c

/-- Drops underscores, each of which must stand between two ASCII digits; `before` says
    whether a digit has just been read. -/
def dropUnderscores (before : Bool) : List Char → Option (List Char)
  | [] => some []
  | '_' :: rest =>
    match rest with
    | c :: _ =>
      if before && (asciiDigit? c).isSome then dropUnderscores false rest else none
    | [] => none
  | c :: rest => (dropUnderscores (asciiDigit? c).isSome rest).map (c :: ·)

/-- The number that a text of a configuration stands for. -/
def floatOfText? (s : List Char) : Option Float := do
  readFloat? (← dropUnderscores false (plainDigits (trimNumber s)))

end ProductionLP.Decimal
