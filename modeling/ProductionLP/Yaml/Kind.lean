import ProductionLP.Calendar
import ProductionLP.Yaml.Cursor

/- Kinds of nodes.

   What a node stands for is said by its tag, or left to be found. A scalar is then told by its
   text: truth values in several words, integers in four bases and in sixties, numbers with a
   point, dates, nothing, and two signs that mean something only as keys. Every other text
   stands for itself. A line end behind the text makes no difference. -/
namespace ProductionLP.Yaml

/-- What a node stands for. -/
inductive Kind where
  | nothing
  | truth
  | integer
  | number
  | octets
  | date
  | text
  | sequence
  | mapping
  | set
  /-- Pairs of keys and values in order. -/
  | pairs
  /-- The key under which other mappings are merged into one. -/
  | merge
  /-- The key of a mapping's own value. -/
  | default
  /-- Nothing that has a value. -/
  | unknown
  deriving Repr, DecidableEq

/-- An ASCII digit. -/
def isDigit (c : Char) : Bool := '0' ≤ c && c ≤ '9'

/-- A digit or the underscore that may stand between digits. -/
def isSpacedDigit (c : Char) : Bool := isDigit c || c = '_'

/-- A digit of a base up to ten, or an underscore. -/
def isDigitBelow (base : Nat) (c : Char) : Bool :=
  (isDigit c && c.toNat - 48 < base) || c = '_'

/-- A text without its sign. -/
def unsigned : List Char → List Char
  | '-' :: rest => rest
  | '+' :: rest => rest
  | s => s

/-- The parts of a text between colons. -/
def colonParts : List Char → List (List Char)
  | [] => [[]]
  | ':' :: rest => [] :: colonParts rest
  | c :: rest =>
    match colonParts rest with
    | [] => [[c]]
    | p :: ps => (c :: p) :: ps

/-- A number below sixty in one or two digits. -/
def isSixtieth : List Char → Bool
  | [d] => isDigit d
  | [a, b] => isDigitBelow 6 a && a != '_' && isDigit b
  | _ => false

/-- Digits that begin with one of a class, and at least one number below sixty, between
    colons. -/
def isSixties (first : Char → Bool) (s : List Char) : Bool :=
  match colonParts s with
  | (d :: ds) :: p :: ps => first d && ds.all isSpacedDigit && (p :: ps).all isSixtieth
  | _ => false

/-- A digit from one to nine. -/
def isLeadingDigit (c : Char) : Bool := isDigit c && c != '0'

/-- A text of at least one character, all of a class. -/
def isRun (p : Char → Bool) (s : List Char) : Bool := !s.isEmpty && s.all p

/-- A text that stands for an integer. -/
def isInteger (s : List Char) : Bool :=
  match unsigned s with
  | ['0'] => true
  | '0' :: 'b' :: rest => isRun (isDigitBelow 2) rest
  | '0' :: 'x' :: rest => isRun (fun c => (hexDigit? c).isSome || c = '_') rest
  | '0' :: rest => isRun (isDigitBelow 8) rest
  | c :: rest =>
    (isLeadingDigit c && rest.all isSpacedDigit) || isSixties isLeadingDigit (c :: rest)
  | [] => false

/-- An exponent with its sign. -/
def isExponent : List Char → Bool
  | e :: sign :: ds => (e = 'e' || e = 'E') && (sign = '-' || sign = '+') && isRun isDigit ds
  | _ => false

/-- Digits behind a point, and an exponent if there is more. -/
def isFraction (s : List Char) : Bool :=
  let rest := s.dropWhile isSpacedDigit
  rest.isEmpty || isExponent rest

/-- A text with a point between its digits. -/
def isPointed (s : List Char) : Bool :=
  match s.dropWhile isSpacedDigit with
  | '.' :: rest => (s.head?.map isDigit).getD false && isFraction rest
  | _ => false

/-- Sixties with a point behind them. -/
def isPointedSixties (s : List Char) : Bool :=
  match s.dropWhile (· != '.') with
  | '.' :: rest => isSixties isDigit (s.takeWhile (· != '.')) && rest.all isSpacedDigit
  | _ => false

/-- The words for an infinite and for an undefined number. -/
def infiniteWords : List String := [".inf", ".Inf", ".INF"]
def undefinedWords : List String := [".nan", ".NaN", ".NAN"]

/-- A text that stands for a number with a point. -/
def isNumber (s : List Char) : Bool :=
  isPointed (unsigned s) || isPointedSixties (unsigned s)
    || infiniteWords.contains (String.ofList (unsigned s))
    || undefinedWords.contains (String.ofList s)
    || (match s with
      | '.' :: d :: rest => isDigit d && isFraction (d :: rest)
      | _ => false)

/-- The words for truth values. -/
def truthWords : List String := ["yes", "Yes", "YES", "no", "No", "NO", "true", "True", "TRUE",
  "false", "False", "FALSE", "on", "On", "ON", "off", "Off", "OFF"]

/-- The words for nothing. -/
def nothingWords : List String := ["~", "null", "Null", "NULL", ""]

/-! Dates. -/

/-- At least `least` and at most `most` digits, as many as there are, and what follows. -/
def takeDigits (least most : Nat) (s : List Char) : Option (List Char × List Char) :=
  let ds := (s.take most).takeWhile isDigit
  if least ≤ ds.length then some (ds, s.drop ds.length) else none

/-- The number of a list of digits. -/
def digitsValue (ds : List Char) : Nat := ds.foldl (fun n d => 10 * n + (d.toNat - 48)) 0

/-- What follows an expected character. -/
def expect (c : Char) : List Char → Option (List Char)
  | [] => none
  | d :: rest => if d = c then some rest else none

/-- The first six places of a fraction as millionths. -/
def millionths (ds : List Char) : Nat :=
  let kept := ds.take 6
  digitsValue (kept ++ List.replicate (6 - kept.length) '0')

/-- A fraction of a second, if there is one. -/
def takeFraction : List Char → Nat × List Char
  | '.' :: rest => (millionths (rest.takeWhile isDigit), rest.dropWhile isDigit)
  | s => (0, s)

/-- The distance from the meridian that ends a date; the empty text is none. -/
def offsetOf? (s : List Char) : Option (Option Int) :=
  match s with
  | [] => some none
  | _ =>
    match s.dropWhile isGap with
    | ['Z'] => some (some 0)
    | sign :: rest => do
      let negative ← if sign = '-' then some true else if sign = '+' then some false else none
      let (hours, rest) ← takeDigits 1 2 rest
      let minutes ← match rest with
        | [] => some 0
        | ':' :: rest => do
          let (ms, rest) ← takeDigits 2 2 rest
          if rest.isEmpty then some (digitsValue ms) else none
        | _ => none
      let total : Int := (60 * digitsValue hours + minutes : Nat)
      return some (if negative then -total else total)
    | [] => none

/-- The time of day behind a date and what ends it. -/
def timeOf? (s : List Char) : Option (TimeOfDay × Option Int) := do
  let (hour, s) ← takeDigits 1 2 s
  let (minute, s) ← takeDigits 2 2 (← expect ':' s)
  let (second, s) ← takeDigits 2 2 (← expect ':' s)
  let (part, s) := takeFraction s
  let offset ← offsetOf? s
  return (⟨digitsValue hour, digitsValue minute, digitsValue second, part⟩, offset)

/-- What stands between a date and its time. -/
def afterDate? : List Char → Option (List Char)
  | 'T' :: rest => some rest
  | 't' :: rest => some rest
  | c :: rest => if isGap c then some (rest.dropWhile isGap) else none
  | [] => none

/-- A text without the line end that it may end with. -/
def dropLastBreak (s : List Char) : List Char :=
  if s.getLast? = some '\n' then s.dropLast else s

/-- The date that a text writes, and whether month and day have two digits each. -/
def readDate? (s : List Char) : Option (Date × Bool) := do
  let (year, s) ← takeDigits 4 4 (dropLastBreak s)
  let (month, s) ← takeDigits 1 2 (← expect '-' s)
  let (day, s) ← takeDigits 1 2 (← expect '-' s)
  let full := month.length == 2 && day.length == 2
  let date : Date := ⟨digitsValue year, digitsValue month, digitsValue day, none, none⟩
  match s with
  | [] => return (date, full)
  | s =>
    let (time, offset) ← timeOf? (← afterDate? s)
    return (⟨date.year, date.month, date.day, some time, offset⟩, full)

/-- A text that stands for a date; without a time, month and day need two digits. -/
def isDate (s : List Char) : Bool :=
  match readDate? s with
  | some (d, full) => full || d.time.isSome
  | none => false

/-! Kinds. -/

/-- The signs that other documents give a meaning to. -/
def foreignSigns : List String := ["!", "&", "*"]

/-- The kind of a scalar that its text tells; `s` has no line end behind it. -/
def Kind.ofLine (s : List Char) : Kind :=
  let text := String.ofList s
  if truthWords.contains text then .truth
  else if isNumber s then .number
  else if isInteger s then .integer
  else if text = "<<" then .merge
  else if nothingWords.contains text then .nothing
  else if isDate s then .date
  else if text = "=" then .default
  else if foreignSigns.contains text then .unknown
  else .text

/-- The kind of a scalar that its text tells. -/
def Kind.ofText (text : String) : Kind :=
  if text = "\n" then .text else Kind.ofLine (dropLastBreak text.toList)

/-- What the names of the standard kinds begin with. -/
def standardTag (name : String) : String := "tag:yaml.org,2002:" ++ name

/-- The names of the standard kinds. -/
def kindNames : List (String × Kind) := [("null", .nothing), ("bool", .truth), ("int", .integer),
  ("float", .number), ("binary", .octets), ("timestamp", .date), ("str", .text),
  ("seq", .sequence), ("map", .mapping), ("set", .set), ("omap", .pairs), ("pairs", .pairs),
  ("merge", .merge), ("value", .default)]

/-- The kind that a tag names. -/
def Kind.ofTag (tag : String) : Kind :=
  ((kindNames.map fun e => (standardTag e.1, e.2)).lookup tag).getD .unknown

end ProductionLP.Yaml
