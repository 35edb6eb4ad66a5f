import ProductionLP.Text.SixBits
import ProductionLP.Value.Convert
import ProductionLP.Yaml.Kind

/- Values of scalars.

   A scalar of a known kind is read as that kind. A tag may claim a kind that the text does
   not bear out, so each reading can fail. -/
namespace ProductionLP.Yaml

/-- Truth values by their words in small letters. -/
def truthOf (text : String) : Except Fault Value :=
  let word := String.ofList (text.toList.map Text.small)
  if ["yes", "true", "on"].contains word then .ok (.bool true)
  else if ["no", "false", "off"].contains word then .ok (.bool false)
  else .error .unknownWord

/-- The integer that a text writes in a base. -/
def inBase (base : Nat) (s : List Char) : Except Fault Int :=
  Decimal.integerIn base (String.ofList (Text.quoted s)) s

/-- Digits in sixties, most significant first. -/
def inSixties (parts : List (List Char)) : Except Fault Int := do
  return (← parts.mapM (inBase 10)).foldl (fun n d => 60 * n + d) 0

/-- An unsigned integer in any of the bases. -/
def magnitude (s : List Char) : Except Fault Int :=
  match s with
  | [] => .error .outOfRange
  | ['0'] => .ok 0
  | '0' :: 'b' :: rest => inBase 2 rest
  | '0' :: 'x' :: rest => inBase 16 rest
  | '0' :: rest => inBase 8 ('0' :: rest)
  | s => if s.contains ':' then inSixties (colonParts s) else inBase 10 s

/-- A text without the underscores between its digits. -/
def unspaced (s : List Char) : List Char := s.filter (· != '_')

/-- An integer; its underscores say nothing. -/
def integerOf (text : String) : Except Fault Value :=
  match unspaced text.toList with
  | [] => .error .outOfRange
  | c :: rest => do
    let n ← magnitude (unsigned (c :: rest))
    return .int (if c = '-' then -n else n)

/-- A number with a point, perhaps with a sign of its own. -/
def pointed (s : List Char) : Except Fault Float :=
  match Decimal.floatOfText? s with
  | some x => .ok x
  | none => .error (.notNumber (String.ofList (Text.quoted s)))

/-- The sum of numbers times growing powers of sixty, least significant first. -/
def sumSixties (power : Nat) (sum : Float) : List Float → Except Fault Float
  | [] => .ok sum
  | x :: rest => do sumSixties (60 * power) (sum + x * (← Value.floatOfInt power)) rest

/-- A number in small letters, without underscores and without its sign. -/
def unsignedNumber (s : List Char) : Except Fault Float :=
  if s = ".inf".toList then .ok (1.0 / 0.0)
  else if s = ".nan".toList then .ok (0.0 / 0.0)
  else if s.contains ':' then do
    sumSixties 1 0.0 (← (colonParts s).mapM pointed).reverse
  else pointed s

/-- The letters of a number in the form in which it is read. -/
def plainNumber (text : String) : List Char := (unspaced text.toList).map Text.small

/-- A number with a point in any spelling. -/
def numberOf (text : String) : Except Fault Value :=
  match plainNumber text with
  | [] => .error .outOfRange
  | c :: rest => do
    let x ← unsignedNumber (unsigned (c :: rest))
    return .num (if c = '-' then -x else x)

/-- Octets in six bits, which are written in ASCII. -/
def octetsOf (text : String) : Except Fault Value :=
  if text.toList.all (fun c => c.toNat < 0x80) then
    match Text.octetsOfSixBits? text.toList with
    | some octets => .ok (.octets octets)
    | none => .error .document
  else .error .document

/-- A date; a text that is none has no parts to look at. -/
def dateOf (text : String) : Except Fault Value :=
  match readDate? text.toList with
  | none => .error .noFields
  | some (d, _) =>
    match d.flaw? with
    | some reason => .error (.noDate reason)
    | none => .ok (.date d)

/-- The value of a scalar of a kind; a kind of collection has none. -/
def Kind.value (text : String) : Kind → Except Fault Value
  | .nothing => .ok .null
  | .truth => truthOf text
  | .integer => integerOf text
  | .number => numberOf text
  | .octets => octetsOf text
  | .date => dateOf text
  | .text => .ok (.text text)
  | _ => .error .document

end ProductionLP.Yaml
