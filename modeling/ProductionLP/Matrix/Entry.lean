import ProductionLP.Matrix.Header

/- Entries of binary matrices.

   The octets of an entry stand for a number, a truth value, a text, a date or raw octets, in
   either order of octets. A record is a tuple of its fields, a small array nested lists. -/
namespace ProductionLP.Matrix

/-! Octets as numbers. -/

/-- The number that octets stand for, least significant first. -/
def number : List UInt8 → Nat
  | [] => 0
  | b :: rest => b.toNat + 256 * number rest

/-- The integer that octets stand for with the highest bit as a sign. -/
def signedNumber (octets : List UInt8) : Int :=
  let n := number octets
  let top := Nat.pow 256 octets.length
  if 2 * n < top then n else (n : Int) - top

/-- The float with the given numbers of exponent and fraction bits. -/
def floatOf (exponentBits fractionBits bits : Nat) : Float :=
  let fraction := bits % Nat.pow 2 fractionBits
  let biased := bits / Nat.pow 2 fractionBits % Nat.pow 2 exponentBits
  let negative := bits / Nat.pow 2 (fractionBits + exponentBits) % 2 == 1
  let bias := Int.ofNat (Nat.pow 2 (exponentBits - 1)) - 1
  let magnitude :=
    if biased + 1 = Nat.pow 2 exponentBits then
      if fraction = 0 then 1.0 / 0.0 else 0.0 / 0.0
    else if biased = 0 then
      (Float.ofNat fraction).scaleB (1 - bias - fractionBits)
    else
      (Float.ofNat (Nat.pow 2 fractionBits + fraction)).scaleB
        ((biased : Int) - bias - fractionBits)
  if negative then -magnitude else magnitude

/-- A number over a power of two, rounded to the nearest, a half to the even one. -/
def roundedShift (n shift : Nat) : Nat :=
  let unit := Nat.pow 2 shift
  let q := n / unit
  let rest := 2 * (n % unit)
  if unit < rest || (rest = unit && q % 2 = 1) then q + 1 else q

/-- The double nearest to `n · 2 ^ exponent` for a number of 64 bits that begins with a one. -/
def nearestWide (n : Nat) (exponent : Int) : Float :=
  let shift := max 11 (-1074 - exponent)
  if 70 < shift then 0.0
  else (Float.ofNat (roundedShift n shift.toNat)).scaleB (exponent + shift)

/-- The double nearest to an extended float of ten octets, whose leading bit is written. -/
def extended (octets : List UInt8) : Float :=
  let bits := number octets
  let fraction := bits % Nat.pow 2 64
  let biased := bits / Nat.pow 2 64 % Nat.pow 2 15
  let negative := bits / Nat.pow 2 79 % 2 == 1
  let leading := Nat.pow 2 63
  let magnitude :=
    if biased = 0 then 0.0
    else if fraction < leading then 0.0 / 0.0
    else if biased = 32767 then if fraction = leading then 1.0 / 0.0 else 0.0 / 0.0
    else nearestWide fraction ((biased : Int) - 16383 - 63)
  if negative then -magnitude else magnitude

/-- The double that octets stand for, least significant first; the shorter floats are exact as
    doubles. -/
def floatOfOctets (octets : List UInt8) : Float :=
  let bits := number octets
  match octets.length with
  | 2 => floatOf 5 10 bits
  | 4 => floatOf 8 23 bits
  | 8 => Float.ofBits bits.toUInt64
  | _ => extended (octets.take 10)

/-! Texts. -/

/-- `count` pieces of `size` octets. -/
def chunks (size : Nat) : Nat → List UInt8 → List (List UInt8)
  | 0, _ => []
  | count + 1, octets => octets.take size :: chunks size count (octets.drop size)

/-- What is left without the zeros at the end. -/
def withoutZeros {α : Type} [BEq α] (zero : α) (s : List α) : List α :=
  (s.reverse.dropWhile (· == zero)).reverse

/-- The characters of a fixed-length text, without the zeros that fill it up. -/
def textOf (bigEndian : Bool) (octets : List UInt8) : Except Fault Value :=
  let codes := withoutZeros 0 ((chunks 4 (octets.length / 4) octets).map fun o =>
    number (if bigEndian then o.reverse else o))
  if codes.all (· < 0x110000) then .ok (.text (String.ofList (codes.map Text.charOf)))
  else .error .brokenCode

/-! Times. -/

/-- The number that stands for no time. -/
def noTime : Int := -9223372036854775808

/-- The first and the last day of the calendar, counted from the epoch. -/
def firstDay : Int := -719162
def lastDay : Int := 2932896

/-- Whether a year has a calendar. -/
def isCalendarYear (year : Int) : Bool := 1 ≤ year && year ≤ 9999

/-- Whether a number of days since the epoch is a day of the calendar. -/
def isCalendarDay (day : Int) : Bool := firstDay ≤ day && day ≤ lastDay

/-- Whether a date that lies `n` steps behind the epoch is one of the calendar. -/
def isDate (unit : TimeUnit) (n : Int) : Bool :=
  match unit with
  | .year => isCalendarYear (1970 + n)
  | .month => isCalendarYear (1970 + Int.fdiv n 12)
  | .week => isCalendarDay (7 * n)
  | .day => isCalendarDay n
  | .clock (some perDay) => isCalendarDay (Int.fdiv n perDay)
  | _ => false

/-- A date is no number; one beyond the calendar is only the number of its steps. -/
def dateOf (unit : TimeUnit) (count : Nat) (n : Int) : Value :=
  if n = noTime ∨ unit = .generic then .null
  else if isDate unit (n * count) then .stamp "datetime"
  else .int n

/-- The most days of a duration. -/
def mostDays : Int := 999999999

/-- The days of a duration of `n` steps; years and months have no fixed number of days. -/
def daysOf? (unit : TimeUnit) (n : Int) : Option Int :=
  match unit with
  | .week => some (7 * n)
  | .day => some n
  | .clock (some perDay) => some (Int.fdiv n perDay)
  | _ => none

/-- A duration is no number unless it cannot be told in days. -/
def durationOf (unit : TimeUnit) (count : Nat) (n : Int) : Value :=
  if n = noTime then .null
  else
    match daysOf? unit (n * count) with
    | some days => if days.natAbs ≤ mostDays.toNat then .stamp "timedelta" else .int n
    | none => .int n

/-! Entries. -/

/-- The value of a single entry. -/
def Leaf.value (bigEndian : Bool) (octets : List UInt8) (l : Leaf) : Except Fault Value :=
  let ordered := if bigEndian then octets.reverse else octets
  match l with
  | .flag => .ok (.bool (number ordered != 0))
  | .signed _ => .ok (.int (signedNumber ordered))
  | .unsigned _ => .ok (.int (number ordered))
  | .float _ => .ok (.num (floatOfOctets ordered))
  | .complex size =>
    let half (part : List UInt8) : Float :=
      floatOfOctets (if bigEndian then part.reverse else part)
    let re := half (octets.take (size / 2))
    .ok (if size = 32 then .num re
      else .stamp (Literal.complexText re (half (octets.drop (size / 2)))))
  | .octets _ => .ok (.octets (withoutZeros 0 octets))
  | .text _ => textOf bigEndian octets
  | .raw _ => .ok (.octets octets)
  | .date unit count => .ok (dateOf unit count (signedNumber ordered))
  | .duration unit count => .ok (durationOf unit count (signedNumber ordered))
  | .foreign => .ok .null

/-- Values in reading order as nested lists of a shape. -/
def nestRows : List Nat → List Value → Value
  | [], vs => vs.headD .null
  | n :: rest, vs => .list ((Block.pieces (Block.volume rest) n vs).map (nestRows rest))

mutual

/-- The value of an entry. -/
def Layout.value (octets : List UInt8) : Layout → Except Fault Value
  | .leaf bigEndian l => l.value bigEndian octets
  | .grid shape item => do
    let items := chunks item.size (Block.volume shape) octets
    return nestRows shape (← items.mapM fun o => Layout.value o item)
  | .record _ fields => do return .tuple (← Layout.values octets fields)

/-- The values of fields. -/
def Layout.values (octets : List UInt8) : List (Nat × Layout) → Except Fault (List Value)
  | [] => .ok []
  | (place, l) :: rest => do
    let v ← Layout.value ((octets.drop place).take l.size) l
    return v :: (← Layout.values octets rest)

end

end ProductionLP.Matrix
