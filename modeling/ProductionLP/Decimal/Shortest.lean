import ProductionLP.Decimal.Binary
import ProductionLP.Text.Digit

/- The fewest digits that read back.

   A double is written with the fewest decimal digits that no other double is nearer to.
   For one digit, two digits and so on the double's two neighbours on that decimal grid are
   tried against the interval of numbers that round to the double; the first grid with a
   hit wins, and of two hits the nearer one. Seventeen digits always suffice. -/
namespace ProductionLP.Decimal

open Text (digits)

/-- A positive decimal `0.d₁d₂… · 10 ^ point`, its first digit not zero. -/
structure Digits where
  digits : List Nat
  point : Int
  deriving Repr, DecidableEq

/-- The `point` with `10 ^ (point - 1) ≤ num / den < 10 ^ point`, for a positive quotient. -/
def pointOf (num den : Nat) : Int :=
  if den ≤ num then ((digits (num / den)).length : Int)
  else
    let l := (digits (den / num)).length
    if num * Nat.pow 10 (l - 1) = den then 2 - (l : Int) else 1 - (l : Int)

/-- The numbers that round to a double, scaled by four: the least, the double, the greatest,
    and whether the ends belong to it. -/
structure Interval where
  low : Nat
  mid : Nat
  high : Nat
  den : Nat
  closed : Bool

/-- The rounding interval of a positive double. -/
def Binary.interval (b : Binary) : Interval :=
  let below := if b.mantissa = hiddenBit ∧ leastExponent < b.exponent then 1 else 2
  let up := if 0 ≤ b.exponent then Nat.pow 2 b.exponent.toNat else 1
  let den := if 0 ≤ b.exponent then 1 else Nat.pow 2 (-b.exponent).toNat
  ⟨(4 * b.mantissa - below) * up, 4 * b.mantissa * up, (4 * b.mantissa + 2) * up,
    4 * den, b.mantissa % 2 == 0⟩

/-- `num / den` lies in the interval. -/
def Interval.holds (i : Interval) (num den : Nat) : Bool :=
  let x := num * i.den
  if i.closed then i.low * den ≤ x && x ≤ i.high * den
  else i.low * den < x && x < i.high * den

/-- The grid number with `count` digits that stands for the interval, if one does, as a
    whole number of units `10 ^ (point - count)`. -/
def Interval.onGrid (i : Interval) (point : Int) (count : Nat) : Option Nat :=
  let e := point - count
  let unit := if 0 ≤ e then (Nat.pow 10 e.toNat, 1) else (1, Nat.pow 10 (-e).toNat)
  let d := i.mid * unit.2 / (i.den * unit.1)
  let low := i.holds (d * unit.1) unit.2
  let high := i.holds ((d + 1) * unit.1) unit.2
  if low && high then
    -- twice the middle against the sum of the two neighbours
    let twice := 2 * i.mid * unit.2
    let sum := (2 * d + 1) * unit.1 * i.den
    if twice < sum then some d
    else if sum < twice then some (d + 1)
    else if d % 2 = 0 then some d else some (d + 1)
  else if low then some d
  else if high then some (d + 1)
  else none

/-- The first grid with a hit, trying `count` digits and more while `fuel` lasts. -/
def Interval.search (i : Interval) (point : Int) : Nat → Nat → Nat × Nat
  | 0, count => (i.mid / i.den, count)
  | fuel + 1, count =>
    match i.onGrid point count with
    | some d => (d, count)
    | none => i.search point fuel (count + 1)

/-- The fewest digits of a positive double. -/
def Binary.shortest (b : Binary) : Digits :=
  let f := b.fraction
  let point := pointOf f.1 f.2
  let hit := b.interval.search point 17 1
  let ds := digits hit.1
  -- a carry past the first digit leaves a one and zeros, one place further left
  if hit.2 < ds.length then ⟨[1], point + 1⟩ else ⟨ds, point⟩

end ProductionLP.Decimal
