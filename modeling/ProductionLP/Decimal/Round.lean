import ProductionLP.Decimal.Binary
import ProductionLP.Decimal.Read
import ProductionLP.Decimal.Shortest

/- Rounding.

   Two rules round to decimal places. `roundPlaces?` rounds the exact value of a double, a half
   to the even neighbour, and takes the double nearest to that decimal. `roundColumn` is the
   rule of whole columns: scale by a power of ten in double arithmetic, round to a whole
   number, a half to the even one, and scale back. A rational is rounded to the double nearest
   to it. -/
namespace ProductionLP.Decimal

/-- The double nearest to the value rounded to `places` decimal places; `none` when that is
    beyond the doubles. Places past the last digit of any double change nothing, and places
    before the first digit leave a zero with the sign of the number. -/
def roundPlaces? (x : Float) (places : Int) : Option Float :=
  match view x with
  | .nan => some x
  | .infinite _ => some x
  | .finite b =>
    if b.mantissa = 0 ∨ 323 < places then some x
    else if places < -308 then some (if b.negative then -0.0 else 0.0)
    else
      let f := b.fraction
      let y := nearest (roundScaled f.1 f.2 places) (-places)
      if y.isFinite then some (if b.negative then -y else y) else none

/-- The nearest whole double, a half to the even one, with the sign of the number. -/
def roundWhole (x : Float) : Float :=
  let a := x.abs
  -- above 2 ^ 52 every double is whole, and adding that much leaves no room for a fraction
  if a < 4503599627370496.0 then
    let r := (a + 4503599627370496.0) - 4503599627370496.0
    if signBit x then -r else r
  else x

/-- A power of ten by repeated multiplication in double arithmetic. -/
def powerOfTen : Nat → Float
  | 0 => 1.0
  | n + 1 => powerOfTen n * 10.0

/-- Rounds a number of a column to `places` decimal places; past 400 places the power of ten
    is infinite and does not grow any more. -/
def roundColumn (places : Int) (x : Float) : Float :=
  if 0 ≤ places then
    let p := powerOfTen (min places.toNat 400)
    roundWhole (x * p) / p
  else
    let p := powerOfTen (min (-places).toNat 400)
    roundWhole (x / p) * p

/-! Doubles and rationals. -/

/-- The exact value of a double; one that is not finite has none and counts as zero. -/
def toRat (x : Float) : Rat :=
  match view x with
  | .finite b =>
    let f := b.fraction
    if b.negative then mkRat (-(f.1 : Int)) f.2 else mkRat f.1 f.2
  | _ => 0

/-- Digits that are kept of a rational before the nearest double is taken. -/
def kept : Int := 40

/-- The double nearest to a rational, up to the digits that are kept. -/
def ofRat (q : Rat) : Float :=
  if q.num = 0 then 0.0
  else
    let e := kept - pointOf q.num.natAbs q.den
    let x := nearest (roundScaled q.num.natAbs q.den e) (-e)
    if q.num < 0 then -x else x

end ProductionLP.Decimal
