import ProductionLP.Decimal.Shortest

/- Written numbers.

   Four ways of writing a double are in use:

   1. the fewest digits that read back, positional from `10 ^ -4` up to `10 ^ 16` and with an
      exponent outside, always with a point or an exponent (`shortest`);
   2. a fixed number of places after the point (`fixed`);
   3. a fixed number of places and an exponent (`scientific`);
   4. a fixed number of significant digits, trailing zeros dropped, positional while the
      exponent is at least `-4` and below that number (`significant`). -/
namespace ProductionLP.Decimal

open Text (digits digitChar decimal)

/-- The minus sign of a negative number. -/
def signed (negative : Bool) (s : List Char) : List Char := if negative then '-' :: s else s

/-- An exponent with its sign and at least two digits. -/
def exponentPart (e : Int) : List Char :=
  let ds := decimal e.natAbs
  'e' :: (if e < 0 then '-' else '+') :: (if ds.length < 2 then '0' :: ds else ds)

/-- A whole number with the point `places` before its end. -/
def withPoint (n places : Nat) : List Char :=
  let ds := decimal n
  let ds := List.replicate (places + 1 - ds.length) '0' ++ ds
  let whole := ds.take (ds.length - places)
  if places = 0 then whole else whole ++ '.' :: ds.drop (ds.length - places)

/-- Digits with an exponent: one digit before the point. -/
def mantissaExponent (ds : List Nat) (e : Int) : List Char :=
  let first := (ds.take 1).map digitChar
  let rest := (ds.drop 1).map digitChar
  (if rest.isEmpty then first else first ++ '.' :: rest) ++ exponentPart e

/-- Digits in positional notation, with a point always. -/
def positional (d : Digits) : List Char :=
  let ds := d.digits.map digitChar
  if d.point ≤ 0 then '0' :: '.' :: List.replicate (-d.point).toNat '0' ++ ds
  else
    let whole := ds.take d.point.toNat
    let rest := ds.drop d.point.toNat
    let padded := whole ++ List.replicate (d.point.toNat - whole.length) '0'
    padded ++ '.' :: (if rest.isEmpty then ['0'] else rest)

/-- The fewest digits that read back. -/
def shortest (x : Float) : List Char :=
  match view x with
  | .nan => ['n', 'a', 'n']
  | .infinite negative => signed negative ['i', 'n', 'f']
  | .finite b =>
    if b.mantissa = 0 then signed b.negative ['0', '.', '0']
    else
      let d := b.shortest
      signed b.negative
        (if d.point ≤ -4 ∨ 16 < d.point then mantissaExponent d.digits (d.point - 1)
         else positional d)

/-- `places` digits after the point. -/
def fixed (places : Nat) (x : Float) : List Char :=
  match view x with
  | .nan => ['n', 'a', 'n']
  | .infinite negative => signed negative ['i', 'n', 'f']
  | .finite b =>
    let f := b.fraction
    signed b.negative (withPoint (roundScaled f.1 f.2 places) places)

/-- The `count` leading digits of a positive quotient and its exponent, after rounding. -/
def leading (count num den : Nat) : List Nat × Int :=
  let p := pointOf num den
  let n := roundScaled num den (count - p)
  let ds := digits n
  if count < ds.length then (ds.take count, p) else (ds, p - 1)

/-- One digit before the point, `places` after it, and an exponent. -/
def scientific (places : Nat) (x : Float) : List Char :=
  match view x with
  | .nan => ['n', 'a', 'n']
  | .infinite negative => signed negative ['i', 'n', 'f']
  | .finite b =>
    signed b.negative <|
      if b.mantissa = 0 then mantissaExponent (List.replicate (places + 1) 0) 0
      else
        let f := b.fraction
        let l := leading (places + 1) f.1 f.2
        mantissaExponent l.1 l.2

/-- Digits without the zeros at their end. -/
def dropZeros (ds : List Nat) : List Nat := (ds.reverse.dropWhile (· == 0)).reverse

/-- `count` significant digits, trailing zeros dropped. -/
def significant (count : Nat) (x : Float) : List Char :=
  match view x with
  | .nan => ['n', 'a', 'n']
  | .infinite negative => signed negative ['i', 'n', 'f']
  | .finite b =>
    signed b.negative <|
      if b.mantissa = 0 then ['0']
      else
        let f := b.fraction
        let l := leading count f.1 f.2
        let ds := dropZeros l.1
        if l.2 < -4 ∨ (count : Int) ≤ l.2 then mantissaExponent ds l.2
        else if l.2 < 0 then
          '0' :: '.' :: List.replicate (-l.2 - 1).toNat '0' ++ ds.map digitChar
        else
          let whole := l.2.toNat + 1
          let cs := ds.map digitChar
          let head := cs.take whole ++ List.replicate (whole - cs.length) '0'
          if ds.length ≤ whole then head else head ++ '.' :: cs.drop whole

end ProductionLP.Decimal
