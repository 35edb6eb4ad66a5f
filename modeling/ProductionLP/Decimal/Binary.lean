/- Doubles as exact numbers.

   A finite double is a whole mantissa times a power of two. Every printed form starts
   from this view, so that printing is arithmetic on natural numbers. -/
namespace ProductionLP.Decimal

/-- The exact number `± mantissa · 2 ^ exponent`. -/
structure Binary where
  negative : Bool
  mantissa : Nat
  exponent : Int
  deriving Repr, DecidableEq

/-- What a double stands for. -/
inductive Double where
  | nan
  | infinite (negative : Bool)
  | finite (b : Binary)
  deriving Repr, DecidableEq

/-- The exponent of the smallest doubles. -/
def leastExponent : Int := -1074

/-- The least mantissa of a double above the smallest exponent. -/
def hiddenBit : Nat := Nat.pow 2 52

/-- The sign bit of a double, which zero has too. -/
def signBit (x : Float) : Bool := x.toBits.toNat / Nat.pow 2 63 == 1

/-- Decodes a double: one sign bit, eleven exponent bits, 52 fraction bits. -/
def view (x : Float) : Double :=
  let bits : Nat := x.toBits.toNat
  let negative := bits / Nat.pow 2 63 == 1
  let biased : Nat := bits / hiddenBit % Nat.pow 2 11
  let fraction : Nat := bits % hiddenBit
  if biased = 0x7FF then
    if fraction = 0 then .infinite negative else .nan
  else if biased = 0 then .finite ⟨negative, fraction, leastExponent⟩
  else .finite ⟨negative, hiddenBit + fraction, (biased : Int) - 1075⟩

/-- The magnitude as a fraction of natural numbers with a power of two below. -/
def Binary.fraction (b : Binary) : Nat × Nat :=
  if 0 ≤ b.exponent then (b.mantissa * Nat.pow 2 b.exponent.toNat, 1)
  else (b.mantissa, Nat.pow 2 (-b.exponent).toNat)

/-- The quotient to the nearest whole number, a half to the even neighbour. -/
def roundDiv (num den : Nat) : Nat :=
  let q := num / den
  let r := num % den
  if 2 * r < den then q
  else if den < 2 * r then q + 1
  else if q % 2 = 0 then q else q + 1

/-- The quotient times `10 ^ e` to the nearest whole number, a half to the even neighbour. -/
def roundScaled (num den : Nat) (e : Int) : Nat :=
  if 0 ≤ e then roundDiv (num * Nat.pow 10 e.toNat) den
  else roundDiv num (den * Nat.pow 10 (-e).toNat)

end ProductionLP.Decimal
