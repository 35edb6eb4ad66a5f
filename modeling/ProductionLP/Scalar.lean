/- Numbers of the tableau method.

   The method is written once, over any type with the operations below, and run on two
   of them: double-precision numbers, which is what the program prints, and rationals,
   where every statement about optimality is exact. Comparisons are Boolean functions
   because a double may fail to be ordered with itself. -/
namespace ProductionLP

/-- What the tableau method asks of its numbers. -/
class Scalar (α : Type) extends Zero α, One α, Add α, Sub α, Mul α, Div α, Neg α where
  /-- Strictly smaller; false when the two are not ordered. -/
  lt : α → α → Bool
  /-- Smaller or equal; false when the two are not ordered. -/
  le : α → α → Bool
  /-- Numerically equal; an undefined number is not equal to itself. -/
  eq : α → α → Bool
  /-- Magnitude. -/
  abs : α → α
  /-- Neither infinite nor undefined. -/
  finite : α → Bool
  /-- The number above all others, if the type has one. -/
  top? : Option α

/-- Below the number above all others; every number is when there is no such number. -/
def Scalar.belowTop {α : Type} [Scalar α] (x : α) : Bool :=
  match Scalar.top? (α := α) with
  | none => true
  | some t => Scalar.lt x t

/-- Equal to the number above all others; none is when there is no such number. -/
def Scalar.isTop {α : Type} [Scalar α] (x : α) : Bool :=
  match Scalar.top? (α := α) with
  | none => false
  | some t => Scalar.eq x t

/-- A number that is not equal to itself. -/
def Scalar.undefined {α : Type} [Scalar α] (x : α) : Bool := !Scalar.eq x x

/-- Exact numbers: all finite, totally ordered, no greatest. -/
instance : Scalar Rat where
  zero := 0
  one := 1
  lt a b := decide (a < b)
  le a b := decide (a ≤ b)
  eq a b := decide (a = b)
  abs a := if a < 0 then -a else a
  finite _ := true
  top? := none

/-- Double-precision numbers, each operation rounded once. -/
instance : Scalar Float where
  lt a b := decide (a < b)
  le a b := decide (a ≤ b)
  eq a b := a == b
  abs a := a.abs
  finite a := a.isFinite
  top? := some (1.0 / 0.0)

end ProductionLP
