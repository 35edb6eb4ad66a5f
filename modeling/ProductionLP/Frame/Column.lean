import ProductionLP.Frame.Basic
import ProductionLP.Value.Convert

/- Columns of values.

   The entries of a column are of one kind when they can be. Numbers with a fraction make all
   integers of a column such numbers, and an entry left out then is the undefined number; so
   does an entry left out among integers. A column that also holds truth values, texts or
   collections, or integers that no machine integer has room for, is left as it is. -/
namespace ProductionLP.Frame

/-- What a column has shown so far. -/
structure Seen where
  absent : Bool
  truth : Bool
  number : Bool
  integer : Bool
  negative : Bool
  /-- An integer that only an unsigned word has room for. -/
  beyond : Bool

namespace Seen

/-- Before the first entry. -/
def nothing : Seen := ⟨false, false, false, false, false, false⟩

/-- The least integer beyond the signed words, and the least beyond the unsigned ones. -/
def signedEnd : Int := Nat.pow 2 63
def unsignedEnd : Int := Nat.pow 2 64

/-- After one more integer. Its size no longer counts once an entry has been left out. -/
def addInteger (s : Seen) (i : Int) : Seen :=
  if s.absent then { s with integer := true }
  else { s with
    integer := true
    negative := s.negative || i < 0
    beyond := s.beyond || signedEnd ≤ i }

/-- Whether no one kind of word has room for the integers so far, `i` being the last. -/
def overflows (s : Seen) (i : Int) : Bool :=
  !s.absent && ((s.negative && s.beyond) || i < -signedEnd || unsignedEnd ≤ i)

/-- Whether a column with nothing but this becomes a column of numbers. -/
def isNumeric (s : Seen) : Bool := !s.truth && (s.number || (s.absent && s.integer))

end Seen

/-- Whether a column becomes one of numbers. Entries are looked at from the top down to the
    first that rules it out, and each integer on the way must be within the doubles. -/
def becomesNumeric (seen : Seen) : List Value → Except Fault Bool
  | [] => .ok seen.isNumeric
  | .null :: rest => becomesNumeric { seen with absent := true } rest
  | .bool _ :: rest => becomesNumeric { seen with truth := true } rest
  | .num _ :: rest => becomesNumeric { seen with number := true } rest
  | .int i :: rest => do
    let _ ← Value.floatOfInt i
    let seen := seen.addInteger i
    if seen.overflows i then return false else becomesNumeric seen rest
  | _ :: _ => .ok false

/-- The entries of a column. -/
def columnOf (values : List Value) : Except Fault (List Cell) := do
  if ← becomesNumeric .nothing values then values.mapM fun v => return .num (← v.toEntry)
  else return values.map Cell.ofValue

end ProductionLP.Frame
