import ProductionLP.Value.Basic

/- The order of sets.

   The items of a set have no order of their own, but they are held in a table of places, and
   integers come in the order of the places that their remainders name. Other items stay in the
   order in which they came. -/
namespace ProductionLP.Value

/-- The number of places for a number of items: eight, or the power of two next above twice
    the number of items. -/
def placesFor (count : Nat) : Nat :=
  if count ≤ 4 then 8 else Nat.pow 2 (Nat.log2 (2 * count) + 1)

/-- The modulus that very large integers are reduced by before they name a place. -/
def placeModulus : Nat := Nat.pow 2 61 - 1

/-- The place of an integer among `size` places; minus one shares the place of minus two. -/
def placeOf (size : Nat) (i : Int) : Nat :=
  let reduced : Int := Int.tmod i placeModulus
  ((if reduced = -1 then -2 else reduced) % size).toNat

/-- The integer that a value counts as. -/
def integer? : Value → Option Int
  | .int i => some i
  | .bool b => some (if b then 1 else 0)
  | _ => none

/-- An item put in front of the first item with a later place. -/
def insertAt (place : Nat) (v : Value) : List (Nat × Value) → List (Nat × Value)
  | [] => [(place, v)]
  | (p, w) :: rest =>
    if place < p then (place, v) :: (p, w) :: rest else (p, w) :: insertAt place v rest

/-- The items of a set in their order. -/
def setOrder (items : List Value) : List Value :=
  match items.mapM integer? with
  | none => items
  | some numbers =>
    let size := placesFor items.length
    let placed := (numbers.zip items).foldl (fun m e => insertAt (placeOf size e.1) e.2 m) []
    placed.map Prod.snd

/-- A set of distinct items. -/
def ofItems (items : List Value) : Value := .set (setOrder items)

end ProductionLP.Value
