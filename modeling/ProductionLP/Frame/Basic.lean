import ProductionLP.Value.Basic

/- Frames.

   A frame is a table with named columns and labelled rows, the form in which tableaus,
   solutions and reports are shown. -/
namespace ProductionLP

/-- An entry of a frame. -/
inductive Cell where
  | text (s : String)
  | int (i : Int)
  | num (x : Float)
  | flag (b : Bool)
  /-- An entry of any other kind. -/
  | value (v : Value)

/-- A value as an entry. -/
def Cell.ofValue : Value → Cell
  | .text s => .text s
  | .int i => .int i
  | .num x => .num x
  | .bool b => .flag b
  | v => .value v

/-- A table. -/
structure Frame where
  columns : List String
  index : List Cell
  rows : List (List Cell)

namespace Frame

/-- Row labels that count from zero. -/
def counted (n : Nat) : List Cell := (List.range n).map fun i => .int (i : Nat)

/-- A table whose rows are counted from zero. -/
def ofRows (columns : List String) (rows : List (List Cell)) : Frame :=
  ⟨columns, counted rows.length, rows⟩

end Frame

end ProductionLP
