import ProductionLP.Program.Basic

/- Resizing.

   A program keeps what fits into its new sizes and is filled up with zeros; new
   constraints are "at most" zero. The new arrays need room. The operators are as many machine
   words as the bounds are numbers, so that there is room for them where there is for these. -/
namespace ProductionLP.Program

open Scalar

variable {α : Type} [Scalar α]

/-- The first `length` entries of a part along its first axis, filled up with zeros. A part
    that is no vector is spread over the entries that are kept. -/
def resizeVector (length : Nat) (b : Block α) : Except Fault (Block α) :=
  let kept := min length b.size
  match b.keep? kept with
  | none => .error .outOfRange
  | some (entries, shape) =>
    match Block.spread shape [kept] entries with
    | none => .error .mismatch
    | some xs => .ok (.vector (xs ++ List.replicate (length - kept) 0))

/-- A row cut or filled up with zeros to a width. -/
def resizeRow (width : Nat) (row : List α) : List α :=
  row.take width ++ List.replicate (width - row.length) 0

/-- Every resized row has the width. -/
theorem length_resizeRow (width : Nat) (row : List α) : (resizeRow width row).length = width := by
  simp only [resizeRow, List.length_append, List.length_take, List.length_replicate]
  omega

/-- The rows cut or filled up to a height and a width. -/
def resizeRows (height width : Nat) (rows : List (List α)) : List (List α) :=
  (rows.take height).map (resizeRow width)
    ++ List.replicate (height - rows.length) (resizeRow width [])

/-- All resized rows have the width. -/
theorem width_resizeRows (height width : Nat) (rows : List (List α)) :
    ∀ r ∈ resizeRows height width rows, r.length = width := by
  intro r hr
  rcases List.mem_append.1 hr with h | h
  · obtain ⟨s, _, rfl⟩ := List.mem_map.1 h
    exact length_resizeRow width s
  · rw [(List.mem_replicate.1 h).2]
    exact length_resizeRow width []

/-- A matrix cut or filled up to a height and a width. -/
def resizeMatrix (height width : Nat) (b : Block α) : Except Fault (Block α) :=
  match b.toRows? with
  | some rows =>
    .ok (.matrix (resizeRows height width rows) width (width_resizeRows height width rows))
  | none => if b.rank ≤ 1 then .error .outOfRange else .error .mismatch

/-- Operators cut or filled up with "at most". -/
def resizeOperators (count : Nat) (operators : List Relation) : List Relation :=
  operators.take count ++ List.replicate (count - operators.length) .atMost

/-- The program with `n` variables and `m` constraints, both at least one. -/
def resize (p : Program α) (n m : Int) (room : Nat → Bool := Block.usualRoom) :
    Except Error (Program α) := do
  if n < minDimension ∨ m < minDimension then throw (.problem .sizes)
  Block.checkRoom [n.toNat] room
  let objective ← resizeVector n.toNat p.objective
  Block.checkRoom [m.toNat, n.toNat] room
  let coefficients ← resizeMatrix m.toNat n.toNat p.coefficients
  Block.checkRoom [m.toNat] room
  let bounds ← resizeVector m.toNat p.bounds
  return ⟨n, m, objective, coefficients, bounds, resizeOperators m.toNat p.operators⟩

end ProductionLP.Program
