import ProductionLP.Block
import ProductionLP.Fault
import ProductionLP.Scalar

/- Products of blocks.

   With a vector the last axis of a block is summed against it. With a block of more axes the
   last two axes of both are matrices, and these are multiplied; the axes before them number
   the matrices, and a single matrix, or an axis of length one, is repeated. A vector on the
   left is a single row. A number alone has no product. -/
namespace ProductionLP.Block

variable {α : Type} [Scalar α]

/-- The inner product, summed from the left. -/
def dot (xs ys : List α) : α := (List.zipWith (· * ·) xs ys).foldl (· + ·) 0

/-- The product with a vector. A vector in place of the matrix gives a single number. -/
def timesVector (a : Block α) (xs : List α) : Except Fault (Block α) :=
  match a.shape.reverse with
  | [] => .error .mismatch
  | width :: outer =>
    if xs.length = width then
      let sums := (pieces width (volume outer.reverse) a.entries).map (dot · xs)
      if h : sums.length = volume outer.reverse then .ok ⟨outer.reverse, sums, h⟩
      else .error .mismatch
    else .error .mismatch

/-- The entries of the product of two matrices. -/
def timesMatrix (height width columns : Nat) (xs ys : List α) : List α :=
  let rows := pieces width height xs
  let others := pieces columns width ys
  let turned := (List.range columns).map fun j => others.filterMap (·[j]?)
  rows.flatMap fun row => turned.map (dot row)

/-- A shape as a number of matrices on the left of a product: the axes that number them, then
    height and width. -/
def leftMatrices (shape : List Nat) : Option (List Nat × Nat × Nat) :=
  match shape.reverse with
  | [] => none
  | [width] => some ([], 1, width)
  | width :: height :: outer => some (outer.reverse, height, width)

/-- A shape as a number of matrices on the right of a product. -/
def rightMatrices (shape : List Nat) : Option (List Nat × Nat × Nat) :=
  match shape.reverse with
  | width :: height :: outer => some (outer.reverse, height, width)
  | _ => none

/-- The matrices of a block, numbered by the axes `inner` and repeated to be numbered by
    `outer`. -/
def matrices? (inner outer : List Nat) (size : Nat) (b : Block α) : Option (List (List α)) :=
  spread inner outer (pieces size (volume inner) b.entries)

/-- The product with a block of matrices. -/
def timesMatrices (a b : Block α) : Except Fault (Block α) :=
  match leftMatrices a.shape, rightMatrices b.shape with
  | some (outerA, height, width), some (outerB, depth, columns) =>
    match commonShape outerA outerB with
    | none => .error .mismatch
    | some outer =>
      match matrices? outerA outer (height * width) a,
          matrices? outerB outer (depth * columns) b with
      | some lefts, some rights =>
        let entries := (List.zipWith (timesMatrix height width columns) lefts rights).flatten
        let shape := outer ++ (if a.rank = 1 then [columns] else [height, columns])
        if h : width = depth ∧ entries.length = volume shape then .ok ⟨shape, entries, h.2⟩
        else .error .mismatch
      | _, _ => .error .mismatch
  | _, _ => .error .mismatch

/-- The product of two blocks. -/
def times (a b : Block α) : Except Fault (Block α) :=
  match b.toVector? with
  | some xs => a.timesVector xs
  | none => a.timesMatrices b

end ProductionLP.Block
