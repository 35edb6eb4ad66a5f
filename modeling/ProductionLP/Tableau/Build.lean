import ProductionLP.Block
import ProductionLP.Program.Basic
import ProductionLP.Tableau.Basic

/- The first tableau of a program.

   The objective row is the negated objective followed by zeros. The constraint rows are
   `[A | I | b]`: the coefficients, an identity for the slack variables, and the bounds. The
   program need not be valid: each part is spread over its place, and the build fails when a
   part does not fit. A column count below zero counts from the right end. -/
namespace ProductionLP.Tableau

variable {α : Type}

/-- A place on an axis: negative places count from the end, and places past either end are
    moved to that end. -/
def clampPlace (length : Nat) (i : Int) : Nat :=
  if i < 0 then (length + i).toNat else min length i.toNat

/-- The list with `ys` in place of as many entries from `start`. -/
def splice (xs : List α) (start : Nat) (ys : List α) : List α :=
  xs.take start ++ ys.take (xs.length - start) ++ xs.drop (start + ys.length)

/-- Splicing keeps the length. -/
theorem length_splice (xs : List α) (start : Nat) (ys : List α) :
    (splice xs start ys).length = xs.length := by
  simp only [splice, List.length_append, List.length_take, List.length_drop]
  omega

variable [Scalar α]

/-- A row of the identity. -/
def unitRow (size i : Nat) : List α := (List.range size).map fun j => if j = i then 1 else 0

/-- The identity as a block. -/
def identity (size : Nat) : Block α :=
  .matrix ((List.range size).map (unitRow size)) size (by simp [unitRow])

/-- A constraint row: coefficients from the left, a row of the identity from column `start`,
    and the bound in the last column. -/
def constraintRow (width start : Nat) (coefficients unit : List α) (bound : α) : List α :=
  splice (splice (splice (List.replicate width 0) 0 coefficients) start unit) (width - 1) [bound]

/-- Every constraint row has the width. -/
theorem length_constraintRow (width start : Nat) (coefficients unit : List α) (bound : α) :
    (constraintRow width start coefficients unit bound).length = width := by
  simp [constraintRow, length_splice]

/-- The constraint rows one below the other. -/
def constraintRowsOf (width start : Nat) :
    List (List α) → List (List α) → List α → List (List α)
  | a :: as, u :: us, b :: bs =>
    constraintRow width start a u b :: constraintRowsOf width start as us bs
  | _, _, _ => []

/-- All constraint rows have the width. -/
theorem width_constraintRowsOf (width start : Nat) (as us : List (List α)) (bs : List α) :
    ∀ r ∈ constraintRowsOf width start as us bs, r.length = width := by
  fun_induction constraintRowsOf width start as us bs with
  | case1 a as u us b bs ih =>
    intro r hr
    rcases List.mem_cons.1 hr with rfl | hr
    · exact length_constraintRow ..
    · exact ih r hr
  | case2 => simp

/-- The objective row: the negated objective from the left, zeros after it. -/
def objectiveRowOf (width : Nat) (objective : List α) : List α :=
  splice (List.replicate width 0) 0 (objective.map (-·))

/-- A part spread over the shape that it has to fill. -/
def fill (b : Block α) (shape : List Nat) : Except Fault (List α) :=
  match b.spreadTo shape with
  | some xs => .ok xs
  | none => .error .mismatch

/-- The first tableau of a program. -/
def ofProgram (p : Program α) : Except Fault (Tableau α) := do
  if p.m + 1 < 0 ∨ p.n + p.m + 1 < 0 then throw .negativeLength
  Block.checkRoom [(p.m + 1).toNat, (p.n + p.m + 1).toNat]
  if p.m + 1 = 0 then throw .outOfRange
  let m := p.m.toNat
  let width := (p.n + p.m + 1).toNat
  let left := clampPlace width p.n
  let right := clampPlace width (p.n + p.m)
  let objective ← fill p.objective [left]
  let coefficients ← fill p.coefficients [m, left]
  Block.checkRoom [m, m]
  let identity ← fill (identity m) [m, right - left]
  if width = 0 then throw .outOfRange
  let bounds ← fill p.bounds [m]
  let body := constraintRowsOf width left (Block.pieces left m coefficients)
    (Block.pieces (right - left) m identity) bounds
  return ⟨width, objectiveRowOf width objective :: body, by
    intro r hr
    rcases List.mem_cons.1 hr with rfl | hr
    · simp [objectiveRowOf, length_splice]
    · exact width_constraintRowsOf width left _ _ _ r hr⟩

end ProductionLP.Tableau
