import Mathlib.Data.List.GetD
import ProductionLP.Program.Resize
import ProductionLP.Proofs.Scalar
import ProductionLP.Proofs.Tableau.First

/- Resized programs.

   When the objective and the bounds are vectors and the coefficients a matrix, and there is
   room for the new parts, resizing succeeds with every part cut or filled up with zeros on
   its own (`resize_eq_ok`), whatever the sizes that the program declares. So a program keeps
   all rules for being solved when it is resized within the allowed sizes
   (`isValid_resized`), and one that grows has its own numbers from the front and zeros in all
   new places (`grows_resized`). -/
namespace ProductionLP

/-! ## Parts from the front -/

namespace Block

variable {α : Type} {b : Block α}

theorem flatten_take_pieces {size count kept : Nat} (h : kept ≤ count) (xs : List α) :
    ((pieces size count xs).take kept).flatten = xs.take (kept * size) := by
  induction count generalizing kept xs with
  | zero =>
    obtain rfl := Nat.le_zero.1 h
    rw [Nat.zero_mul]
    rfl
  | succ count ih =>
    cases kept with
    | zero => rw [Nat.zero_mul]; rfl
    | succ kept =>
      rw [pieces, List.take_succ_cons, List.flatten_cons, ih (Nat.le_of_succ_le_succ h),
        Nat.add_mul, Nat.one_mul, Nat.add_comm, List.take_add]

/-- The first parts of a vector are its first entries. -/
theorem keep?_of_vector {length kept : Nat} (hb : b.shape = [length]) (h : kept ≤ length) :
    b.keep? kept = some (b.entries.take kept, [kept]) := by
  have hparts : b.parts? = some (pieces 1 length b.entries, []) := by rw [parts?, hb]; rfl
  rw [keep?, hparts, Option.map_some, flatten_take_pieces h, Nat.mul_one, List.length_take,
    length_pieces, Nat.min_eq_left h]

end Block

namespace Program

/-! ## Resized parts -/

section Parts

variable {α : Type} [Scalar α] {b : Block α}

theorem getD_resizeRow {width j : Nat} (hj : j < width) (row : List α) :
    (resizeRow width row).getD j 0 = row.getD j 0 := by
  rw [resizeRow, List.getD_eq_getElem?_getD, List.getD_eq_getElem?_getD]
  rcases Nat.lt_or_ge j row.length with hlt | hge
  · rw [List.getElem?_append_left (by rw [List.length_take]; omega), List.getElem?_take,
      if_pos hj]
  · rw [List.getElem?_append_right (by rw [List.length_take]; omega), List.getElem?_replicate,
      List.getElem?_eq_none hge]
    split <;> rfl

/-- What holds of zero and of all entries of a row holds of the resized row. -/
theorem forall_mem_resizeRow {P : α → Prop} (hzero : P 0) {row : List α} (h : ∀ x ∈ row, P x)
    (width : Nat) : ∀ x ∈ resizeRow width row, P x := by
  intro x hx
  rcases List.mem_append.1 hx with hx | hx
  · exact h x (List.mem_of_mem_take hx)
  · rw [List.eq_of_mem_replicate hx]
    exact hzero

theorem length_resizeRows (height width : Nat) (rows : List (List α)) :
    (resizeRows height width rows).length = height := by
  rw [resizeRows, List.length_append, List.length_map, List.length_take, List.length_replicate]
  omega

/-- New rows are made of nothing, so a resized row is the row it was, resized. -/
theorem getElem?_resizeRows {height i : Nat} (hi : i < height) (width : Nat)
    (rows : List (List α)) :
    (resizeRows height width rows)[i]? = some (resizeRow width (rows.getD i [])) := by
  rw [resizeRows, List.getD_eq_getElem?_getD]
  rcases Nat.lt_or_ge i rows.length with hlt | hge
  · rw [List.getElem?_append_left (by rw [List.length_map, List.length_take]; omega),
      List.getElem?_map, List.getElem?_take, if_pos hi, List.getElem?_eq_getElem hlt]
    rfl
  · rw [List.getElem?_append_right (by rw [List.length_map, List.length_take]; omega),
      List.getElem?_replicate, if_pos (by rw [List.length_map, List.length_take]; omega),
      List.getElem?_eq_none hge]
    rfl

theorem forall_mem_resizeRows {P : α → Prop} (hzero : P 0) {rows : List (List α)}
    (h : ∀ x ∈ rows.flatten, P x) (height width : Nat) :
    ∀ x ∈ (resizeRows height width rows).flatten, P x := by
  intro x hx
  obtain ⟨row, hrow, hx⟩ := List.mem_flatten.1 hx
  rcases List.mem_append.1 hrow with hrow | hrow
  · obtain ⟨old, hold, rfl⟩ := List.mem_map.1 hrow
    refine forall_mem_resizeRow hzero (fun y hy => h y ?_) width x hx
    exact List.mem_flatten.2 ⟨old, List.mem_of_mem_take hold, hy⟩
  · rw [List.eq_of_mem_replicate hrow] at hx
    exact forall_mem_resizeRow hzero (fun y hy => absurd hy List.not_mem_nil) width x hx

/-- A vector is resized like a row. -/
theorem resizeVector_eq_ok {k : Nat} (hb : b.shape = [k]) (length : Nat) :
    resizeVector length b = .ok (.vector (resizeRow length b.entries)) := by
  have hsize := Block.size_of_vector hb
  have hkept : min length b.size ≤ k := by rw [Block.size]; omega
  have hfits : (b.entries.take (min length b.size)).length = Block.volume [min length b.size] := by
    rw [List.length_take, Block.size, Block.volume, Block.volume]
    omega
  have hspread := Block.spreadTo_self ⟨_, _, hfits⟩
  rw [Block.spreadTo] at hspread
  rw [resizeVector, Block.keep?_of_vector hb hkept]
  simp only [hspread]
  -- cutting at the length of the part or at the new length is the same
  have htake : b.entries.take (min length b.size) = b.entries.take length := by
    rw [Block.size, List.take_eq_take_iff]
    omega
  have hnew : length - min length b.size = length - b.entries.length := by
    rw [Block.size]
    omega
  rw [htake, hnew, resizeRow]

theorem resizeMatrix_eq_ok {rows : List (List α)} (hb : b.toRows? = some rows)
    (height width : Nat) :
    resizeMatrix height width b =
      .ok (.matrix (resizeRows height width rows) width (width_resizeRows height width rows)) := by
  rw [resizeMatrix, hb]

end Parts

/-! ## Resized programs -/

section Resized

/-- Whether the arrays of a program with these sizes can be made. -/
def roomFor (room : Nat → Bool) (n m : Int) : Except Error Unit := do
  Block.checkRoom [n.toNat] room
  Block.checkRoom [m.toNat, n.toNat] room
  Block.checkRoom [m.toNat] room

variable {α : Type} [Scalar α] {p : Program α} {n m : Int} {room : Nat → Bool}

/-- The rows of the coefficients; none when they are no matrix. -/
def rows (p : Program α) : List (List α) := p.coefficients.toRows?.getD []

/-- The program with every part cut or filled up on its own. -/
def resized (p : Program α) (n m : Int) : Program α where
  n := n
  m := m
  objective := .vector (resizeRow n.toNat p.objective.entries)
  coefficients :=
    .matrix (resizeRows m.toNat n.toNat p.rows) n.toNat (width_resizeRows m.toNat n.toNat p.rows)
  bounds := .vector (resizeRow m.toNat p.bounds.entries)
  operators := resizeOperators m.toNat p.operators

/-- Vectors and a matrix are resized on their own, and that can only fail for lack of room. -/
theorem resize_eq_map {k l height width : Nat} (hobjective : p.objective.shape = [k])
    (hcoefficients : p.coefficients.shape = [height, width]) (hbounds : p.bounds.shape = [l])
    (hn : 1 ≤ n) (hm : 1 ≤ m) :
    p.resize n m room = (roomFor room n m).map fun _ => p.resized n m := by
  have htoRows : p.coefficients.toRows? = some p.rows := by
    rw [rows, Block.toRows?, hcoefficients]
    rfl
  have hsizes : ¬ (n < minDimension ∨ m < minDimension) := by
    rintro (h | h)
    · exact absurd h (Int.not_lt.2 hn)
    · exact absurd h (Int.not_lt.2 hm)
  rw [resize, if_neg hsizes, resizeVector_eq_ok hobjective, resizeMatrix_eq_ok htoRows,
    resizeVector_eq_ok hbounds, roomFor]
  -- the parts are made between the checks, and making them never fails
  cases Block.checkRoom [n.toNat] room with
  | error => rfl
  | ok =>
    cases Block.checkRoom [m.toNat, n.toNat] room with
    | error => rfl
    | ok => cases Block.checkRoom [m.toNat] room <;> rfl

theorem resize_eq_ok {k l height width : Nat} (hobjective : p.objective.shape = [k])
    (hcoefficients : p.coefficients.shape = [height, width]) (hbounds : p.bounds.shape = [l])
    (hn : 1 ≤ n) (hm : 1 ≤ m) (hcolumns : Block.checkRoom [n.toNat] room = .ok ())
    (hmatrix : Block.checkRoom [m.toNat, n.toNat] room = .ok ())
    (hrows : Block.checkRoom [m.toNat] room = .ok ()) :
    p.resize n m room = .ok (p.resized n m) := by
  rw [resize_eq_map hobjective hcoefficients hbounds hn hm, roomFor, hcolumns, hmatrix, hrows]
  rfl

theorem length_resizeOperators (count : Nat) (operators : List Relation) :
    (resizeOperators count operators).length = count := by
  rw [resizeOperators, List.length_append, List.length_take, List.length_replicate]
  omega

/-- The rows of the coefficients that a valid program has. -/
theorem IsValid.rows_eq (hp : p.IsValid) :
    p.rows = Block.pieces p.n.toNat p.m.toNat p.coefficients.entries := by
  rw [rows, Block.toRows?, hp.coefficients_shape]
  rfl

theorem IsValid.flatten_rows (hp : p.IsValid) : p.rows.flatten = p.coefficients.entries := by
  rw [hp.rows_eq, Block.flatten_pieces (Block.size_of_matrix hp.coefficients_shape)]

theorem IsValid.getD_rows (hp : p.IsValid) (i : Nat) :
    p.rows.getD i [] = if i < p.m.toNat then p.row i else [] := by
  rw [hp.rows_eq, List.getD_eq_getElem?_getD]
  split
  · next hi =>
    rw [Block.getElem?_pieces hi]
    rfl
  · next hi =>
    rw [List.getElem?_eq_none (by rw [Block.length_pieces]; exact Nat.not_lt.1 hi)]
    rfl

/-- A valid program can be resized to all allowed sizes. -/
theorem IsValid.resize_eq_ok (hp : p.IsValid) (hn : 1 ≤ n) (hn' : n ≤ 10) (hm : 1 ≤ m)
    (hm' : m ≤ 10) : p.resize n m = .ok (p.resized n m) := by
  refine Program.resize_eq_ok hp.objective_shape hp.coefficients_shape hp.bounds_shape hn hm
    ?_ ?_ ?_
  · exact Block.checkRoom_eq_ok (by simp) (by simp; omega)
  · exact Block.checkRoom_eq_ok (by simp) (by simp; omega)
  · exact Block.checkRoom_eq_ok (by simp) (by simp; omega)

/-- A valid program stays valid when it is resized within the allowed sizes, if zero is a
    number like any other. -/
theorem IsValid.resized (hp : p.IsValid) (hfinite : Scalar.finite (0 : α) = true)
    (hzero : Scalar.lt (0 : α) 0 = false) (hn : 1 ≤ n) (hn' : n ≤ 10) (hm : 1 ≤ m)
    (hm' : m ≤ 10) : (p.resized n m).IsValid where
  n_pos := hn
  n_le := hn'
  m_pos := hm
  m_le := hm'
  objective_shape := congrArg (fun k => [k]) (length_resizeRow n.toNat _)
  coefficients_shape := congrArg (fun k => [k, n.toNat]) (length_resizeRows m.toNat n.toNat _)
  bounds_shape := congrArg (fun k => [k]) (length_resizeRow m.toNat _)
  operator_count := by
    show ((resizeOperators m.toNat p.operators).length : Int) = m
    rw [length_resizeOperators, Int.toNat_of_nonneg (by omega)]
  objective_finite := forall_mem_resizeRow hfinite hp.objective_finite n.toNat
  coefficients_finite := by
    refine forall_mem_resizeRows hfinite ?_ m.toNat n.toNat
    rw [hp.flatten_rows]
    exact hp.coefficients_finite
  bounds_finite := forall_mem_resizeRow hfinite hp.bounds_finite m.toNat
  bounds_nonneg := forall_mem_resizeRow hzero hp.bounds_nonneg m.toNat
  all_atMost := by
    intro r hr
    rcases List.mem_append.1 hr with hr | hr
    · exact hp.all_atMost r (List.mem_of_mem_take hr)
    · exact List.eq_of_mem_replicate hr

/-! ## Growth -/

theorem cost_resized (p : Program α) (m : Int) {j : Nat} (hj : j < n.toNat) :
    (p.resized n m).cost j = p.cost j :=
  getD_resizeRow hj p.objective.entries

theorem bound_resized (p : Program α) (n : Int) {i : Nat} (hi : i < m.toNat) :
    (p.resized n m).bound i = p.bound i :=
  getD_resizeRow hi p.bounds.entries

/-- The rows of a resized program are its rows, resized. -/
theorem row_resized (p : Program α) (n : Int) {i : Nat} (hi : i < m.toNat) :
    (p.resized n m).row i = resizeRow n.toNat (p.rows.getD i []) := by
  have hpieces := Block.pieces_flatten (width_resizeRows m.toNat n.toNat p.rows)
  have hget := getElem?_resizeRows hi n.toNat p.rows
  rw [← hpieces, Block.getElem?_pieces (by rwa [length_resizeRows])] at hget
  exact Option.some.inj hget

theorem IsValid.coefficient_resized (hp : p.IsValid) {i j : Nat} (hi : i < m.toNat)
    (hj : j < n.toNat) : (p.resized n m).coefficient i j =
      if i < p.m.toNat ∧ j < p.n.toNat then p.coefficient i j else 0 := by
  rw [← getD_row _ i hj, row_resized p n hi, getD_resizeRow hj, hp.getD_rows]
  by_cases him : i < p.m.toNat
  · rw [if_pos him]
    by_cases hjn : j < p.n.toNat
    · rw [if_pos ⟨him, hjn⟩, getD_row p i hjn]
    · rw [if_neg fun h => hjn h.2, List.getD_eq_default _ _ (by
        rw [hp.length_row him]
        exact Nat.not_lt.1 hjn)]
  · rw [if_neg him, if_neg fun h => him h.1]
    rfl

/-- A program is another one grown to more variables and constraints: its own numbers come
    first, and all new ones are zero. -/
structure Grows (p q : Program α) : Prop where
  valid : p.IsValid
  valid' : q.IsValid
  n_le : p.n.toNat ≤ q.n.toNat
  m_le : p.m.toNat ≤ q.m.toNat
  cost : ∀ j < p.n.toNat, q.cost j = p.cost j
  new_cost : ∀ j < q.n.toNat, p.n.toNat ≤ j → q.cost j = 0
  bound : ∀ i < p.m.toNat, q.bound i = p.bound i
  coefficient : ∀ i < p.m.toNat, ∀ j < p.n.toNat, q.coefficient i j = p.coefficient i j
  new_coefficient : ∀ i < q.m.toNat, ∀ j < q.n.toNat, p.m.toNat ≤ i ∨ p.n.toNat ≤ j →
    q.coefficient i j = 0

end Resized

/-- A valid program grows within the allowed sizes. -/
theorem grows_resized {p : Program Rat} {n m : Int} (hp : p.IsValid) (hn : p.n ≤ n)
    (hn' : n ≤ 10) (hm : p.m ≤ m) (hm' : m ≤ 10) : p.Grows (p.resized n m) := by
  have hn1 := hp.n_pos
  have hm1 := hp.m_pos
  have hnle : p.n.toNat ≤ n.toNat := Int.toNat_le_toNat hn
  have hmle : p.m.toNat ≤ m.toNat := Int.toNat_le_toNat hm
  have hzero : Scalar.lt (0 : Rat) 0 = false := Bool.eq_false_iff.2 (by simp)
  refine ⟨hp, hp.resized rfl hzero (by omega) hn' (by omega) hm', hnle, hmle, ?_, ?_, ?_, ?_, ?_⟩
  · intro j hj
    exact cost_resized p m (by omega)
  · intro j (hj : j < n.toNat) hge
    have hlength := Block.size_of_vector hp.objective_shape
    rw [cost_resized p m hj, cost, List.getD_eq_default _ _ (by omega)]
  · intro i hi
    exact bound_resized p n (by omega)
  · intro i hi j hj
    rw [hp.coefficient_resized (by omega) (by omega), if_pos ⟨hi, hj⟩]
  · intro i (hi : i < m.toNat) j (hj : j < n.toNat) hnew
    rw [hp.coefficient_resized hi hj, if_neg (by omega)]

end Program

end ProductionLP
