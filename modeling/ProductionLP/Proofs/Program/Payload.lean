import ProductionLP.Proofs.Program.InPlace
import ProductionLP.Proofs.Program.ResizeLaws
import ProductionLP.Proofs.Program.Shape

/- Payloads.

   The payload of a program holds its vectors as lists of numbers, its matrix as a list of such
   lists and its operators by their symbols. A matrix without rows leaves an empty list behind,
   which says nothing of its width, so reading a matrix relies on the entries of its rows
   (`Value.toBlock_rows`) and on the declared number of variables. What is read from lists can
   be written as lists again (`isListed_of_ofLists`), resizing keeps it so (`IsListed.resize`),
   and such lists are read back as they were (`IsListed.ofLists_eq_ok`). -/
namespace ProductionLP

/-! ## Nested lists of numbers -/

namespace Value

theorem pieces_one {α : Type} (xs : List α) : Block.pieces 1 xs.length xs = xs.map ([·]) := by
  induction xs with
  | nil => rfl
  | cons x rest ih => simp [Block.pieces, ih]

theorem nested_vector {xs : List Float} {length : Nat} (h : xs.length = length) :
    nested [length] xs = ofFloats xs := by
  subst h
  rw [nested, Block.volume, pieces_one, List.map_map]
  rfl

/-- A vector is a list of numbers. -/
theorem ofBlock_vector {b : Block Float} {length : Nat} (h : b.shape = [length]) :
    ofBlock b = ofFloats b.entries := by
  rw [ofBlock, h, nested_vector (Block.size_of_vector h)]

/-- A vector is read back from the list. -/
theorem toVector_ofBlock {b : Block Float} {length : Nat} (h : b.shape = [length]) :
    (ofBlock b).toVector = .ok b := by
  rw [ofBlock_vector h, ofFloats, toVector_floats, Block.vector_entries h]

/-- A matrix is a list of its rows. -/
theorem ofBlock_matrix {b : Block Float} {height width : Nat} (h : b.shape = [height, width]) :
    ofBlock b = .list ((Block.pieces width height b.entries).map ofFloats) := by
  have hwidth := Block.length_of_mem_pieces (Block.size_of_matrix h)
  rw [ofBlock, h, nested, Block.volume, Block.volume, Nat.mul_one]
  exact congrArg Value.list (List.map_congr_left fun r hr => nested_vector (hwidth r hr))

section Rows

variable {rows : List (List Float)} {width : Nat}

theorem hasKnot_ofFloats (xs : List Float) : (ofFloats xs).hasKnot = false := by
  rw [ofFloats, hasKnot, anyKnot_floats]

theorem layout_ofFloats (xs : List Float) : layout (ofFloats xs) = ([xs.length], true) := by
  rw [ofFloats, layout, layoutList_floats]

theorem entries_ofFloats (xs : List Float) : entries (ofFloats xs) = .ok xs := by
  rw [ofFloats, entries, entriesItems_floats]

theorem anyKnot_rows (rows : List (List Float)) : anyKnot (rows.map ofFloats) = false := by
  induction rows with
  | nil => rfl
  | cons r rest ih => rw [List.map_cons, anyKnot, hasKnot_ofFloats, ih]; rfl

theorem layoutItems_rows (h : ∀ r ∈ rows, r.length = width) :
    layoutItems ([width], true) (rows.map ofFloats) = ([width], true) := by
  induction rows with
  | nil => rfl
  | cons r rest ih =>
    have hr := h r List.mem_cons_self
    rw [List.map_cons, layoutItems, layout_ofFloats, hr]
    simpa [commonShape] using ih fun x hx => h x (List.mem_cons_of_mem r hx)

theorem entriesItems_rows (rows : List (List Float)) :
    entriesItems (rows.map ofFloats) = .ok rows.flatten := by
  induction rows with
  | nil => rfl
  | cons r rest ih => rw [List.map_cons, entriesItems, entries_ofFloats, ih]; rfl

/-- Rows of one width have a shape, which says nothing of the width when there are none. -/
theorem shape?_rows (h : ∀ r ∈ rows, r.length = width) :
    ∃ shape, (Value.list (rows.map ofFloats)).shape? = .ok shape ∧
      rows.flatten.length = Block.volume shape := by
  cases rows with
  | nil => exact ⟨[0], rfl, rfl⟩
  | cons r rest =>
    have hr := h r List.mem_cons_self
    have hrest := layoutItems_rows fun x hx => h x (List.mem_cons_of_mem r hx)
    refine ⟨[rest.length + 1, width], ?_, ?_⟩
    · rw [shape?, layout, List.map_cons, layoutList, layout_ofFloats, hr, hrest, List.length_map]
      rfl
    · rw [Block.length_flatten_of_width h, Block.volume, Block.volume, Block.volume, Nat.mul_one,
        List.length_cons]

/-- The entries of rows are read row after row. -/
theorem toBlock_rows (h : ∀ r ∈ rows, r.length = width) :
    ∃ b, (Value.list (rows.map ofFloats)).toBlock = .ok b ∧ b.entries = rows.flatten := by
  obtain ⟨shape, hshape, hvolume⟩ := shape?_rows h
  have hunrolled : (Value.list (rows.map ofFloats)).unrolled = .list (rows.map ofFloats) := by
    rw [unrolled, hasKnot, anyKnot_rows]
    rfl
  have hentries : entries (.list (rows.map ofFloats)) = .ok rows.flatten := entriesItems_rows rows
  refine ⟨⟨shape, rows.flatten, hvolume⟩, ?_, rfl⟩
  rw [toBlock, hunrolled, hshape]
  show (entries (.list (rows.map ofFloats)) >>= _) = _
  rw [hentries]
  exact dif_pos hvolume

end Rows

end Value

/-! ## Operators -/

namespace Relation

/-- An operator that has a symbol of its own. -/
def IsKnown (r : Relation) : Prop := r = .atMost ∨ r = .atLeast ∨ r = .equal

/-- The symbol of a known operator is read back. -/
theorem IsKnown.ofValue_symbol {r : Relation} (h : r.IsKnown) : ofValue r.symbol = .ok r := by
  rcases h with rfl | rfl | rfl <;> rfl

theorem isKnown_of_ofText? {s : String} {r : Relation} (h : ofText? s = some r) : r.IsKnown := by
  rw [ofText?] at h
  split at h
  · exact .inl (Option.some.inj h).symm
  split at h
  · exact .inr (.inl (Option.some.inj h).symm)
  split at h
  · exact .inr (.inr (Option.some.inj h).symm)
  · cases h

/-- Every operator that was read is a known one. -/
theorem isKnown_of_ofValue {v : Value} {r : Relation} (h : ofValue v = .ok r) : r.IsKnown := by
  obtain ⟨s, _, h⟩ := exists_of_bind_eq_ok h
  split at h
  · next r' hr =>
    cases h
    exact isKnown_of_ofText? hr
  · cases h

end Relation

namespace Program

/-! ## Programs that can be written -/

section Matrices

theorem checkRows_eq_ok {rows : List (List Value)} {n : Int}
    (h : ∀ r ∈ rows, (r.length : Int) = n) (i : Nat) : checkRows n i rows = .ok () := by
  induction rows generalizing i with
  | nil => rfl
  | cons r rest ih =>
    rw [checkRows, if_pos (h r List.mem_cons_self)]
    exact ih (fun x hx => h x (List.mem_cons_of_mem r hx)) (i + 1)

/-- Rows make the matrix that has their entries, if it is as wide as is declared. -/
theorem matrixOfRows_of_toBlock {rows : List (List Value)} {n : Int} {read b : Block Float}
    (hread : (Value.list (rows.map .list)).toBlock = .ok read) (hn : 0 ≤ n)
    (hroom : Block.checkShape Block.numberOctets [rows.length, n.toNat] = .ok ())
    (hshape : b.shape = [rows.length, n.toNat]) (hentries : read.entries = b.entries) :
    matrixOfRows rows n = .ok b := by
  have hfits : 0 ≤ n ∧ read.entries.length = Block.volume [rows.length, n.toNat] := by
    rw [hentries, b.fits, hshape]
    exact ⟨hn, rfl⟩
  have hlong : ¬ n < -Int.ofNat Block.lengthEnd :=
    Int.not_lt.2 (Int.le_trans (Int.neg_nonpos_of_nonneg (Int.natCast_nonneg _)) hn)
  rw [matrixOfRows, hread]
  show (if n < -Int.ofNat Block.lengthEnd then _ else _) = _
  rw [if_neg hlong]
  show (Block.checkShape Block.numberOctets [rows.length, n.toNat] >>= _) = _
  rw [hroom]
  show (if h : 0 ≤ n ∧ read.entries.length = Block.volume [rows.length, n.toNat] then _ else _) = _
  rw [dif_pos hfits]
  exact congrArg Except.ok (Block.eq_of_entries hshape.symm hentries)

/-- The rows of a matrix of numbers make the matrix. -/
theorem matrixOfRows_pieces {b : Block Float} {height : Nat} {n : Int} (hn : 0 ≤ n)
    (hshape : b.shape = [height, n.toNat])
    (hroom : Block.checkShape Block.numberOctets [height, n.toNat] = .ok ()) :
    matrixOfRows ((Block.pieces n.toNat height b.entries).map (·.map .num)) n = .ok b := by
  have hlength := Block.size_of_matrix hshape
  obtain ⟨read, hread, hentries⟩ := Value.toBlock_rows (Block.length_of_mem_pieces hlength)
  rw [Block.flatten_pieces hlength] at hentries
  have hcount : ((Block.pieces n.toNat height b.entries).map (·.map Value.num)).length = height := by
    rw [List.length_map, Block.length_pieces]
  have hrows : ((Block.pieces n.toNat height b.entries).map (·.map Value.num)).map .list =
      (Block.pieces n.toNat height b.entries).map Value.ofFloats := List.map_map
  rw [← hrows] at hread
  refine matrixOfRows_of_toBlock hread hn ?_ ?_ hentries
  · rwa [hcount]
  · rwa [hcount]

end Matrices

/-- A program that lists can be written for: two vectors, a matrix as wide as the program
    declares, and operators that are read back from their symbols. -/
structure IsListed (p : Program Float) : Prop where
  n_nonneg : 0 ≤ p.n
  objective_shape : ∃ length, p.objective.shape = [length]
  coefficients_shape : ∃ height, p.coefficients.shape = [height, p.n.toNat] ∧
    Block.checkShape Block.numberOctets [height, p.n.toNat] = .ok ()
  bounds_shape : ∃ length, p.bounds.shape = [length]
  operators_read : ∀ r ∈ p.operators, Relation.ofValue r.symbol = .ok r

variable {objective coefficients bounds operators n m : Value} {p q : Program Float}

/-- The operators of such a program are known ones. -/
theorem IsListed.isKnown (hp : p.IsListed) : ∀ r ∈ p.operators, r.IsKnown :=
  fun r hr => Relation.isKnown_of_ofValue (hp.operators_read r hr)

theorem shape_of_toVector {v : Value} {b : Block Float} (h : v.toVector = .ok b) :
    ∃ length, b.shape = [length] := by
  obtain ⟨read, _, h⟩ := exists_of_bind_eq_ok h
  cases h
  exact ⟨_, rfl⟩

/-- What is read from lists can be written as lists. -/
theorem isListed_of_ofLists (h : ofLists objective coefficients bounds operators n m = .ok p) :
    p.IsListed := by
  obtain ⟨n, _, h⟩ := exists_of_bind_eq_ok h
  obtain ⟨m, _, h⟩ := exists_of_bind_eq_ok h
  obtain ⟨items, _, h⟩ := exists_of_bind_eq_ok h
  obtain ⟨rows, _, h⟩ := exists_of_bind_eq_ok h
  obtain ⟨_, _, h⟩ := exists_of_bind_eq_ok h
  obtain ⟨matrix, hmatrix, h⟩ := exists_of_bind_eq_ok h
  obtain ⟨costs, hcosts, h⟩ := exists_of_bind_eq_ok h
  obtain ⟨stock, hstock, h⟩ := exists_of_bind_eq_ok h
  -- operators are "at most" where none are given, and read one by one otherwise
  have hoperators : ∃ symbols, (∀ r ∈ symbols, Relation.ofValue r.symbol = .ok r) ∧
      p = ⟨n, m, costs, matrix, stock, symbols⟩ := by
    split at h
    · obtain ⟨symbols, hsymbols, h⟩ := exists_of_bind_eq_ok h
      cases hsymbols
      cases h
      refine ⟨_, fun r hr => ?_, rfl⟩
      rw [List.eq_of_mem_replicate hr]
      rfl
    · obtain ⟨items, _, h⟩ := exists_of_bind_eq_ok h
      obtain ⟨symbols, hsymbols, h⟩ := exists_of_bind_eq_ok h
      cases h
      refine ⟨_, fun r hr => ?_, rfl⟩
      obtain ⟨v, _, hv⟩ := exists_of_mem_mapM hsymbols hr
      exact (Relation.isKnown_of_ofValue hv).ofValue_symbol
  obtain ⟨symbols, hread, rfl⟩ := hoperators
  obtain ⟨hshape, hn, hroom⟩ := of_matrixOfRows (liftFault_eq_ok_iff.1 hmatrix)
  exact ⟨hn, shape_of_toVector (liftFault_eq_ok_iff.1 hcosts), ⟨_, hshape, hroom⟩,
    shape_of_toVector (liftFault_eq_ok_iff.1 hstock), hread⟩

/-- So can what is read from a configuration. -/
theorem isListed_of_programOf {tree : FileTree} {base : Path} {raw : Value}
    (h : Config.programOf tree base raw = .ok p) : p.IsListed := by
  obtain ⟨_, _, h⟩ := exists_of_bind_eq_ok h
  obtain ⟨_, _, h⟩ := exists_of_bind_eq_ok h
  obtain ⟨_, _, h⟩ := exists_of_bind_eq_ok h
  obtain ⟨_, _, h⟩ := exists_of_bind_eq_ok h
  obtain ⟨_, _, h⟩ := exists_of_bind_eq_ok h
  obtain ⟨_, _, h⟩ := exists_of_bind_eq_ok h
  obtain ⟨_, _, h⟩ := exists_of_bind_eq_ok h
  exact isListed_of_ofLists h

/-- A resized program can be written as lists too. -/
theorem IsListed.resize (hp : p.IsListed) {n m : Int} {room : Nat → Bool}
    (h : p.resize n m room = .ok q) : q.IsListed := by
  obtain ⟨k, hobjective⟩ := hp.objective_shape
  obtain ⟨height, hcoefficients, _⟩ := hp.coefficients_shape
  obtain ⟨l, hbounds⟩ := hp.bounds_shape
  have hsizes : 1 ≤ n ∧ 1 ≤ m := by
    by_contra hsmall
    rw [resize_eq_sizes (by omega)] at h
    cases h
  rw [resize_eq_map hobjective hcoefficients hbounds hsizes.1 hsizes.2] at h
  cases hroom : roomFor room n m with
  | error e =>
    rw [hroom] at h
    cases h
  | ok =>
    rw [hroom] at h
    cases h
    have hnonneg : 0 ≤ n := Int.le_trans Int.one_nonneg hsizes.1
    have hmatrix : (p.resized n m).coefficients.shape = [m.toNat, n.toNat] :=
      congrArg (fun count => [count, n.toNat]) (length_resizeRows m.toNat n.toNat p.rows)
    refine ⟨hnonneg, ⟨_, rfl⟩, ⟨m.toNat, hmatrix, ?_⟩, ⟨_, rfl⟩, ?_⟩
    · obtain ⟨_, _, hroom⟩ := exists_of_bind_eq_ok hroom
      obtain ⟨_, hroom, _⟩ := exists_of_bind_eq_ok hroom
      obtain ⟨_, hshape, _⟩ := exists_of_bind_eq_ok (liftFault_eq_ok_iff.1 hroom)
      exact hshape
    · intro r hr
      rcases List.mem_append.1 hr with hr | hr
      · exact hp.operators_read r (List.mem_of_mem_take hr)
      · rw [List.eq_of_mem_replicate hr]
        rfl

/-! ## Reading back -/

/-- Lists make a program part by part. -/
theorem ofLists_eq_ok {items symbols : List Value} {rows : List (List Value)} {n m : Int}
    {costs matrix stock : Block Float} {relations : List Relation}
    (hrows : items.mapM (fun row => liftFault row.items) = .ok rows)
    (hlengths : checkRows n 0 rows = .ok ()) (hmatrix : matrixOfRows rows n = .ok matrix)
    (hcosts : objective.toVector = .ok costs) (hstock : bounds.toVector = .ok stock)
    (hrelations : symbols.mapM Relation.ofValue = .ok relations) :
    ofLists objective (.list items) bounds (.list symbols) (.int n) (.int m) =
      .ok ⟨n, m, costs, matrix, stock, relations⟩ := by
  rw [ofLists, hcosts, hstock]
  show (items.mapM (fun row => liftFault row.items) >>= _) = _
  rw [hrows]
  show (liftProblem (checkRows n 0 rows) >>= _) = _
  rw [hlengths]
  show (liftFault (matrixOfRows rows n) >>= _) = _
  rw [hmatrix]
  show (symbols.mapM Relation.ofValue >>= _) = _
  rw [hrelations]
  rfl

/-- The lists of a program make the program. -/
theorem IsListed.ofLists_eq_ok (hp : p.IsListed) :
    ofLists (.ofBlock p.objective) (.ofBlock p.coefficients) (.ofBlock p.bounds)
      (.list (p.operators.map Relation.symbol)) (.int p.n) (.int p.m) = .ok p := by
  obtain ⟨k, hobjective⟩ := hp.objective_shape
  obtain ⟨height, hcoefficients, hroom⟩ := hp.coefficients_shape
  obtain ⟨l, hbounds⟩ := hp.bounds_shape
  have hwidth := Block.length_of_mem_pieces (Block.size_of_matrix hcoefficients)
  have hmatrix := matrixOfRows_pieces hp.n_nonneg hcoefficients hroom
  rw [Value.ofBlock_matrix hcoefficients]
  generalize Block.pieces p.n.toNat height p.coefficients.entries = rows at hwidth hmatrix
  refine Program.ofLists_eq_ok ?_ ?_ hmatrix
    (Value.toVector_ofBlock hobjective) (Value.toVector_ofBlock hbounds) ?_
  · rw [mapM_eq_ok_iff, List.forall₂_map_left_iff, List.forall₂_map_right_iff, List.forall₂_same]
    exact fun row _ => rfl
  · refine checkRows_eq_ok (fun row hrow => ?_) 0
    obtain ⟨r, hr, rfl⟩ := List.mem_map.1 hrow
    rw [List.length_map, hwidth r hr, Int.toNat_of_nonneg hp.n_nonneg]
  · rw [mapM_eq_ok_iff, List.forall₂_map_left_iff, List.forall₂_same]
    exact hp.operators_read

/-- A payload gives all parts in place, so reading it comes to reading its lists. -/
theorem ofPayload_toPayload (p : Program Float) : ofPayload p.toPayload =
    ofLists (.ofBlock p.objective) (.ofBlock p.coefficients) (.ofBlock p.bounds)
      (.list (p.operators.map Relation.symbol)) (.int p.n) (.int p.m) := rfl

theorem programOf_toPayload (p : Program Float) (tree : FileTree) (base : Path) :
    Config.programOf tree base p.toPayload =
      ofLists (.ofBlock p.objective) (.ofBlock p.coefficients) (.ofBlock p.bounds)
        (.list (p.operators.map Relation.symbol)) (.int p.n) (.int p.m) := rfl

/-- A program is read back from its payload, on its own and as a section of a configuration. -/
def ReadsBack (p : Program Float) : Prop :=
  ofPayload p.toPayload = .ok p ∧
    ∀ (tree : FileTree) (base : Path), Config.programOf tree base p.toPayload = .ok p

theorem IsListed.readsBack (hp : p.IsListed) : p.ReadsBack := by
  refine ⟨?_, fun tree base => ?_⟩
  · rw [ofPayload_toPayload, hp.ofLists_eq_ok]
  · rw [programOf_toPayload, hp.ofLists_eq_ok]

/-- **Payloads are read back.** Every program that is read from lists, whatever its numbers and
    whether or not its declared sizes are those of its parts, is read back from its payload as
    it is, and so is every program that it is resized to on any machine. -/
theorem payload_readsBack (h : ofLists objective coefficients bounds operators n m = .ok p) :
    p.ReadsBack ∧ ∀ (n m : Int) (room : Nat → Bool) (q : Program Float),
      p.resize n m room = .ok q → q.ReadsBack := by
  have hp := isListed_of_ofLists h
  exact ⟨hp.readsBack, fun n m room q hq => (hp.resize hq).readsBack⟩

/-- Lists of a program with four declared variables, three costs, no rows, and a bound and
    operators for constraints that it does not have. -/
def loose : Except Error (Program Float) :=
  ofLists (.list [.num 1.5, .text "-inf", .null]) (.list []) (.list [.bool true])
    (.list [.text ">=", .text " == "]) (.int 4) (.text "1")

theorem payload_readsBack_loose : ∃ p, loose = .ok p ∧ p.ReadsBack ∧
    ∃ q, p.resize 2 3 = .ok q ∧ q.ReadsBack := by
  obtain ⟨p, hp, q, hq⟩ : ∃ p, loose = .ok p ∧ ∃ q, p.resize 2 3 = .ok q := ⟨_, rfl, _, rfl⟩
  obtain ⟨hback, hresized⟩ := payload_readsBack hp
  exact ⟨p, hp, hback, q, hq, hresized 2 3 _ q hq⟩

end Program

end ProductionLP
