import Mathlib.Data.List.TakeDrop
import ProductionLP.Proofs.Fallible
import ProductionLP.Proofs.Program.Resized

/- Resizing again.

   Every part of a resized program is a list cut or filled up to a length (`List.takeD`), and
   cutting twice is cutting once unless the first cut loses what the second one keeps
   (`takeD_takeD`). From this:

   1. resizing fails only for lack of room, and otherwise yields `resized`, which has the sizes
      that were asked for (`resize_eq_map`, `hasSizes_resized`); which arrays there is room for is
      up to the machine (`roomFor_eq_ok_iff`);
   2. a program that is resized twice is as if it had only been resized the second time, if its
      parts survive the first time along both axes (`resized_resized`);
   3. a program that has its sizes is left as it is (`HasSizes.resized_self`).

   `resize_composes` puts these together. Sizes below one are refused, also when they are the
   sizes that a program has (`resize_blank`). -/
namespace ProductionLP

/-! ## Lists of a length -/

section Lists

variable {α β : Type}

theorem take_append_replicate (x : α) (n : Nat) (xs : List α) :
    xs.take n ++ List.replicate (n - xs.length) x = xs.takeD n x := by
  induction n generalizing xs with
  | zero => simp
  | succ n ih => cases xs with
    | nil => simp [List.replicate_succ]
    | cons y ys => simpa using ih ys

theorem takeD_takeD (x : α) {n k : Nat} {xs : List α} (h : k ≤ n ∨ xs.length ≤ n) :
    (xs.takeD n x).takeD k x = xs.takeD k x := by
  induction k generalizing n xs with
  | zero => simp
  | succ k ih =>
    cases n with
    | zero =>
      obtain rfl : xs = [] := List.eq_nil_of_length_eq_zero (by omega)
      simp
    | succ n =>
      have htail : k ≤ n ∨ xs.tail.length ≤ n := by
        rw [List.length_tail]
        omega
      simp [ih htail]

theorem map_takeD (f : α → β) (x : α) (n : Nat) (xs : List α) :
    (xs.takeD n x).map f = (xs.map f).takeD n (f x) := by
  rw [← take_append_replicate, ← take_append_replicate, List.map_append, List.map_take,
    List.map_replicate, List.length_map]

theorem takeD_self (x : α) {n : Nat} {xs : List α} (h : xs.length = n) : xs.takeD n x = xs := by
  have hleft : (xs ++ []).takeD n x = xs := List.takeD_left' h
  rwa [List.append_nil] at hleft

end Lists

namespace Block

variable {α : Type}

theorem eq_of_entries {b c : Block α} (hshape : b.shape = c.shape)
    (hentries : b.entries = c.entries) : b = c := by
  obtain ⟨shape, entries, fits⟩ := b
  subst hshape hentries
  rfl

theorem matrix_congr {rows rows' : List (List α)} {width : Nat} (h : rows = rows')
    (hrows : ∀ r ∈ rows, r.length = width) (hrows' : ∀ r ∈ rows', r.length = width) :
    matrix rows width hrows = matrix rows' width hrows' := by
  subst h
  rfl

/-- A vector is made of its entries. -/
theorem vector_entries {b : Block α} {length : Nat} (h : b.shape = [length]) :
    vector b.entries = b := by
  refine eq_of_entries ?_ rfl
  rw [h]
  exact congrArg (fun k => [k]) (size_of_vector h)

/-- A matrix is made of its rows. -/
theorem matrix_of_flatten {b : Block α} {rows : List (List α)} {width : Nat}
    (h : b.shape = [rows.length, width]) (hrows : ∀ r ∈ rows, r.length = width)
    (hflatten : rows.flatten = b.entries) : matrix rows width hrows = b :=
  eq_of_entries h.symm hflatten

/-! ## Room -/

theorem le_volume {shape : List Nat} (h : ∀ a ∈ shape, 0 < a) :
    ∀ a ∈ shape, a ≤ volume shape := by
  induction shape with
  | nil => simp
  | cons b rest ih =>
    have hb := h b List.mem_cons_self
    have hrest := ih fun a ha => h a (List.mem_cons_of_mem b ha)
    have hpos : 0 < volume rest := by
      cases rest with
      | nil => exact Nat.one_pos
      | cons c _ => exact Nat.lt_of_lt_of_le (h c (by simp)) (hrest c List.mem_cons_self)
    intro a ha
    rw [volume]
    rcases List.mem_cons.1 ha with rfl | ha
    · exact Nat.le_mul_of_pos_right a hpos
    · exact Nat.le_trans (hrest a ha) (Nat.le_mul_of_pos_left _ hb)

/-- An array without an empty axis can be made exactly if its octets can be counted and are
    granted. -/
theorem checkRoom_of_pos {shape : List Nat} {room : Nat → Bool} (hpos : ∀ a ∈ shape, 0 < a) :
    checkRoom shape room = .ok () ↔ numberOctets * volume shape < lengthEnd ∧
      room (numberOctets * volume shape) = true := by
  have hfilter : shape.filter (· != 0) = shape :=
    List.filter_eq_self.2 fun a ha => bne_iff_ne.2 (Nat.ne_of_gt (hpos a ha))
  rw [checkRoom_eq_ok_iff, octetsOf, hfilter]
  -- an axis is no longer than the array has octets
  refine and_iff_right_of_imp fun h a ha => Nat.lt_of_le_of_lt ?_ h.1
  exact Nat.le_trans (le_volume hpos a ha) (Nat.le_mul_of_pos_left _ (by decide))

end Block

namespace Program

/-- The arrays of a program with these sizes can be described, and their octets are granted. -/
structure Grants (room : Nat → Bool) (n m : Int) : Prop where
  describable : Block.numberOctets * (m.toNat * n.toNat) < Block.lengthEnd
  columns : room (Block.numberOctets * n.toNat) = true
  matrix : room (Block.numberOctets * (m.toNat * n.toNat)) = true
  rows : room (Block.numberOctets * m.toNat) = true

/-- A program can be made exactly if its arrays are granted. Its matrix is the largest of them. -/
theorem roomFor_eq_ok_iff {room : Nat → Bool} {n m : Int} (hn : 1 ≤ n) (hm : 1 ≤ m) :
    roomFor room n m = .ok () ↔ Grants room n m := by
  have hn : 0 < n.toNat := by omega
  have hm : 0 < m.toNat := by omega
  have hcolumns : n.toNat ≤ m.toNat * n.toNat := Nat.le_mul_of_pos_left _ hm
  have hrows : m.toNat ≤ m.toNat * n.toNat := Nat.le_mul_of_pos_right _ hn
  show (liftFault (Block.checkRoom [n.toNat] room) >>= fun _ =>
    liftFault (Block.checkRoom [m.toNat, n.toNat] room) >>= fun _ =>
      liftFault (Block.checkRoom [m.toNat] room)) = _ ↔ _
  rw [check_bind_eq_ok_iff, check_bind_eq_ok_iff, liftFault_eq_ok_iff, liftFault_eq_ok_iff,
    liftFault_eq_ok_iff, Block.checkRoom_of_pos (by simp [hn]),
    Block.checkRoom_of_pos (by simp [hn, hm]), Block.checkRoom_of_pos (by simp [hm])]
  simp only [Block.volume, Nat.mul_one]
  constructor
  · rintro ⟨⟨_, hn⟩, ⟨hdescribable, hmatrix⟩, _, hm⟩
    exact ⟨hdescribable, hn, hmatrix, hm⟩
  · intro h
    have hdescribable := h.describable
    refine ⟨⟨?_, h.columns⟩, ⟨hdescribable, h.matrix⟩, ?_, h.rows⟩
    · exact Nat.lt_of_le_of_lt (Nat.mul_le_mul_left _ hcolumns) hdescribable
    · exact Nat.lt_of_le_of_lt (Nat.mul_le_mul_left _ hrows) hdescribable

/-- Little room is enough for a small program. -/
theorem grants_of_le {room : Nat → Bool} {n m : Int}
    (hroom : ∀ octets ≤ 800, room octets = true) (hn : n ≤ 10) (hm : m ≤ 10) :
    Grants room n m := by
  have hn : n.toNat ≤ 10 := by omega
  have hm : m.toNat ≤ 10 := by omega
  have hmatrix : m.toNat * n.toNat ≤ 10 * 10 := Nat.mul_le_mul hm hn
  constructor
  case describable => exact Nat.lt_of_le_of_lt (Nat.mul_le_mul_left 8 hmatrix) (by decide)
  case columns => exact hroom _ (by rw [Block.numberOctets]; omega)
  case matrix => exact hroom _ (by rw [Block.numberOctets]; omega)
  case rows => exact hroom _ (by rw [Block.numberOctets]; omega)

section Parts

variable {α : Type} [Scalar α]

theorem resizeRow_eq_takeD (width : Nat) (row : List α) :
    resizeRow width row = row.takeD width 0 :=
  take_append_replicate 0 width row

theorem resizeOperators_eq_takeD (count : Nat) (operators : List Relation) :
    resizeOperators count operators = operators.takeD count .atMost :=
  take_append_replicate Relation.atMost count operators

/-- New rows are resized rows too, of nothing. -/
theorem resizeRows_eq_takeD (height width : Nat) (rows : List (List α)) :
    resizeRows height width rows =
      (rows.map (resizeRow width)).takeD height (resizeRow width []) := by
  rw [← take_append_replicate, ← List.map_take, List.length_map]
  rfl

theorem resizeRow_resizeRow {a c : Nat} {row : List α} (h : c ≤ a ∨ row.length ≤ a) :
    resizeRow c (resizeRow a row) = resizeRow c row := by
  rw [resizeRow_eq_takeD, resizeRow_eq_takeD, resizeRow_eq_takeD, takeD_takeD 0 h]

theorem resizeRow_self {width : Nat} {row : List α} (h : row.length = width) :
    resizeRow width row = row := by
  rw [resizeRow_eq_takeD, takeD_self 0 h]

/-- Rows can be cut and filled along each axis on its own. -/
theorem resizeRows_resizeRows {a b c d width : Nat} {rows : List (List α)}
    (hwidth : ∀ r ∈ rows, r.length = width) (hcolumns : c ≤ a ∨ width ≤ a)
    (hrows : d ≤ b ∨ rows.length ≤ b) :
    resizeRows d c (resizeRows b a rows) = resizeRows d c rows := by
  have hnew : resizeRow c (resizeRow a ([] : List α)) = resizeRow c [] :=
    resizeRow_resizeRow (.inr (Nat.zero_le a))
  have hold : (rows.map (resizeRow a)).map (resizeRow c) = rows.map (resizeRow c) := by
    rw [List.map_map]
    refine List.map_congr_left fun r hr => resizeRow_resizeRow ?_
    rwa [hwidth r hr]
  calc resizeRows d c (resizeRows b a rows)
      = (((rows.map (resizeRow a)).takeD b (resizeRow a [])).map (resizeRow c)).takeD d
          (resizeRow c []) := by rw [resizeRows_eq_takeD, resizeRows_eq_takeD]
    _ = ((rows.map (resizeRow c)).takeD b (resizeRow c [])).takeD d (resizeRow c []) := by
        rw [map_takeD, hold, hnew]
    _ = (rows.map (resizeRow c)).takeD d (resizeRow c []) :=
        takeD_takeD _ (by rwa [List.length_map])
    _ = resizeRows d c rows := (resizeRows_eq_takeD d c rows).symm

theorem resizeRows_self {height width : Nat} {rows : List (List α)}
    (hwidth : ∀ r ∈ rows, r.length = width) (hheight : rows.length = height) :
    resizeRows height width rows = rows := by
  have hsame : rows.map (resizeRow width) = rows := by
    conv => rhs; rw [← List.map_id rows]
    exact List.map_congr_left fun r hr => resizeRow_self (hwidth r hr)
  rw [resizeRows_eq_takeD, hsame, takeD_self _ hheight]

end Parts

/-! ## Programs -/

section Programs

variable {α : Type}

/-- A program has sizes when they are declared and all parts have the shapes that they
    announce. -/
structure HasSizes (p : Program α) (n m : Int) : Prop where
  n_eq : p.n = n
  m_eq : p.m = m
  objective_shape : p.objective.shape.map Int.ofNat = [n]
  coefficients_shape : p.coefficients.shape.map Int.ofNat = [m, n]
  bounds_shape : p.bounds.shape.map Int.ofNat = [m]
  operator_count : (p.operators.length : Int) = m

/-- The rows of a matrix are all of its entries. -/
theorem rows_of_matrix {p : Program α} {height width : Nat} (h : p.coefficients.shape = [height, width]) :
    p.rows.length = height ∧ (∀ r ∈ p.rows, r.length = width) ∧
      p.rows.flatten = p.coefficients.entries := by
  have hlength := Block.size_of_matrix h
  have hrows : p.rows = Block.pieces width height p.coefficients.entries := by
    rw [rows, Block.toRows?, h]
    rfl
  rw [hrows]
  exact ⟨Block.length_pieces .., Block.length_of_mem_pieces hlength, Block.flatten_pieces hlength⟩

variable [Scalar α] {p : Program α} {n m : Int}

theorem resize_eq_sizes {room : Nat → Bool} (h : n < 1 ∨ m < 1) :
    p.resize n m room = .error (.problem .sizes) :=
  if_pos h

theorem hasSizes_resized (p : Program α) (hn : 0 ≤ n) (hm : 0 ≤ m) :
    (p.resized n m).HasSizes n m := by
  have hn := Int.toNat_of_nonneg hn
  have hm := Int.toNat_of_nonneg hm
  have hobjective : (resizeRow n.toNat p.objective.entries).length = n.toNat :=
    length_resizeRow ..
  have hcoefficients : (resizeRows m.toNat n.toNat p.rows).length = m.toNat := length_resizeRows ..
  have hbounds : (resizeRow m.toNat p.bounds.entries).length = m.toNat := length_resizeRow ..
  refine ⟨rfl, rfl, ?_, ?_, ?_, ?_⟩
  · simp [resized, Block.vector, hobjective, hn]
  · simp [resized, Block.matrix, hcoefficients, hn, hm]
  · simp [resized, Block.vector, hbounds, hm]
  · simp [resized, length_resizeOperators, hm]

theorem rows_resized (p : Program α) (n m : Int) :
    (p.resized n m).rows = resizeRows m.toNat n.toNat p.rows :=
  Block.pieces_flatten (width_resizeRows m.toNat n.toNat p.rows)

/-- The first of two resizings leaves no trace, if it keeps what the second one keeps. -/
theorem resized_resized {k l height width : Nat} (hobjective : p.objective.shape = [k])
    (hcoefficients : p.coefficients.shape = [height, width]) (hbounds : p.bounds.shape = [l])
    {a b c d : Int} (hcolumns : c ≤ a ∨ (k : Int) ≤ a ∧ (width : Int) ≤ a)
    (hrows : d ≤ b ∨ (height : Int) ≤ b ∧ (l : Int) ≤ b ∧ (p.operators.length : Int) ≤ b) :
    (p.resized a b).resized c d = p.resized c d := by
  have hk := Block.size_of_vector hobjective
  have hl := Block.size_of_vector hbounds
  obtain ⟨hheight, hwidth, _⟩ := rows_of_matrix hcoefficients
  have hcosts : resizeRow c.toNat (resizeRow a.toNat p.objective.entries) =
      resizeRow c.toNat p.objective.entries := resizeRow_resizeRow (by omega)
  have hmatrix : resizeRows d.toNat c.toNat (p.resized a b).rows =
      resizeRows d.toNat c.toNat p.rows := by
    rw [rows_resized]
    exact resizeRows_resizeRows hwidth (by omega) (by omega)
  have hstock : resizeRow d.toNat (resizeRow b.toNat p.bounds.entries) =
      resizeRow d.toNat p.bounds.entries := resizeRow_resizeRow (by omega)
  have hsymbols : resizeOperators d.toNat (resizeOperators b.toNat p.operators) =
      resizeOperators d.toNat p.operators := by
    rw [resizeOperators_eq_takeD, resizeOperators_eq_takeD, resizeOperators_eq_takeD,
      takeD_takeD _ (by omega)]
  rw [resized, resized]
  congr 1
  · exact congrArg Block.vector hcosts
  · exact Block.matrix_congr hmatrix _ _
  · exact congrArg Block.vector hstock

/-- A program stays as it is at its own sizes. -/
theorem HasSizes.resized_self (h : p.HasSizes n m) : p.resized n m = p := by
  have hobjective := shape_of_map_ofNat h.objective_shape
  have hcoefficients := shape_of_map_ofNat h.coefficients_shape
  have hbounds := shape_of_map_ofNat h.bounds_shape
  have hcount := h.operator_count
  obtain ⟨hheight, hwidth, hflatten⟩ := rows_of_matrix hcoefficients
  obtain rfl := h.n_eq
  obtain rfl := h.m_eq
  have hcosts : Block.vector (resizeRow p.n.toNat p.objective.entries) = p.objective := by
    rw [resizeRow_self (Block.size_of_vector hobjective), Block.vector_entries hobjective]
  have hmatrix : Block.matrix (resizeRows p.m.toNat p.n.toNat p.rows) p.n.toNat
      (width_resizeRows p.m.toNat p.n.toNat p.rows) = p.coefficients := by
    rw [Block.matrix_congr (resizeRows_self hwidth hheight) _ hwidth]
    exact Block.matrix_of_flatten (by rw [hcoefficients, hheight]; rfl) hwidth hflatten
  have hstock : Block.vector (resizeRow p.m.toNat p.bounds.entries) = p.bounds := by
    rw [resizeRow_self (Block.size_of_vector hbounds), Block.vector_entries hbounds]
  have hsymbols : resizeOperators p.m.toNat p.operators = p.operators := by
    rw [resizeOperators_eq_takeD, takeD_self _ (by omega)]
  rw [resized, hcosts, hmatrix, hstock, hsymbols]

/-- **Resizing composes, keeps a program at its own sizes, and keeps it valid.** Resizing a
    program of two vectors and a matrix to sizes of at least one yields a program with these sizes
    on every machine that grants its arrays, and fails on the others. Resizing that program again
    is resizing the program itself, unless an axis was cut below what the second resizing keeps.
    A program that has sizes of at least one is what it is resized to at these sizes, also after
    it has grown. -/
theorem resize_composes {p : Program Float} {k l height width : Nat}
    (hobjective : p.objective.shape = [k]) (hcoefficients : p.coefficients.shape = [height, width])
    (hbounds : p.bounds.shape = [l]) {a b c d : Int} (ha : 1 ≤ a) (hb : 1 ≤ b) (hc : 1 ≤ c)
    (hd : 1 ≤ d) :
    (∀ room, roomFor room a b = .ok () ↔ Grants room a b) ∧
      ∃ q, (∀ room, p.resize a b room = (roomFor room a b).map fun _ => q) ∧ q.HasSizes a b ∧
        (c ≤ a ∨ (k : Int) ≤ a ∧ (width : Int) ≤ a →
          d ≤ b ∨ (height : Int) ≤ b ∧ (l : Int) ≤ b ∧ (p.operators.length : Int) ≤ b →
          ∀ room, q.resize c d room = p.resize c d room) ∧
        (p.HasSizes p.n p.m → 1 ≤ p.n → 1 ≤ p.m → ∀ room,
          p.resize p.n p.m room = (roomFor room p.n p.m).map (fun _ => p) ∧
            (p.n ≤ a → p.m ≤ b →
              q.resize p.n p.m room = (roomFor room p.n p.m).map fun _ => p)) ∧
        (p.validate = .ok () → a ≤ 10 → b ≤ 10 → q.validate = .ok () ∧
          ∀ room : Nat → Bool, (∀ octets ≤ 800, room octets = true) → p.resize a b room = .ok q) := by
  have hsizes := hasSizes_resized p (Int.le_trans Int.one_nonneg ha) (Int.le_trans Int.one_nonneg hb)
  have honce : ∀ {c d : Int} (room : Nat → Bool), 1 ≤ c → 1 ≤ d →
      p.resize c d room = (roomFor room c d).map fun _ => p.resized c d := fun _ hc hd =>
    resize_eq_map hobjective hcoefficients hbounds hc hd
  have hagain : ∀ {c d : Int} (room : Nat → Bool), 1 ≤ c → 1 ≤ d →
      (p.resized a b).resize c d room =
        (roomFor room c d).map fun _ => (p.resized a b).resized c d := fun _ hc hd =>
    resize_eq_map rfl rfl rfl hc hd
  refine ⟨fun _ => roomFor_eq_ok_iff ha hb, p.resized a b, fun room => honce room ha hb, hsizes,
    ?_, ?_, ?_⟩
  · intro hcolumns hrows room
    rw [hagain room hc hd, honce room hc hd,
      resized_resized hobjective hcoefficients hbounds hcolumns hrows]
  · intro hown hn hm room
    refine ⟨?_, fun hna hmb => ?_⟩
    · rw [honce room hn hm, hown.resized_self]
    · rw [hagain room hn hm, resized_resized hobjective hcoefficients hbounds, hown.resized_self]
      · exact .inl hna
      · exact .inl hmb
  · intro hvalid ha' hb'
    have hp := (validate_eq_ok_iff p).1 hvalid
    refine ⟨(validate_eq_ok_iff _).2 (hp.resized (by rfl) (by rfl) ha ha' hb hb'),
      fun room hroom => ?_⟩
    rw [honce room ha hb, (roomFor_eq_ok_iff ha hb).2 (grants_of_le hroom ha' hb')]
    rfl

/-- A program whose parts have other lengths than it declares. -/
def uneven : Program Float :=
  ⟨9, 1, .vector [5, 3], .matrix [[3, 2, 7]] 3 (by decide), .vector [100, 80], [.atLeast]⟩

theorem resize_composes_uneven :
    uneven.objective.shape = [2] ∧ uneven.coefficients.shape = [1, 3] ∧
      uneven.bounds.shape = [2] ∧ ∃ q, uneven.resize 3 2 = .ok q ∧ q.HasSizes 3 2 ∧
        q.resize 5 4 = uneven.resize 5 4 := by
  obtain ⟨hroom, q, hq, hsizes, hagain, _⟩ :=
    resize_composes (p := uneven) (a := 3) (b := 2) (c := 5) (d := 4) rfl rfl rfl (by decide)
      (by decide) (by decide) (by decide)
  have hgrants : Grants Block.usualRoom 3 2 := ⟨by decide, rfl, rfl, rfl⟩
  have hok := hq Block.usualRoom
  rw [(hroom _).2 hgrants] at hok
  exact ⟨rfl, rfl, rfl, q, hok, hsizes, hagain (.inr (by decide)) (.inr (by decide)) _⟩

/-- A program without variables and constraints. -/
def blank : Program Float := ⟨0, 0, .vector [], .matrix [] 0 (by simp), .vector [], []⟩

/-- A program may have no variables and no constraints, but nothing is resized to that. No machine
    makes axes that are longer than places can be counted, and one that grants nothing makes
    nothing. -/
theorem resize_blank :
    ofLists (.list []) (.list []) (.list []) .null .null .null = .ok blank ∧
      blank.HasSizes blank.n blank.m ∧
      (∀ room, blank.resize blank.n blank.m room = .error (.problem .sizes)) ∧
      (∀ room, sample.resize (2 ^ 63) 1 room = .error (.fault .longAxis)) ∧
      sample.resize 2 2 (fun _ => false) = .error (.fault .outOfMemory) := by
  exact ⟨rfl, ⟨rfl, rfl, rfl, rfl, rfl, rfl⟩, fun _ => rfl, fun _ => rfl, rfl⟩

end Programs

end Program

end ProductionLP
