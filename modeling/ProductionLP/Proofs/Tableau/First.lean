import ProductionLP.Proofs.Program.Plan
import ProductionLP.Proofs.Tableau.Entry
import ProductionLP.Tableau.Build

/- The first tableau of a valid program.

   On a valid program every part already has the shape of its place, so spreading the parts
   changes nothing, and the build succeeds with `[A | I | b]` below the negated costs
   (`ofProgram_of_isValid`). -/
namespace ProductionLP

/-! ## Parts that already fit -/

namespace Block

variable {α : Type}

theorem flatten_pieces {size count : Nat} {xs : List α} (h : xs.length = count * size) :
    (pieces size count xs).flatten = xs := by
  induction count generalizing xs with
  | zero => simpa [pieces] using (List.eq_nil_of_length_eq_zero (by simpa using h)).symm
  | succ count ih =>
    rw [Nat.add_mul, Nat.one_mul] at h
    rw [pieces, List.flatten_cons, ih (by rw [List.length_drop]; omega), List.take_append_drop]

theorem pieces_flatten {size : Nat} {rows : List (List α)} (h : ∀ r ∈ rows, r.length = size) :
    pieces size rows.length rows.flatten = rows := by
  induction rows with
  | nil => rfl
  | cons r rest ih =>
    have hr := h r List.mem_cons_self
    rw [List.flatten_cons, List.length_cons, pieces, ← hr, List.take_left, List.drop_left, hr,
      ih fun x hx => h x (List.mem_cons_of_mem r hx)]

theorem length_pieces (size count : Nat) (xs : List α) : (pieces size count xs).length = count := by
  induction count generalizing xs with
  | zero => rfl
  | succ count ih => rw [pieces, List.length_cons, ih]

/-- The pieces of a list, read as rows of a matrix. -/
theorem getElem?_pieces {size count i : Nat} (hi : i < count) (xs : List α) :
    (pieces size count xs)[i]? = some ((xs.drop (i * size)).take size) := by
  induction count generalizing xs i with
  | zero => omega
  | succ count ih =>
    cases i with
    | zero => simp [pieces]
    | succ i =>
      rw [pieces, List.getElem?_cons_succ, ih (by omega), List.drop_drop, Nat.add_mul, Nat.one_mul,
        Nat.add_comm size]

theorem volume_le_pow {k : Nat} {shape : List Nat} (h : ∀ a ∈ shape, a ≤ k) :
    volume shape ≤ k ^ shape.length := by
  induction shape with
  | nil => exact Nat.le_refl 1
  | cons a rest ih =>
    have ha := h a List.mem_cons_self
    have hrest := ih fun b hb => h b (List.mem_cons_of_mem a hb)
    rw [volume, List.length_cons, Nat.pow_succ, Nat.mul_comm]
    exact Nat.mul_le_mul hrest ha

theorem checkShape_eq_ok_iff {size : Nat} {shape : List Nat} :
    checkShape size shape = .ok () ↔
      (∀ a ∈ shape, a < lengthEnd) ∧ octetsOf size shape < lengthEnd := by
  rw [checkShape]
  by_cases hany : shape.any (lengthEnd ≤ ·) = true
  · obtain ⟨a, ha, hlong⟩ := List.any_eq_true.1 hany
    rw [if_pos hany]
    exact iff_of_false (by simp) fun h => absurd (h.1 a ha) (Nat.not_lt.2 (of_decide_eq_true hlong))
  · have haxes : ∀ a ∈ shape, a < lengthEnd := by simpa using hany
    rw [if_neg hany, and_iff_right haxes, ← Nat.not_le]
    split <;> simp [*]

/-- An array can be made exactly if it can be described and its octets are granted. -/
theorem checkRoom_eq_ok_iff {shape : List Nat} {room : Nat → Bool} :
    checkRoom shape room = .ok () ↔ (∀ a ∈ shape, a < lengthEnd) ∧
      octetsOf numberOctets shape < lengthEnd ∧ room (numberOctets * volume shape) = true := by
  rw [checkRoom, Program.check_bind_eq_ok_iff, checkShape_eq_ok_iff, and_assoc]
  cases room (numberOctets * volume shape) <;> simp [throw, throwThe, MonadExceptOf.throw, pure,
    Except.pure]

/-- There is room for vectors and matrices of the sizes that validation allows. -/
theorem checkRoom_eq_ok {shape : List Nat} (hrank : shape.length ≤ 2)
    (h : ∀ a ∈ shape, a ≤ 21) : checkRoom shape = .ok () := by
  have hvolume : ∀ s : List Nat, s.length ≤ 2 → (∀ a ∈ s, a ≤ 21) →
      numberOctets * volume s ≤ 8 * 441 := fun s hs hle =>
    Nat.mul_le_mul_left 8
      (Nat.le_trans (volume_le_pow hle) (Nat.pow_le_pow_right (by decide) hs))
  refine checkRoom_eq_ok_iff.2 ⟨fun a ha => ?_, ?_, decide_eq_true ?_⟩
  · exact Nat.lt_of_le_of_lt (h a ha) (by decide)
  · refine Nat.lt_of_le_of_lt (hvolume _ ?_ fun a ha => h a (List.mem_filter.1 ha).1) (by decide)
    exact Nat.le_trans (List.length_filter_le ..) hrank
  · exact Nat.lt_of_le_of_lt (hvolume shape hrank h) (by decide)

theorem mapM_id {f : α → Option α} {xs : List α} (h : ∀ x ∈ xs, f x = some x) :
    xs.mapM f = some xs := by
  induction xs with
  | nil => rfl
  | cons x rest ih =>
    rw [List.mapM_cons, h x List.mem_cons_self, ih fun y hy => h y (List.mem_cons_of_mem x hy)]
    rfl

/-- Entries of a shape stretched to the same shape stay as they are. -/
theorem stretch_self (shape : List Nat) {xs : List α} (h : xs.length = volume shape) :
    stretch shape shape xs = some xs := by
  induction shape generalizing xs with
  | nil => rfl
  | cons s rest ih =>
    have hmap : (pieces (volume rest) s xs).mapM (stretch rest rest) =
        some (pieces (volume rest) s xs) :=
      mapM_id fun ys hys => ih (length_of_mem_pieces h ys hys)
    rw [stretch, if_pos rfl, hmap, Option.map_some, flatten_pieces h]

theorem dropLeadingOnes_length (shape : List Nat) :
    dropLeadingOnes shape.length shape = shape := by
  unfold dropLeadingOnes
  split
  · rw [if_neg (by simp)]
  · rfl

theorem spreadTo_self (b : Block α) : b.spreadTo b.shape = some b.entries := by
  rw [spreadTo, spread, dropLeadingOnes_length, if_neg (Nat.lt_irrefl _), Nat.sub_self,
    List.replicate_zero, List.nil_append]
  exact stretch_self b.shape b.fits

end Block

/-! ## Rows put together -/

namespace Tableau

variable {α : Type}

theorem getElem?_splice {xs ys : List α} {start j : Nat} (hstart : start + ys.length ≤ xs.length) :
    (splice xs start ys)[j]? =
      if start ≤ j ∧ j < start + ys.length then ys[j - start]? else xs[j]? := by
  have htake : ys.take (xs.length - start) = ys := List.take_of_length_le (by omega)
  rw [splice, htake, List.append_assoc]
  rcases Nat.lt_or_ge j start with hj | hj
  · rw [List.getElem?_append_left (by rw [List.length_take]; omega), List.getElem?_take,
      if_pos hj, if_neg (by omega)]
  · have hlen : (xs.take start).length = start := by rw [List.length_take]; omega
    rw [List.getElem?_append_right (by omega), hlen]
    rcases Nat.lt_or_ge j (start + ys.length) with hy | hy
    · rw [List.getElem?_append_left (by omega), if_pos ⟨hj, hy⟩]
    · rw [List.getElem?_append_right (by omega), List.getElem?_drop, if_neg (by omega)]
      congr 1
      omega

/-- A block fills its own shape. -/
theorem fill_eq_ok {b : Block α} {shape : List Nat} (h : b.shape = shape) :
    fill b shape = .ok b.entries := by
  subst h
  rw [fill, Block.spreadTo_self]

variable [Scalar α]

theorem getElem?_unitRow {size i k : Nat} (hk : k < size) :
    (unitRow size i : List α)[k]? = some (if k = i then 1 else 0) := by
  rw [unitRow, List.getElem?_map, List.getElem?_range hk]
  rfl

theorem getD_objectiveRowOf {width : Nat} {objective : List α} (h : objective.length ≤ width)
    (j : Nat) : (objectiveRowOf width objective).getD j 0 =
      if j < objective.length then -objective.getD j 0 else 0 := by
  rw [objectiveRowOf, List.getD_eq_getElem?_getD, getElem?_splice (by simpa using h)]
  rcases Nat.lt_or_ge j objective.length with hj | hj
  · rw [if_pos (by simpa using hj), if_pos hj, Nat.sub_zero, List.getElem?_map,
      List.getD_eq_getElem?_getD, List.getElem?_eq_getElem hj]
    rfl
  · rw [if_neg (by simpa using hj), if_neg (by omega), List.getElem?_replicate]
    split <;> rfl

/-- Where each part of a constraint row is found. -/
theorem getD_constraintRow {start size : Nat} {coefficients unit : List α} {bound : α}
    (hc : coefficients.length = start) (hu : unit.length = size) (j : Nat) :
    (constraintRow (start + size + 1) start coefficients unit bound).getD j 0 =
      if j < start then coefficients.getD j 0
      else if j < start + size then unit.getD (j - start) 0
      else if j = start + size then bound else 0 := by
  rw [constraintRow, List.getD_eq_getElem?_getD,
    getElem?_splice (by simp [length_splice]), getElem?_splice (by simp [length_splice]; omega),
    getElem?_splice (by simp; omega)]
  simp only [Nat.add_sub_cancel, List.length_singleton, Nat.zero_le, true_and, Nat.zero_add,
    Nat.sub_zero, hc, hu]
  rcases Nat.lt_trichotomy j (start + size) with hj | hj | hj
  · rw [if_neg (by omega)]
    rcases Nat.lt_or_ge j start with hs | hs
    · rw [if_neg (by omega), if_pos hs, if_pos hs, List.getD_eq_getElem?_getD]
    · rw [if_pos ⟨hs, hj⟩, if_neg (by omega), if_pos hj, List.getD_eq_getElem?_getD]
  · rw [if_pos ⟨by omega, by omega⟩, if_neg (by omega), if_neg (by omega), if_pos hj, hj,
      Nat.sub_self]
    rfl
  · rw [if_neg (by omega), if_neg (by omega), if_neg (by omega), if_neg (by omega),
      if_neg (by omega), if_neg (by omega), List.getElem?_eq_none (by simp; omega)]
    rfl

theorem getElem?_constraintRowsOf {width start i : Nat} {as us : List (List α)} {bs : List α}
    {a u : List α} {b : α} (ha : as[i]? = some a) (hu : us[i]? = some u) (hb : bs[i]? = some b) :
    (constraintRowsOf width start as us bs)[i]? = some (constraintRow width start a u b) := by
  fun_induction constraintRowsOf width start as us bs generalizing i with
  | case1 a' as u' us b' bs ih =>
    cases i with
    | zero => simp_all
    | succ i => exact ih (by simpa using ha) (by simpa using hu) (by simpa using hb)
  | case2 as us bs hnot =>
    cases as with
    | nil => simp at ha
    | cons _ _ =>
      cases us with
      | nil => simp at hu
      | cons _ _ =>
        cases bs with
        | nil => simp at hb
        | cons _ _ => exact (hnot _ _ _ _ _ _ rfl rfl rfl).elim

theorem length_constraintRowsOf {width start count : Nat} {as us : List (List α)} {bs : List α}
    (ha : as.length = count) (hu : us.length = count) (hb : bs.length = count) :
    (constraintRowsOf width start as us bs).length = count := by
  fun_induction constraintRowsOf width start as us bs generalizing count with
  | case1 a as u us b bs ih =>
    cases count with
    | zero => simp at ha
    | succ count =>
      rw [List.length_cons, ih (by simpa using ha) (by simpa using hu) (by simpa using hb)]
  | case2 as us bs hnot =>
    cases as with
    | nil => exact ha
    | cons _ _ =>
      cases us with
      | nil => exact hu
      | cons _ _ =>
        cases bs with
        | nil => exact hb
        | cons _ _ => exact (hnot _ _ _ _ _ _ rfl rfl rfl).elim

end Tableau

/-! ## The first tableau -/

namespace Program

variable {α : Type} [Scalar α] {p : Program α}

/-- A tableau that holds a program as `[A | I | b]` below the negated costs. -/
structure IsFirst (p : Program α) (t : Tableau α) : Prop where
  width : t.width = p.n.toNat + p.m.toNat + 1
  height : t.height = p.m.toNat + 1
  cost : ∀ j < p.n.toNat, t.entry 0 j = -p.cost j
  blank : ∀ j, p.n.toNat ≤ j → t.entry 0 j = 0
  coefficient : ∀ i < p.m.toNat, ∀ j < p.n.toNat, t.entry (i + 1) j = p.coefficient i j
  unit : ∀ i < p.m.toNat, ∀ k < p.m.toNat,
    t.entry (i + 1) (p.n.toNat + k) = if k = i then 1 else 0
  bound : ∀ i < p.m.toNat, t.entry (i + 1) (p.n.toNat + p.m.toNat) = p.bound i

/-- The rows that the build puts together for a valid program. -/
theorem ofProgram_eq_ok (hp : p.IsValid) : ∃ t, Tableau.ofProgram p = .ok t ∧
    t.width = p.n.toNat + p.m.toNat + 1 ∧
    t.rows = Tableau.objectiveRowOf (p.n.toNat + p.m.toNat + 1) p.objective.entries ::
      Tableau.constraintRowsOf (p.n.toNat + p.m.toNat + 1) p.n.toNat
        (Block.pieces p.n.toNat p.m.toNat p.coefficients.entries)
        (Block.pieces p.m.toNat p.m.toNat (Tableau.identity p.m.toNat).entries)
        p.bounds.entries := by
  obtain ⟨n, m, objective, coefficients, bounds, operators⟩ := p
  obtain ⟨n, rfl⟩ := Int.eq_ofNat_of_zero_le (Int.le_trans Int.one_nonneg hp.n_pos)
  obtain ⟨m, rfl⟩ := Int.eq_ofNat_of_zero_le (Int.le_trans Int.one_nonneg hp.m_pos)
  have hn : n ≤ 10 := by simpa using hp.n_le
  have hm : m ≤ 10 := by simpa using hp.m_le
  have ho : Tableau.fill objective [n] = .ok objective.entries :=
    Tableau.fill_eq_ok hp.objective_shape
  have hc : Tableau.fill coefficients [m, n] = .ok coefficients.entries :=
    Tableau.fill_eq_ok hp.coefficients_shape
  have hb : Tableau.fill bounds [m] = .ok bounds.entries := Tableau.fill_eq_ok hp.bounds_shape
  have hi : Tableau.fill (Tableau.identity m : Block α) [m, m] =
      .ok (Tableau.identity m : Block α).entries :=
    Tableau.fill_eq_ok (by simp [Tableau.identity, Block.matrix])
  have hrows : ((m : Int) + 1).toNat = m + 1 := by omega
  have hwidth : ((n : Int) + m + 1).toNat = n + m + 1 := by omega
  have hleft : Tableau.clampPlace (n + m + 1) n = n := by
    rw [Tableau.clampPlace, if_neg (by omega)]
    omega
  have hright : Tableau.clampPlace (n + m + 1) ((n : Int) + m) - n = m := by
    rw [Tableau.clampPlace, if_neg (by omega)]
    omega
  have hroom : Block.checkRoom [m + 1, n + m + 1] = .ok () :=
    Block.checkRoom_eq_ok (by simp) (by simp; omega)
  have hsquare : Block.checkRoom [m, m] = .ok () :=
    Block.checkRoom_eq_ok (by simp) (by simp; omega)
  unfold Tableau.ofProgram
  simp only [Int.toNat_natCast, hrows, hwidth, hleft, hright, hroom, hsquare, ho, hc, hb, hi]
  rw [if_neg (by omega), if_neg (by omega)]
  exact ⟨_, rfl, rfl, rfl⟩

theorem getElem?_identity {size i : Nat} (hi : i < size) :
    (Block.pieces size size (Tableau.identity size : Block α).entries)[i]? =
      some (Tableau.unitRow size i) := by
  have hlength : ∀ row ∈ (List.range size).map (Tableau.unitRow size : Nat → List α),
      row.length = size := by simp [Tableau.unitRow]
  have hrows := Block.pieces_flatten hlength
  rw [List.length_map, List.length_range] at hrows
  rw [Tableau.identity, Block.matrix, hrows, List.getElem?_map, List.getElem?_range hi]
  rfl

/-- The first tableau of a valid program is there and holds the program. -/
theorem ofProgram_of_isValid (hp : p.IsValid) :
    ∃ t, Tableau.ofProgram p = .ok t ∧ p.IsFirst t := by
  obtain ⟨t, ht, hwidth, hrows⟩ := ofProgram_eq_ok hp
  have hobjective := Block.size_of_vector hp.objective_shape
  have hbounds := hp.length_bounds
  have hfirst : t.rows[0]? =
      some (Tableau.objectiveRowOf (p.n.toNat + p.m.toNat + 1) p.objective.entries) := by
    rw [hrows, List.getElem?_cons_zero]
  have hrow : ∀ i < p.m.toNat, t.rows[i + 1]? =
      some (Tableau.constraintRow (p.n.toNat + p.m.toNat + 1) p.n.toNat (p.row i)
        (Tableau.unitRow p.m.toNat i) (p.bound i)) := by
    intro i hi
    rw [hrows, List.getElem?_cons_succ]
    exact Tableau.getElem?_constraintRowsOf (Block.getElem?_pieces hi _) (getElem?_identity hi)
      (by rw [bound, List.getD_eq_getElem?_getD, List.getElem?_eq_getElem (by omega)]; rfl)
  have hentry : ∀ i < p.m.toNat, ∀ j, t.entry (i + 1) j =
      if j < p.n.toNat then p.coefficient i j
      else if j < p.n.toNat + p.m.toNat then if j - p.n.toNat = i then 1 else 0
      else if j = p.n.toNat + p.m.toNat then p.bound i else 0 := by
    intro i hi j
    rw [Tableau.entry_of_row (hrow i hi),
      Tableau.getD_constraintRow (hp.length_row hi) (by simp [Tableau.unitRow])]
    rcases Nat.lt_or_ge j p.n.toNat with hj | hj
    · rw [if_pos hj, if_pos hj, p.getD_row i hj]
    · rw [if_neg (Nat.not_lt.2 hj), if_neg (Nat.not_lt.2 hj)]
      rcases Nat.lt_or_ge j (p.n.toNat + p.m.toNat) with hk | hk
      · rw [if_pos hk, if_pos hk, List.getD_eq_getElem?_getD,
          Tableau.getElem?_unitRow (by omega)]
        rfl
      · rw [if_neg (Nat.not_lt.2 hk), if_neg (Nat.not_lt.2 hk)]
  refine ⟨t, ht, ⟨hwidth, ?_, ?_, ?_, ?_, ?_, ?_⟩⟩
  · rw [Tableau.height, hrows, List.length_cons, Tableau.length_constraintRowsOf
      (Block.length_pieces ..) (Block.length_pieces ..) hbounds]
  · intro j hj
    rw [Tableau.entry_of_row hfirst, Tableau.getD_objectiveRowOf (by omega), if_pos (by omega)]
    rfl
  · intro j hj
    rw [Tableau.entry_of_row hfirst, Tableau.getD_objectiveRowOf (by omega), if_neg (by omega)]
  · intro i hi j hj
    rw [hentry i hi, if_pos hj]
  · intro i hi k hk
    rw [hentry i hi, if_neg (by omega), if_pos (by omega), Nat.add_sub_cancel_left]
  · intro i hi
    rw [hentry i hi, if_neg (by omega), if_neg (by omega), if_pos rfl]

end Program

end ProductionLP
