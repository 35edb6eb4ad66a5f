import ProductionLP.Proofs.Fallible
import ProductionLP.Proofs.Program.Resized

/- Programs in shape.

   Before a program is validated its numbers and operators may be anything, but its arrays
   should already have the shapes that its sizes announce (`WellShaped`). Resizing within the
   allowed sizes never fails on such a program and yields such a program
   (`WellShaped.resize_eq_ok`, `WellShaped.resized`), and so does reading a program from lists
   of the right lengths (`wellShaped_of_ofLists`). -/
namespace ProductionLP

/-! ## Lists of numbers -/

namespace Value

theorem anyKnot_floats (xs : List Float) : anyKnot (xs.map .num) = false := by
  induction xs with
  | nil => rfl
  | cons x rest ih => simp [anyKnot, hasKnot, isTied, ih]

theorem layoutItems_floats (xs : List Float) : layoutItems ([], true) (xs.map .num) = ([], true) := by
  induction xs with
  | nil => rfl
  | cons x rest ih => simpa [layoutItems, layout, commonShape] using ih

theorem layoutList_floats (xs : List Float) : layoutList (xs.map .num) = ([xs.length], true) := by
  cases xs with
  | nil => rfl
  | cons x rest => simp [layoutList, layout, layoutItems_floats]

theorem entriesItems_floats (xs : List Float) : entriesItems (xs.map .num) = .ok xs := by
  induction xs with
  | nil => rfl
  | cons x rest ih =>
    rw [List.map_cons, entriesItems, ih]
    rfl

/-- A list of numbers is a vector. -/
theorem toVector_floats (xs : List Float) : (Value.list (xs.map .num)).toVector = .ok (.vector xs) := by
  have hunrolled : (Value.list (xs.map .num)).unrolled = .list (xs.map .num) := by
    rw [unrolled, hasKnot, anyKnot_floats]
    rfl
  have hshape : (Value.list (xs.map .num)).shape? = .ok [xs.length] := by
    simp [shape?, layout, layoutList_floats, mostAxes]
  have hentries : entries (.list (xs.map .num)) = .ok xs := entriesItems_floats xs
  have hblock : (Value.list (xs.map .num)).toBlock = .ok (.vector xs) := by
    rw [toBlock, hunrolled, hshape]
    show (entries (.list (xs.map .num)) >>= _) = _
    rw [hentries]
    simp [bind, Except.bind, pure, Except.pure, Block.volume, Block.vector]
  rw [toVector, hblock]
  rfl

end Value

namespace Program

variable {α : Type}

/-- The sizes are allowed, and all parts have the shapes that they announce. -/
structure WellShaped (p : Program α) : Prop where
  n_pos : 1 ≤ p.n
  n_le : p.n ≤ 10
  m_pos : 1 ≤ p.m
  m_le : p.m ≤ 10
  objective_shape : p.objective.shape = [p.n.toNat]
  coefficients_shape : p.coefficients.shape = [p.m.toNat, p.n.toNat]
  bounds_shape : p.bounds.shape = [p.m.toNat]
  operator_count : p.operators.length = p.m.toNat

theorem wellShaped_sample : sample.WellShaped := by
  constructor <;> decide

section Resized

variable [Scalar α] {p : Program α} {n m : Int}

theorem WellShaped.resize_eq_ok (hp : p.WellShaped) (hn : 1 ≤ n) (hn' : n ≤ 10) (hm : 1 ≤ m)
    (hm' : m ≤ 10) : p.resize n m = .ok (p.resized n m) := by
  apply Program.resize_eq_ok hp.objective_shape hp.coefficients_shape hp.bounds_shape hn hm
  · exact Block.checkRoom_eq_ok (by simp) (by simp; omega)
  · exact Block.checkRoom_eq_ok (by simp) (by simp; omega)
  · exact Block.checkRoom_eq_ok (by simp) (by simp; omega)

/-- Whatever a program is like, resized it is in shape. -/
theorem wellShaped_resized (p : Program α) (hn : 1 ≤ n) (hn' : n ≤ 10) (hm : 1 ≤ m)
    (hm' : m ≤ 10) : (p.resized n m).WellShaped where
  n_pos := hn
  n_le := hn'
  m_pos := hm
  m_le := hm'
  objective_shape := congrArg (fun k => [k]) (length_resizeRow n.toNat _)
  coefficients_shape := congrArg (fun k => [k, n.toNat]) (length_resizeRows m.toNat n.toNat _)
  bounds_shape := congrArg (fun k => [k]) (length_resizeRow m.toNat _)
  operator_count := length_resizeOperators m.toNat p.operators

end Resized

/-! ## Programs read from lists -/

/-- A matrix that is made of rows is as wide as is declared, and an array of its shape can be
    described. -/
theorem of_matrixOfRows {rows : List (List Value)} {n : Int} {b : Block Float}
    (h : matrixOfRows rows n = .ok b) : b.shape = [rows.length, n.toNat] ∧ 0 ≤ n ∧
      Block.checkShape Block.numberOctets [rows.length, n.toNat] = .ok () := by
  obtain ⟨block, _, h⟩ := exists_of_bind_eq_ok h
  by_cases hlong : n < -Int.ofNat Block.lengthEnd
  · rw [if_pos hlong] at h
    cases h
  rw [if_neg hlong] at h
  obtain ⟨_, hroom, h⟩ := exists_of_bind_eq_ok h
  by_cases hfits : 0 ≤ n ∧ block.entries.length = Block.volume [rows.length, n.toNat]
  · rw [dif_pos hfits] at h
    cases h
    exact ⟨rfl, hfits.1, hroom⟩
  · rw [dif_neg hfits] at h
    cases h

/-- A program that is read from lists with declared sizes has parts as long as the lists. -/
theorem shape_of_ofLists {xs bs : List Float} {rows : List (List Value)} {ops : List Value}
    {n m : Int} {p : Program Float}
    (h : ofLists (.list (xs.map .num)) (.list (rows.map .list)) (.list (bs.map .num)) (.list ops)
      (.int n) (.int m) = .ok p) :
    p.n = n ∧ p.m = m ∧ p.objective.shape = [xs.length] ∧
      p.coefficients.shape = [rows.length, n.toNat] ∧ p.bounds.shape = [bs.length] ∧
      p.operators.length = ops.length := by
  have hrows : (rows.map Value.list).mapM (fun row => liftFault row.items) =
      (.ok rows : Except Error (List (List Value))) := by
    rw [mapM_eq_ok_iff, List.forall₂_map_left_iff, List.forall₂_same]
    intro row _
    rfl
  rw [ofLists, Value.toVector_floats, Value.toVector_floats] at h
  change ((rows.map Value.list).mapM (fun row => liftFault row.items) >>= _) = _ at h
  rw [hrows] at h
  obtain ⟨_, heq, h⟩ := exists_of_bind_eq_ok h
  cases heq
  obtain ⟨_, _, h⟩ := exists_of_bind_eq_ok h
  obtain ⟨matrix, hmatrix, h⟩ := exists_of_bind_eq_ok h
  change (ops.mapM Relation.ofValue >>= _) = _ at h
  obtain ⟨operators, hoperators, h⟩ := exists_of_bind_eq_ok h
  cases h
  exact ⟨rfl, rfl, rfl, (of_matrixOfRows (liftFault_eq_ok_iff.1 hmatrix)).1, rfl,
    length_of_mapM_eq_ok hoperators⟩

/-- A program that is read from lists of the lengths that its sizes announce is in shape. -/
theorem wellShaped_of_ofLists {xs bs : List Float} {rows : List (List Value)} {ops : List Value}
    {n m : Int} {p : Program Float}
    (h : ofLists (.list (xs.map .num)) (.list (rows.map .list)) (.list (bs.map .num)) (.list ops)
      (.int n) (.int m) = .ok p) (hn : 1 ≤ n) (hn' : n ≤ 10) (hm : 1 ≤ m) (hm' : m ≤ 10)
    (hxs : xs.length = n.toNat) (hrows : rows.length = m.toNat) (hbs : bs.length = m.toNat)
    (hops : ops.length = m.toNat) : p.WellShaped ∧ p.n = n ∧ p.m = m := by
  obtain ⟨rfl, rfl, hobjective, hcoefficients, hbounds, hoperators⟩ := shape_of_ofLists h
  refine ⟨⟨hn, hn', hm, hm', ?_, ?_, ?_, ?_⟩, rfl, rfl⟩
  · rw [hobjective, hxs]
  · rw [hcoefficients, hrows]
  · rw [hbounds, hbs]
  · rw [hoperators, hops]

end Program

end ProductionLP
