import Mathlib.Data.List.GetD
import ProductionLP.Proofs.Scalar
import ProductionLP.Proofs.Tableau.First

/- The check of a plan.

   On a valid program and a vector with one entry for each variable the check never fails
   (`feasible_eq_ok`), and it passes when no entry is below minus the tolerance and no
   left-hand side exceeds its bound by more than the tolerance (`feasible_iff`). The left-hand
   sides are the loads of the vector. -/
namespace ProductionLP

open Finset Scalar

namespace Block

/-- The inner product on exact numbers. -/
theorem dot_eq_sum {xs ys : List Rat} (h : xs.length = ys.length) :
    dot xs ys = ∑ j ∈ range xs.length, xs.getD j 0 * ys.getD j 0 := by
  have hfold : ∀ a, (List.zipWith (fun x y : Rat => x * y) xs ys).foldl (fun b c => b + c) a =
      a + ∑ j ∈ range xs.length, xs.getD j 0 * ys.getD j 0 := by
    induction xs generalizing ys with
    | nil =>
      intro a
      rw [List.zipWith_nil_left, List.foldl_nil, List.length_nil, sum_range_zero, add_zero]
    | cons x xs ih =>
      intro a
      cases ys with
      | nil => cases h
      | cons y ys =>
        rw [List.zipWith_cons_cons, List.foldl_cons, ih (Nat.succ.inj h), List.length_cons,
          sum_range_succ']
        simp only [List.getD_cons_succ, List.getD_cons_zero]
        ring
  have := hfold 0
  rw [zero_add] at this
  exact this

/-- A matrix times a vector: the inner products of the rows. -/
theorem timesVector_matrix {α : Type} [Scalar α] {a : Block α} {height width : Nat}
    (hshape : a.shape = [height, width]) {xs : List α} (hxs : xs.length = width) :
    ∃ b, a.timesVector xs = .ok b ∧ b.shape = [height] ∧
      b.entries = (pieces width height a.entries).map (dot · xs) := by
  obtain ⟨shape, entries, fits⟩ := a
  subst hshape
  have hvolume : volume [height] = height := Nat.mul_one height
  have hlength : ((pieces width (volume [height]) entries).map (dot · xs)).length =
      volume [height] := by rw [List.length_map, length_pieces]
  refine ⟨⟨[height], _, hlength⟩, ?_, rfl, by simp only [hvolume]⟩
  simp only [timesVector, List.reverse_cons, List.reverse_nil, List.nil_append,
    List.singleton_append]
  rw [if_pos hxs, dif_pos hlength]

theorem commonShape_self (k : Nat) : commonShape [k] [k] = some [k] := by
  simp [commonShape, commonAxes]

end Block

namespace Program

variable {p : Program Rat} {xs : List Rat}

/-- The left-hand sides at a vector are its loads. -/
theorem usage_eq_ok (hp : p.IsValid) (hxs : xs.length = p.n.toNat) :
    ∃ b, p.usage (.vector xs) = .ok b ∧ b.shape = [p.m.toNat] ∧
      ∀ i < p.m.toNat, b.entries[i]? = some (p.load i fun j => xs.getD j 0) := by
  obtain ⟨b, hb, hshape, hentries⟩ := Block.timesVector_matrix hp.coefficients_shape hxs
  refine ⟨b, hb, hshape, fun i hi => ?_⟩
  have hrow : (Block.pieces p.n.toNat p.m.toNat p.coefficients.entries)[i]? = some (p.row i) :=
    Block.getElem?_pieces hi _
  have hlength := hp.length_row hi
  rw [hentries, List.getElem?_map, hrow, Option.map_some, Block.dot_eq_sum (hlength.trans hxs.symm),
    hlength]
  congr 1
  exact sum_congr rfl fun j hj => by rw [p.getD_row i (mem_range.1 hj)]

/-- Comparing two vectors of one length never fails. -/
theorem allPairs_le {a b : Block Rat} {k : Nat} (ha : a.shape = [k]) (hb : b.shape = [k]) :
    allPairs le a b = .ok (decide (∀ i < k, a.entries.getD i 0 ≤ b.entries.getD i 0)) := by
  have hla := Block.size_of_vector ha
  have hlb := Block.size_of_vector hb
  have hspreadA : a.spreadTo [k] = some a.entries := by rw [← ha]; exact Block.spreadTo_self a
  have hspreadB : b.spreadTo [k] = some b.entries := by rw [← hb]; exact Block.spreadTo_self b
  rw [allPairs, ha, hb, Block.commonShape_self]
  simp only [hspreadA, hspreadB]
  congr 1
  rw [Bool.eq_iff_iff, List.all_eq_true, decide_eq_true_eq]
  constructor
  · intro h i hi
    have hmem : le a.entries[i] b.entries[i] ∈ List.zipWith le a.entries b.entries := by
      rw [List.mem_iff_getElem?]
      exact ⟨i, by simp [hla, hlb, hi]⟩
    have := h _ hmem
    rw [List.getD_eq_getElem _ _ (by omega), List.getD_eq_getElem _ _ (by omega)]
    exact le_iff.1 this
  · intro h c hc
    obtain ⟨i, hi, rfl⟩ := List.getElem_of_mem hc
    rw [List.length_zipWith, hla, hlb, Nat.min_self] at hi
    have := h i hi
    rw [List.getD_eq_getElem _ _ (by omega), List.getD_eq_getElem _ _ (by omega)] at this
    rw [List.getElem_zipWith]
    exact le_iff.2 this

/-- Some entry of a vector is below a limit. -/
theorem any_lt_iff {limit : Rat} : xs.any (lt · limit) = true ↔
    ¬ ∀ j < xs.length, limit ≤ xs.getD j 0 := by
  rw [List.any_eq_true, not_forall]
  constructor
  · rintro ⟨x, hx, hlt⟩
    obtain ⟨j, hj, rfl⟩ := List.getElem_of_mem hx
    refine ⟨j, fun hle => ?_⟩
    have := hle hj
    rw [List.getD_eq_getElem _ _ hj] at this
    exact (lt_iff.1 hlt).not_ge this
  · rintro ⟨j, hj⟩
    obtain ⟨hlt, hlow⟩ := Classical.not_imp.1 hj
    rw [List.getD_eq_getElem _ _ hlt] at hlow
    exact ⟨xs[j], List.getElem_mem hlt, lt_iff.2 (not_le.1 hlow)⟩

theorem getD_bounds_map (hp : p.IsValid) (f : Rat → Rat) {i : Nat} (hi : i < p.m.toNat) :
    (p.bounds.map f).entries.getD i 0 = f (p.bound i) := by
  have hlt : i < p.bounds.entries.length := by rw [hp.length_bounds]; exact hi
  rw [Block.map, List.getD_eq_getElem _ _ (by rwa [List.length_map]), List.getElem_map, bound,
    List.getD_eq_getElem _ _ hlt]

/-- The check of a vector with one entry for each variable never fails. -/
theorem feasible_eq_ok (hp : p.IsValid) (hxs : xs.length = p.n.toNat) (tol : Rat) :
    p.feasible (.vector xs) tol =
      .ok (decide ((∀ j < p.n.toNat, -tol ≤ xs.getD j 0) ∧
        ∀ i < p.m.toNat, p.load i (fun j => xs.getD j 0) ≤ p.bound i + tol)) := by
  have hshape : (Block.vector xs).shape.map Int.ofNat = [p.n] := by
    have hn : ((xs.length : Nat) : Int) = p.n := by
      have := hp.n_pos
      omega
    exact congrArg (fun k => [k]) hn
  have hlow := @any_lt_iff xs (-tol)
  rw [hxs] at hlow
  obtain ⟨b, hb, hbshape, hbget⟩ := usage_eq_ok hp hxs
  rw [feasible, if_neg (not_not.2 hshape)]
  show (if xs.any (lt · (-tol)) = true then Except.ok false else _) = _
  by_cases hall : ∀ j < p.n.toNat, -tol ≤ xs.getD j 0
  · rw [if_neg (fun h => hlow.1 h hall), hb]
    show allPairs le b (p.bounds.map _) = _
    rw [allPairs_le hbshape (show (p.bounds.map _).shape = _ from hp.bounds_shape)]
    congr 2
    refine propext ⟨fun h => ⟨hall, fun i hi => ?_⟩, fun h i hi => ?_⟩
    · have := h i hi
      rw [getD_bounds_map hp _ hi, List.getD_eq_getElem?_getD, hbget i hi,
        Option.getD_some] at this
      exact this
    · rw [getD_bounds_map hp _ hi, List.getD_eq_getElem?_getD, hbget i hi, Option.getD_some]
      exact h.2 i hi
  · rw [if_pos (hlow.2 hall)]
    simp only [hall, false_and, decide_false]

theorem feasible_iff (hp : p.IsValid) (hxs : xs.length = p.n.toNat) (tol : Rat) :
    p.feasible (.vector xs) tol = .ok true ↔
      (∀ j < p.n.toNat, -tol ≤ xs.getD j 0) ∧
        ∀ i < p.m.toNat, p.load i (fun j => xs.getD j 0) ≤ p.bound i + tol := by
  rw [feasible_eq_ok hp hxs, Except.ok.injEq, decide_eq_true_eq]

end Program

end ProductionLP
