import ProductionLP.Proofs.Program.Plan
import ProductionLP.Proofs.Rule
import ProductionLP.Proofs.Run
import ProductionLP.Proofs.Tableau.First

/- Canonical form.

   A stage represents a program when its tableau is the program in other words: its basic
   columns are distinct unit columns, its constraint rows have the same solutions as the
   program's constraints with slack (`solves`), and its objective row gives the worth of every
   solution (`worth`). The first stage represents the program (`represents_first`), and a pivot
   of a column that is not basic keeps the representation (`Represents.pivot`). From it come
   the basic solution of a stage (`Stage.plan`) and the direction in which a column that is
   not basic can grow (`Stage.ray`). -/
namespace ProductionLP

open Finset

namespace Stage

/-- The basic solution: the label of a row takes the right-hand side of the row, and every
    other variable is zero. -/
def plan (g : Stage Rat) (k : Nat) : Rat :=
  if k ∈ g.basis then g.tableau.rhs (g.basis.idxOf k + 1) else 0

/-- What makes a vector the basic solution of a stage. -/
structure IsBasicSolution (g : Stage Rat) (z : Nat → Rat) : Prop where
  basic : ∀ i (hi : i < g.basis.length), z g.basis[i] = g.tableau.rhs (i + 1)
  free : ∀ k, k ∉ g.basis → z k = 0

/-- How the variables change with each unit of the variable of a column that is not basic,
    when the other such variables stay at zero. -/
def ray (g : Stage Rat) (s k : Nat) : Rat :=
  if k = s then 1
  else if k ∈ g.basis then -g.tableau.entry (g.basis.idxOf k + 1) s else 0

/-- The part of a row's sum over the columns that are not basic. -/
def freeSum (g : Stage Rat) (i : Nat) (z : Nat → Rat) : Rat :=
  ∑ j ∈ (range (g.tableau.width - 1)).filter (· ∉ g.basis), g.tableau.entry i j * z j

/-- No right-hand side of a constraint row is negative. -/
def Feasible (g : Stage Rat) : Prop := ∀ i, 1 ≤ i → i < g.tableau.height → 0 ≤ g.tableau.rhs i

variable {g : Stage Rat}

theorem plan_of_not_mem {k : Nat} (h : k ∉ g.basis) : g.plan k = 0 := if_neg h

theorem plan_getElem (hnodup : g.basis.Nodup) {i : Nat} (hi : i < g.basis.length) :
    g.plan g.basis[i] = g.tableau.rhs (i + 1) := by
  rw [plan, if_pos (List.getElem_mem hi), hnodup.idxOf_getElem i hi]

theorem isBasicSolution_plan (hnodup : g.basis.Nodup) : g.IsBasicSolution g.plan :=
  ⟨fun _ hi => plan_getElem hnodup hi, fun _ hk => plan_of_not_mem hk⟩

theorem ray_self (s : Nat) : g.ray s s = 1 := if_pos rfl

theorem ray_getElem (hnodup : g.basis.Nodup) {s i : Nat} (hs : s ∉ g.basis)
    (hi : i < g.basis.length) : g.ray s g.basis[i] = -g.tableau.entry (i + 1) s := by
  have hne : g.basis[i] ≠ s := fun h => hs (h ▸ List.getElem_mem hi)
  rw [ray, if_neg hne, if_pos (List.getElem_mem hi), hnodup.idxOf_getElem i hi]

theorem ray_of_not_mem {s k : Nat} (hk : k ≠ s) (h : k ∉ g.basis) : g.ray s k = 0 := by
  rw [ray, if_neg hk, if_neg h]

theorem freeSum_eq_zero {z : Nat → Rat} (h : ∀ j, j ∉ g.basis → z j = 0) {i : Nat} :
    g.freeSum i z = 0 :=
  sum_eq_zero fun j hj => by rw [h j (mem_filter.1 hj).2, mul_zero]

end Stage

namespace Program

/-- The tableau of a stage is in canonical form for its basis and stands for the program. -/
structure Represents (p : Program Rat) (g : Stage Rat) : Prop where
  width : g.tableau.width = p.n.toNat + p.m.toNat + 1
  height : g.tableau.height = p.m.toNat + 1
  length_basis : g.basis.length = p.m.toNat
  lt_of_mem : ∀ k ∈ g.basis, k < p.n.toNat + p.m.toNat
  nodup : g.basis.Nodup
  unit : ∀ i (hi : i < g.basis.length) (r : Nat),
    g.tableau.entry r g.basis[i] = if r = i + 1 then 1 else 0
  solves : ∀ z, g.tableau.Solves z ↔ p.Balanced z
  worth : ∀ z, p.Balanced z → g.tableau.residual 0 z = -p.worth z

variable {p : Program Rat} {g : Stage Rat}

/-! ## The first stage -/

theorem getElem_slackBasis {n m i : Nat} (hi : i < (slackBasis n m).length) :
    (slackBasis n m)[i] = n + i := by
  simp [slackBasis]

theorem length_slackBasis (n m : Nat) : (slackBasis n m).length = m := by simp [slackBasis]

theorem IsFirst.residual_succ {t : Tableau Rat} (h : p.IsFirst t) {i : Nat} (hi : i < p.m.toNat)
    (z : Nat → Rat) :
    t.residual (i + 1) z = p.load i z + z (p.n.toNat + i) - p.bound i := by
  have hcoefficients : ∑ j ∈ range p.n.toNat, t.entry (i + 1) j * z j = p.load i z :=
    sum_congr rfl fun j hj => by rw [h.coefficient i hi j (mem_range.1 hj)]
  have hunit : ∑ k ∈ range p.m.toNat, t.entry (i + 1) (p.n.toNat + k) * z (p.n.toNat + k) =
      z (p.n.toNat + i) := by
    have hterm : ∀ k ∈ range p.m.toNat, t.entry (i + 1) (p.n.toNat + k) * z (p.n.toNat + k) =
        if k = i then z (p.n.toNat + k) else 0 := fun k hk => by
      rw [h.unit i hi k (mem_range.1 hk), ite_mul, one_mul, zero_mul]
    rw [sum_congr rfl hterm, sum_ite_eq' (range p.m.toNat) i, if_pos (mem_range.2 hi)]
  rw [Tableau.residual, Tableau.rowSum, Tableau.rhs, h.width, Nat.add_sub_cancel, sum_range_add,
    hcoefficients, hunit, h.bound i hi]

theorem IsFirst.residual_zero {t : Tableau Rat} (h : p.IsFirst t) (z : Nat → Rat) :
    t.residual 0 z = -p.worth z := by
  have hcosts : ∑ j ∈ range p.n.toNat, t.entry 0 j * z j = -p.worth z := by
    rw [Program.worth, ← sum_neg_distrib]
    exact sum_congr rfl fun j hj => by rw [h.cost j (mem_range.1 hj)]; ring
  have hblank : ∑ k ∈ range p.m.toNat, t.entry 0 (p.n.toNat + k) * z (p.n.toNat + k) = 0 :=
    sum_eq_zero fun k _ => by rw [h.blank _ (Nat.le_add_right ..), zero_mul]
  rw [Tableau.residual, Tableau.rowSum, Tableau.rhs, h.width, Nat.add_sub_cancel, sum_range_add,
    hcosts, hblank, h.blank _ (Nat.le_add_right ..)]
  ring

/-- The first tableau with the slack variables basic represents the program. -/
theorem represents_first {t : Tableau Rat} (h : p.IsFirst t) :
    p.Represents ⟨t, slackBasis p.n.toNat p.m.toNat⟩ where
  width := h.width
  height := h.height
  length_basis := length_slackBasis ..
  lt_of_mem := by
    intro k hk
    obtain ⟨i, hi, rfl⟩ := List.mem_map.1 hk
    have := List.mem_range.1 hi
    omega
  nodup := List.nodup_range.map fun i j hij => Nat.add_left_cancel hij
  unit := by
    intro i hi r
    have hi' : i < p.m.toNat := by rwa [length_slackBasis] at hi
    rw [getElem_slackBasis hi]
    cases r with
    | zero => rw [h.blank _ (Nat.le_add_right ..), if_neg (by omega)]
    | succ r =>
      rcases Nat.lt_or_ge r p.m.toNat with hr | hr
      · rw [h.unit r hr i hi']
        exact if_congr (by omega) rfl rfl
      · rw [Tableau.entry_of_height_le (by rw [h.height]; omega), if_neg (by omega)]
  solves := by
    intro z
    constructor
    · intro hz i hi
      have := hz (i + 1) (Nat.le_add_left 1 i) (by rw [h.height]; omega)
      rw [h.residual_succ hi] at this
      linarith
    · intro hz i hi hit
      obtain ⟨i, rfl⟩ := Nat.exists_eq_succ_of_ne_zero (Nat.one_le_iff_ne_zero.1 hi)
      have hlt : i < p.m.toNat := by rw [h.height] at hit; omega
      rw [Nat.succ_eq_add_one, h.residual_succ hlt, hz i hlt, sub_self]
  worth := fun z _ => h.residual_zero z

namespace Represents

theorem height_pos (h : p.Represents g) : 0 < g.tableau.height := by
  rw [h.height]
  exact Nat.succ_pos _

theorem width_pos (h : p.Represents g) : 0 < g.tableau.width := by
  rw [h.width]
  exact Nat.succ_pos _

theorem column_lt (h : p.Represents g) {c : Nat} (hc : c < p.n.toNat + p.m.toNat) :
    c < g.tableau.width := by
  rw [h.width]
  exact Nat.lt_succ_of_lt hc

/-- The row of a basic column. -/
theorem row_lt (h : p.Represents g) {i : Nat} (hi : i < g.basis.length) :
    i + 1 < g.tableau.height := by
  rw [h.height, ← h.length_basis]
  exact Nat.succ_lt_succ hi

/-! ## Pivots -/

/-- A pivot of a column that is not basic keeps the canonical form. -/
theorem pivot {r c : Nat} (h : p.Represents g) (hr : 1 ≤ r) (hrt : r < g.tableau.height)
    (hc : c < p.n.toNat + p.m.toNat) (hfree : c ∉ g.basis) (hp : g.tableau.entry r c ≠ 0) :
    p.Represents (g.pivot r c) := by
  have hcw := h.column_lt hc
  have hsolves : ∀ z, (g.tableau.pivot r c).Solves z ↔ p.Balanced z := fun z =>
    (Tableau.solves_pivot_iff hcw hr hrt hp z).trans (h.solves z)
  refine ⟨h.width, ?_, ?_, ?_, h.nodup.set hfree, ?_, hsolves, ?_⟩
  · rw [Stage.pivot, Tableau.height_pivot]
    exact h.height
  · rw [Stage.pivot, List.length_set]
    exact h.length_basis
  · intro k hk
    rcases List.mem_or_eq_of_mem_set hk with hmem | rfl
    · exact h.lt_of_mem k hmem
    · exact hc
  · intro i hi row
    have hilt : i < g.basis.length := by simpa [Stage.pivot] using hi
    simp only [Stage.pivot, List.getElem_set]
    by_cases hir : r - 1 = i
    · -- the entering column belongs to the pivot row from now on
      have hri : r = i + 1 := by omega
      rw [if_pos hir, ← hri]
      exact Tableau.isUnitColumn_pivot hcw hp row
    · have hunit : g.tableau.IsUnitColumn (i + 1) g.basis[i] := h.unit i hilt
      rw [if_neg hir, hunit.entry_pivot (by omega) hcw]
      exact hunit row
  · intro z hz
    have hold : g.tableau.Solves z := (h.solves z).2 hz
    rw [Stage.pivot, Tableau.residual_zero_pivot hcw hr hrt hold]
    exact h.worth z hz

/-! ## The basic solution -/

/-- The row of a basic column sums to the variable of that column and the free part. -/
theorem rowSum_succ (h : p.Represents g) {i : Nat} (hi : i < g.basis.length) (z : Nat → Rat) :
    g.tableau.rowSum (i + 1) z = z g.basis[i] + g.freeSum (i + 1) z := by
  have hlt := h.lt_of_mem _ (List.getElem_mem hi)
  have hown : ∑ j ∈ (range (g.tableau.width - 1)).filter (· ∈ g.basis),
      g.tableau.entry (i + 1) j * z j = z g.basis[i] := by
    rw [sum_eq_single_of_mem g.basis[i]]
    · rw [h.unit i hi, if_pos rfl, one_mul]
    · rw [mem_filter, mem_range, h.width]
      exact ⟨hlt, List.getElem_mem hi⟩
    · intro j hj hne
      obtain ⟨k, hk, rfl⟩ := List.getElem_of_mem (mem_filter.1 hj).2
      have hik : i ≠ k := fun heq => hne (by subst heq; rfl)
      rw [h.unit k hk, if_neg (by omega), zero_mul]
  rw [Tableau.rowSum, ← sum_filter_add_sum_filter_not _ (· ∈ g.basis), hown, Stage.freeSum]

/-- The objective row has nothing in the basic columns. -/
theorem rowSum_zero (h : p.Represents g) (z : Nat → Rat) :
    g.tableau.rowSum 0 z = g.freeSum 0 z := by
  have hown : ∑ j ∈ (range (g.tableau.width - 1)).filter (· ∈ g.basis),
      g.tableau.entry 0 j * z j = 0 := by
    apply sum_eq_zero
    intro j hj
    obtain ⟨k, hk, rfl⟩ := List.getElem_of_mem (mem_filter.1 hj).2
    rw [h.unit k hk, if_neg (by omega), zero_mul]
  rw [Tableau.rowSum, ← sum_filter_add_sum_filter_not _ (· ∈ g.basis), hown, zero_add,
    Stage.freeSum]

/-- Every constraint row is the row of a basic column. -/
theorem exists_label (h : p.Represents g) {i : Nat} (hi : 1 ≤ i) (hit : i < g.tableau.height) :
    ∃ k, ∃ _ : k < g.basis.length, i = k + 1 := by
  have := h.height
  have := h.length_basis
  exact ⟨i - 1, by omega, by omega⟩

/-- The worth of a balanced vector is the corner less the reduced costs of its free part. -/
theorem worth_eq (h : p.Represents g) {z : Nat → Rat} (hz : p.Balanced z) :
    p.worth z = g.tableau.rhs 0 - g.freeSum 0 z := by
  have hres := h.worth z hz
  rw [Tableau.residual, h.rowSum_zero] at hres
  linarith

/-- A balanced vector is determined by its free part. -/
theorem basic_eq (h : p.Represents g) {z : Nat → Rat} (hz : p.Balanced z) {i : Nat}
    (hi : i < g.basis.length) :
    z g.basis[i] = g.tableau.rhs (i + 1) - g.freeSum (i + 1) z := by
  have hres := (h.solves z).2 hz (i + 1) (Nat.le_add_left 1 i) (h.row_lt hi)
  rw [Tableau.residual, h.rowSum_succ hi] at hres
  linarith

theorem balanced_plan (h : p.Represents g) : p.Balanced g.plan := by
  rw [← h.solves]
  intro i hi hit
  obtain ⟨k, hk, rfl⟩ := h.exists_label hi hit
  rw [Tableau.residual, h.rowSum_succ hk, Stage.plan_getElem h.nodup hk,
    Stage.freeSum_eq_zero fun j hj => Stage.plan_of_not_mem hj]
  ring

/-- The corner is the worth of the basic solution. -/
theorem worth_plan (h : p.Represents g) : p.worth g.plan = g.tableau.rhs 0 := by
  rw [h.worth_eq h.balanced_plan, Stage.freeSum_eq_zero fun j hj => Stage.plan_of_not_mem hj,
    sub_zero]

/-- The basic solution is the only balanced vector that is zero off the basis. -/
theorem eq_plan (h : p.Represents g) {z : Nat → Rat} (hz : p.Balanced z)
    (hfree : ∀ j < p.n.toNat + p.m.toNat, j ∉ g.basis → z j = 0) {k : Nat}
    (hk : k < p.n.toNat + p.m.toNat) : z k = g.plan k := by
  by_cases hmem : k ∈ g.basis
  · obtain ⟨i, hi, rfl⟩ := List.getElem_of_mem hmem
    have hzero : g.freeSum (i + 1) z = 0 := by
      apply sum_eq_zero
      intro j hj
      rw [mem_filter, mem_range, h.width] at hj
      rw [hfree j hj.1 hj.2, mul_zero]
    rw [Stage.plan_getElem h.nodup hi, h.basic_eq hz hi, hzero, sub_zero]
  · rw [hfree k hk hmem, Stage.plan_of_not_mem hmem]

/-- Without a negative right-hand side the basic solution has no negative entry. -/
theorem plan_nonneg (h : p.Represents g) (hg : g.Feasible) (k : Nat) : 0 ≤ g.plan k := by
  by_cases hmem : k ∈ g.basis
  · obtain ⟨i, hi, rfl⟩ := List.getElem_of_mem hmem
    rw [Stage.plan_getElem h.nodup hi]
    exact hg (i + 1) (Nat.le_add_left 1 i) (h.row_lt hi)
  · rw [Stage.plan_of_not_mem hmem]

theorem isPlan_plan (h : p.Represents g) (hg : g.Feasible) : p.IsPlan g.plan :=
  isPlan_of_balanced h.balanced_plan fun k _ => h.plan_nonneg hg k

/-! ## The direction of a column -/

section Ray

variable {s : Nat}

theorem freeSum_ray (h : p.Represents g) (hs : s < p.n.toNat + p.m.toNat) (hfree : s ∉ g.basis)
    (i : Nat) : g.freeSum i (g.ray s) = g.tableau.entry i s := by
  rw [Stage.freeSum, sum_eq_single_of_mem s]
  · rw [Stage.ray_self, mul_one]
  · rw [mem_filter, mem_range, h.width]
    exact ⟨hs, hfree⟩
  · intro j hj hne
    rw [Stage.ray_of_not_mem hne (mem_filter.1 hj).2, mul_zero]

/-- Moving along the direction of a column keeps a vector balanced. -/
theorem balanced_move (h : p.Represents g) (hs : s < p.n.toNat + p.m.toNat) (hfree : s ∉ g.basis)
    {z : Nat → Rat} (hz : p.Balanced z) (a : Rat) : p.Balanced (z + a • g.ray s) := by
  rw [← h.solves]
  intro i hi hit
  obtain ⟨k, hk, rfl⟩ := h.exists_label hi hit
  rw [Tableau.residual_add, Tableau.rowSum_smul, (h.solves z).2 hz _ hi hit, h.rowSum_succ hk,
    h.freeSum_ray hs hfree, Stage.ray_getElem h.nodup hfree hk]
  ring

/-- Every canonical form gives the direction of a column the same reduced cost. -/
theorem rowSum_zero_ray {g' : Stage Rat} (h : p.Represents g) (h' : p.Represents g')
    (hs : s < p.n.toNat + p.m.toNat) (hfree : s ∉ g.basis) :
    g'.tableau.rowSum 0 (g.ray s) = g.tableau.entry 0 s := by
  have hplan := h.balanced_plan
  have hmove : p.Balanced (g.plan + g.ray s) := by
    have := h.balanced_move hs hfree hplan 1
    rwa [one_smul] at this
  have hsame : g'.tableau.residual 0 (g.plan + g.ray s) =
      g.tableau.residual 0 (g.plan + g.ray s) := by
    rw [h'.worth _ hmove, h.worth _ hmove]
  rw [Tableau.residual_add, Tableau.residual_add, h'.worth _ hplan, h.worth _ hplan,
    h.rowSum_zero, h.freeSum_ray hs hfree] at hsame
  linarith

/-- Moving along the direction of a column changes the worth by its reduced cost. -/
theorem worth_move (h : p.Represents g) (hs : s < p.n.toNat + p.m.toNat) (hfree : s ∉ g.basis)
    (a : Rat) : p.worth (g.plan + a • g.ray s) = g.tableau.rhs 0 - a * g.tableau.entry 0 s := by
  have hres := h.worth _ (h.balanced_move hs hfree h.balanced_plan a)
  rw [Tableau.residual_add, Tableau.rowSum_smul, h.worth _ h.balanced_plan, h.worth_plan,
    h.rowSum_zero_ray h hs hfree] at hres
  linarith

end Ray

end Represents

end Program

end ProductionLP
