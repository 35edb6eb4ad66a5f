import Mathlib.Data.List.GetD
import ProductionLP.Proofs.Ascent

/- The least-index rule never cycles.

   Suppose that some passes under the least-index rule come back to the basic columns they
   started from (`Circuit`).

   1. The corner never falls and is the same at both ends, so every pivot of the circuit has
      ratio zero (`Circuit.ratio_eq_zero`), and all its stages have the same basic solution
      (`Circuit.plan_eq`).
   2. A column that is basic at one stage and not at another enters at some pass and leaves at
      some pass (`Circuit.enters_of_changes`, `Circuit.leaves_of_changes`).
   3. Let `q` be the greatest column that enters. At the pass where it leaves, a smaller
      column `s` enters; along the direction of `s` the objective row of the pass where `q`
      enters sums to a negative number (`Represents.rowSum_zero_ray`). So some column below
      `q` that enters somewhere has a negative direction there, and its row ties with the row
      of `q`. The tie should have gone to the smaller label (`Circuit.impossible`).

   Hence the stages of a run have different sets of basic columns (`IsRun.basis_ne`), and a run
   is shorter than the number of such sets (`IsRun.length_pivots_lt`). -/
namespace ProductionLP

open Finset PivotRule

/-- Passes under the least-index rule with an exact ratio test, which come back to the set of
    basic columns that they start from. -/
structure Circuit (p : Program Rat) (count : Nat) (G : Nat → Stage Rat) (row col : Nat → Nat) :
    Prop where
  pos : 0 < count
  represents : ∀ k ≤ count, p.Represents (G k)
  feasible : ∀ k ≤ count, (G k).Feasible
  chooses : ∀ k < count, (G k).Chooses .bland 0 (row k) (col k)
  next : ∀ k < count, G (k + 1) = (G k).pivot (row k) (col k)
  closed : ∀ j, j ∈ (G count).basis ↔ j ∈ (G 0).basis

/-- A property that is the same at both ends and that no step creates is the same
    everywhere. -/
theorem iff_of_step {count : Nat} {P : Nat → Prop} (hclosed : P count ↔ P 0)
    (hstep : ∀ k < count, P (k + 1) → P k) {k l : Nat} (hk : k ≤ count) (hl : l ≤ count) :
    P k ↔ P l := by
  have hdown : ∀ d a, a + d ≤ count → P (a + d) → P a := by
    intro d
    induction d with
    | zero => exact fun _ _ hP => hP
    | succ d ih => exact fun a had hP => ih a (by omega) (hstep (a + d) (by omega) hP)
  have hall : ∀ a ≤ count, (P a ↔ P 0) := by
    intro a ha
    constructor
    · intro hP
      exact hdown a 0 (by omega) (by rwa [Nat.zero_add])
    · intro hP
      have hend := hclosed.2 hP
      exact hdown (count - a) a (by omega) (by rwa [Nat.add_sub_cancel' ha])
  exact (hall k hk).trans (hall l hl).symm

namespace Circuit

variable {p : Program Rat} {count : Nat} {G : Nat → Stage Rat} {row col : Nat → Nat}

/-! ## Every pivot is degenerate -/

theorem passes (h : Circuit p count G row col) : Passes p .bland 0 count G row col :=
  ⟨le_refl 0, h.represents, h.feasible, h.chooses, h.next⟩

/-- No pivot of a circuit moves the basic solution: the ends have the same basic columns. -/
theorem ratio_eq_zero (h : Circuit p count G row col) {k : Nat} (hk : k < count) :
    ratio (G k).tableau (col k) (row k) = 0 := by
  have hends := h.passes.corner_eq_of_basis (Nat.zero_le count) (le_refl count) h.closed
  exact h.passes.ratio_eq_zero_of_corner_eq (le_refl count) hends (Nat.zero_le k) hk

theorem rhs_row_eq_zero (h : Circuit p count G row col) {k : Nat} (hk : k < count) :
    (G k).tableau.rhs (row k) = 0 := by
  have hzero := h.ratio_eq_zero hk
  rw [ratio, div_eq_zero_iff] at hzero
  exact hzero.resolve_right (h.passes.entry_pos hk).ne'

/-! ## What enters and what leaves -/

/-- The label of the row that leaves in a pass. -/
def leaver (G : Nat → Stage Rat) (row : Nat → Nat) (k : Nat) : Nat :=
  (G k).basis.getD (row k - 1) 0

theorem row_lt (h : Circuit p count G row col) {k : Nat} (hk : k < count) :
    row k - 1 < (G k).basis.length ∧ row k = row k - 1 + 1 := by
  obtain ⟨hr, hrt, _⟩ := h.passes.takesPart hk
  have hrep := h.represents k hk.le
  rw [hrep.height, ← hrep.length_basis] at hrt
  omega

theorem leaver_eq (h : Circuit p count G row col) {k : Nat} (hk : k < count) :
    ∃ hlt : row k - 1 < (G k).basis.length, leaver G row k = (G k).basis[row k - 1] := by
  have hlt := (h.row_lt hk).1
  exact ⟨hlt, List.getD_eq_getElem _ _ hlt⟩

theorem leaver_mem (h : Circuit p count G row col) {k : Nat} (hk : k < count) :
    leaver G row k ∈ (G k).basis := by
  obtain ⟨hlt, heq⟩ := h.leaver_eq hk
  rw [heq]
  exact List.getElem_mem hlt

theorem mem_of_mem_succ (h : Circuit p count G row col) {k : Nat} (hk : k < count) {j : Nat}
    (hj : j ∈ (G (k + 1)).basis) (hcol : j ≠ col k) : j ∈ (G k).basis := by
  rw [h.next k hk] at hj
  exact (List.mem_or_eq_of_mem_set hj).resolve_right hcol

theorem col_mem_succ (h : Circuit p count G row col) {k : Nat} (hk : k < count) :
    col k ∈ (G (k + 1)).basis := by
  rw [h.next k hk]
  exact List.mem_set (h.row_lt hk).1 (col k)

theorem mem_succ_of_mem (h : Circuit p count G row col) {k : Nat} (hk : k < count) {j : Nat}
    (hj : j ∈ (G k).basis) (hleaver : j ≠ leaver G row k) : j ∈ (G (k + 1)).basis := by
  obtain ⟨hlt, heq⟩ := h.leaver_eq hk
  obtain ⟨i, hi, rfl⟩ := List.getElem_of_mem hj
  have hne : row k - 1 ≠ i := by
    intro hrow
    subst hrow
    exact hleaver heq.symm
  have hset : ((G k).basis.set (row k - 1) (col k))[i]? = some (G k).basis[i] := by
    rw [List.getElem?_set_ne hne, List.getElem?_eq_getElem hi]
  rw [h.next k hk]
  exact List.mem_of_getElem? hset

theorem col_not_mem (h : Circuit p count G row col) {k : Nat} (hk : k < count) :
    col k ∉ (G k).basis :=
  ((h.represents k hk.le).enters (h.chooses k hk).enters).2.1

theorem col_lt (h : Circuit p count G row col) {k : Nat} (hk : k < count) :
    col k < p.n.toNat + p.m.toNat :=
  ((h.represents k hk.le).enters (h.chooses k hk).enters).1

/-- The basic solution stays where it is, since the variable that leaves is zero. -/
theorem plan_succ (h : Circuit p count G row col) {k : Nat} (hk : k < count) {j : Nat}
    (hj : j < p.n.toNat + p.m.toNat) : (G (k + 1)).plan j = (G k).plan j := by
  have hrep := h.represents k hk.le
  have hleaver : (G k).plan (leaver G row k) = 0 := by
    obtain ⟨hlt, heq⟩ := h.leaver_eq hk
    rw [heq, Stage.plan_getElem hrep.nodup hlt, ← (h.row_lt hk).2]
    exact h.rhs_row_eq_zero hk
  refine ((h.represents (k + 1) hk).eq_plan hrep.balanced_plan (fun i _ hi => ?_) hj).symm
  by_cases hmem : i ∈ (G k).basis
  · by_cases heq : i = leaver G row k
    · rw [heq, hleaver]
    · exact absurd (h.mem_succ_of_mem hk hmem heq) hi
  · exact Stage.plan_of_not_mem hmem

theorem plan_eq (h : Circuit p count G row col) {k : Nat} (hk : k ≤ count) {j : Nat}
    (hj : j < p.n.toNat + p.m.toNat) : (G k).plan j = (G 0).plan j := by
  induction k with
  | zero => rfl
  | succ k ih => exact (h.plan_succ hk hj).trans (ih (Nat.le_of_succ_le hk))

/-- A column that is basic at one stage of a circuit and not at another enters in some pass. -/
theorem enters_of_changes (h : Circuit p count G row col) {j k l : Nat} (hk : k ≤ count)
    (hl : l ≤ count) (hmem : j ∈ (G k).basis) (hnot : j ∉ (G l).basis) :
    ∃ i < count, col i = j := by
  by_contra hno
  have hsame := iff_of_step (P := fun i => j ∈ (G i).basis) (h.closed j)
    (fun i hi hj => h.mem_of_mem_succ hi hj fun heq => hno ⟨i, hi, heq.symm⟩) hk hl
  exact hnot (hsame.1 hmem)

/-- Such a column also leaves in some pass. -/
theorem leaves_of_changes (h : Circuit p count G row col) {j k l : Nat} (hk : k ≤ count)
    (hl : l ≤ count) (hmem : j ∈ (G k).basis) (hnot : j ∉ (G l).basis) :
    ∃ i < count, leaver G row i = j := by
  by_contra hno
  have hsame := iff_of_step (P := fun i => j ∉ (G i).basis) (not_congr (h.closed j))
    (fun i hi hj hin => hj (h.mem_succ_of_mem hi hin fun heq => hno ⟨i, hi, heq.symm⟩)) hk hl
  exact hsame.2 hnot hmem

/-! ## The greatest column that enters -/

/-- Some column enters that no other entering column exceeds. -/
theorem exists_greatest (h : Circuit p count G row col) :
    ∃ k < count, ∀ l < count, col l ≤ col k := by
  obtain ⟨k, hk, hmax⟩ := exists_max_image (range count) col ⟨0, mem_range.2 h.pos⟩
  exact ⟨k, mem_range.1 hk, fun l hl => hmax l (mem_range.2 hl)⟩

/-- A row of the column that enters where its variable is zero ties with the leaving row, so
    its label is no smaller. -/
theorem leaver_le (h : Circuit p count G row col) {k : Nat} (hk : k < count) {i : Nat}
    (hi : i < (G k).basis.length) (hzero : (G k).plan (G k).basis[i] = 0)
    (hpos : 0 < (G k).tableau.entry (i + 1) (col k)) : leaver G row k ≤ (G k).basis[i] := by
  have hrep := h.represents k hk.le
  have hit := hrep.row_lt hi
  rw [Stage.plan_getElem hrep.nodup hi] at hzero
  have htie : ratio (G k).tableau (col k) (i + 1) = ratio (G k).tableau (col k) (row k) := by
    rw [h.ratio_eq_zero hk, ratio, hzero, zero_div]
  have hle := (hrep.wins (h.chooses k hk)).least_label rfl (i + 1) hit
    ⟨Nat.le_add_left 1 i, hit, hpos⟩ htie
  rw [Nat.add_sub_cancel, List.getD_eq_getElem _ _ hi] at hle
  exact hle

/-- The row of the column that leaves is the leaving row. -/
theorem row_of_leaver (h : Circuit p count G row col) {k : Nat} (hk : k < count) {i : Nat}
    (hi : i < (G k).basis.length) (heq : (G k).basis[i] = leaver G row k) : i + 1 = row k := by
  obtain ⟨hlt, hleaver⟩ := h.leaver_eq hk
  have hsame := (h.represents k hk.le).nodup.getElem_inj_iff.1 (heq.trans hleaver)
  rw [hsame]
  exact (h.row_lt hk).2.symm

/-- When the greatest column that enters does so in pass `a` and leaves in pass `b`, the reduced
    costs of pass `a` price no part of the direction of pass `b` below zero. -/
theorem price_nonneg (h : Circuit p count G row col) {a b : Nat} (ha : a < count) (hb : b < count)
    (hgreatest : ∀ l < count, col l ≤ col a) (hleaves : leaver G row b = col a) {j : Nat}
    (hj : j < p.n.toNat + p.m.toNat) :
    0 ≤ (G a).tableau.entry 0 j * (G b).ray (col b) j := by
  have hrepA := h.represents a ha.le
  have hrepB := h.represents b hb.le
  have hcost : ∀ i < col a, 0 ≤ (G a).tableau.entry 0 i := fun i hi =>
    hrepA.enters_least (h.chooses a ha).enters hi
  by_cases hjs : j = col b
  · have hsmaller : col b < col a := by
      refine lt_of_le_of_ne (hgreatest b hb) fun heq => h.col_not_mem hb ?_
      rw [heq, ← hleaves]
      exact h.leaver_mem hb
    rw [hjs, Stage.ray_self, mul_one]
    exact hcost _ hsmaller
  by_cases hjB : j ∈ (G b).basis
  swap
  · rw [Stage.ray_of_not_mem hjs hjB, mul_zero]
  by_cases hjA : j ∈ (G a).basis
  · rw [hrepA.entry_zero_of_mem hjA, zero_mul]
  -- basic in pass `b` and not in pass `a`: it enters somewhere and is at most the greatest
  obtain ⟨c, hc, hcol⟩ := h.enters_of_changes hb.le ha.le hjB hjA
  have hle : j ≤ col a := hcol ▸ hgreatest c hc
  obtain ⟨i, hi, rfl⟩ := List.getElem_of_mem hjB
  rw [Stage.ray_getElem hrepB.nodup (h.col_not_mem hb) hi]
  rcases hle.lt_or_eq with hlt | heq
  · -- a positive entry would tie with the leaving row, and the smaller label would leave
    have hzero : (G b).plan (G b).basis[i] = 0 := by
      rw [h.plan_eq hb.le hj, ← h.plan_eq ha.le hj, Stage.plan_of_not_mem hjA]
    have hentry : (G b).tableau.entry (i + 1) (col b) ≤ 0 := by
      refine not_lt.1 fun hpos => ?_
      have := h.leaver_le hb hi hzero hpos
      omega
    exact mul_nonneg (hcost _ hlt) (neg_nonneg.2 hentry)
  · rw [heq, h.row_of_leaver hb hi (heq.trans hleaves.symm)]
    exact mul_nonneg_of_nonpos_of_nonpos (h.passes.reducedCost_neg ha).le
      (neg_nonpos.2 (h.passes.entry_pos hb).le)

/-- **There is no circuit under the least-index rule.** -/
theorem impossible (h : Circuit p count G row col) : False := by
  obtain ⟨a, ha, hgreatest⟩ := h.exists_greatest
  obtain ⟨b, hb, hleaves⟩ := h.leaves_of_changes (Nat.succ_le_of_lt ha) ha.le
    (h.col_mem_succ ha) (h.col_not_mem ha)
  have hrepA := h.represents a ha.le
  have hrepB := h.represents b hb.le
  -- both passes price the direction of pass `b` alike, and pass `b` prices it below zero
  have hprice : (G a).tableau.rowSum 0 ((G b).ray (col b)) = (G b).tableau.entry 0 (col b) :=
    hrepB.rowSum_zero_ray hrepA (h.col_lt hb) (h.col_not_mem hb)
  have hnonneg : 0 ≤ (G a).tableau.rowSum 0 ((G b).ray (col b)) := by
    apply sum_nonneg
    intro j hj
    rw [mem_range, hrepA.width, Nat.add_sub_cancel] at hj
    exact h.price_nonneg ha hb hgreatest hleaves hj
  rw [hprice] at hnonneg
  exact (h.passes.reducedCost_neg hb).not_ge hnonneg

end Circuit

/-! ## Runs -/

section Runs

variable {s : Settings Rat} {p : Program Rat} {g : Stage Rat} {tr : Trace Rat}

/-- No two stages of a run have the same basic columns. -/
theorem IsRun.basis_ne (h : IsRun s p g tr) (hrule : s.rule = .bland) (htol : s.pivotTol = 0)
    {k l : Nat} (hkl : k < l) (hl : l ≤ tr.pivots.length) :
    (g.after s.rule s.pivotTol k).basis.toFinset ≠
      (g.after s.rule s.pivotTol l).basis.toFinset := by
  intro heq
  have hrep := h.represents htol.ge
  have hfeas := h.feasible htol.ge (Trace.harmless_zero htol s.rule tr)
  choose! row col hchooses _ using h.follows.pivot
  rw [hrule, htol] at heq hrep hfeas hchooses
  have hcircuit : Circuit p (l - k) (fun i => g.after .bland 0 (k + i)) (fun i => row (k + i))
      (fun i => col (k + i)) := by
    refine ⟨by omega, fun i hi => hrep _ (by omega), fun i hi => hfeas _ (by omega),
      fun i hi => hchooses _ (by omega), fun i hi => ?_, fun j => ?_⟩
    · rw [← Nat.add_assoc, Stage.after_succ, (hchooses (k + i) (by omega)).next_eq]
    · rw [Nat.add_zero, Nat.add_sub_cancel' hkl.le, ← List.mem_toFinset, ← heq,
        List.mem_toFinset]
  exact hcircuit.impossible

/-- The stages of a run have different bases, each with one column for every constraint. -/
theorem IsRun.length_pivots_lt (h : IsRun s p g tr) (hrule : s.rule = .bland)
    (htol : s.pivotTol = 0) :
    tr.pivots.length < (p.n.toNat + p.m.toNat).choose p.m.toNat :=
  h.length_pivots_lt_of_basis_ne htol.ge fun _ _ hkl hl => h.basis_ne hrule htol hkl hl

/-- **The least-index rule comes to an end.** On a valid program no two passes look at the same
    basic columns. With as many pivots allowed as there are ways to choose one column for every
    constraint, the solver finds a best plan or that there is none. -/
theorem bland_terminates (hvalid : p.validate = .ok ()) (hrule : s.rule = .bland)
    (htol : s.pivotTol = 0) :
    ∃ tr, trace s p = .ok tr ∧
      tr.basisAt (slackBasis p.n.toNat p.m.toNat) tr.pivots.length = tr.basis ∧
      (∀ k l, k < l → l < tr.snapshots.length →
        (tr.basisAt (slackBasis p.n.toNat p.m.toNat) k).toFinset ≠
          (tr.basisAt (slackBasis p.n.toNat p.m.toNat) l).toFinset) ∧
      ((p.n.toNat + p.m.toNat).choose p.m.toNat ≤ s.maxIterations →
        ∃ sol, solve s p = .ok sol ∧ (sol.status = .optimal ∨ sol.status = .unbounded)) := by
  obtain ⟨g, tr, htrace, hrun⟩ := trace_of_isValid s ((Program.validate_eq_ok_iff p).1 hvalid)
  refine ⟨tr, htrace, ?_, fun k l hkl hl => ?_, fun hlimit => ?_⟩
  · rw [← hrun.basis]
    exact hrun.follows.basisAt_length
  · have hle : l ≤ tr.pivots.length := hrun.follows.le_of_lt_snapshots hl
    rw [← hrun.basis, hrun.follows.basisAt_eq (hkl.le.trans hle), hrun.follows.basisAt_eq hle]
    exact hrun.basis_ne hrule htol hkl hle
  · obtain ⟨status, hend, hsolve⟩ := hrun.solve_eq_ok htrace htol.ge
    refine ⟨_, hsolve, ?_⟩
    rw [Trace.status_solution]
    rcases hrun.ending_cases htol.ge with ⟨_, hcount⟩ | ⟨hopt, _⟩ | ⟨hunb, _⟩
    · have := hrun.length_pivots_lt hrule htol
      omega
    · exact .inl (Except.ok.inj (hend.symm.trans hopt))
    · exact .inr (Except.ok.inj (hend.symm.trans hunb))

/-- A program on which the other rule comes back to its first basis. -/
def standstill : Program Rat :=
  ⟨4, 3, .vector [10, -57, -9, -24],
    .matrix [[1 / 2, -11 / 2, -5 / 2, 9], [1 / 2, -3 / 2, -1 / 2, 1], [1, 0, 0, 0]] 4 (by decide),
    .vector [0, 0, 1], [.atMost, .atMost, .atMost]⟩

/-- As many pivots as three columns can be chosen out of seven. -/
def patient : Settings Rat := ⟨35, .bland, 0, 1 / 10000000000⟩

theorem bland_terminates_standstill :
    standstill.validate = .ok () ∧ patient.rule = .bland ∧ patient.pivotTol = 0 ∧
      ∃ tr, trace patient standstill = .ok tr ∧
        tr.basisAt (slackBasis 4 3) tr.pivots.length = tr.basis ∧
        (∀ k l, k < l → l < tr.snapshots.length →
          (tr.basisAt (slackBasis 4 3) k).toFinset ≠ (tr.basisAt (slackBasis 4 3) l).toFinset) ∧
        ∃ sol, solve patient standstill = .ok sol ∧
          (sol.status = .optimal ∨ sol.status = .unbounded) := by
  have hvalid : standstill.validate = .ok () := rfl
  obtain ⟨tr, htrace, hbasis, hne, hsolve⟩ := bland_terminates (s := patient) hvalid rfl rfl
  exact ⟨hvalid, rfl, rfl, tr, htrace, hbasis, hne, hsolve (by decide)⟩

end Runs

end ProductionLP
