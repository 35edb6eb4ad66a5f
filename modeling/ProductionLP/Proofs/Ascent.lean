import Mathlib.Algebra.Order.BigOperators.Group.Finset
import Mathlib.Data.Finset.Powerset
import ProductionLP.Proofs.Solve

/- The corner along a run.

   Successive passes that pivot on feasible stages (`Passes`) never lower the corner: each one
   lifts it by the reduced cost of the entering column times the ratio of the leaving row
   (`corner_succ`), and a reduced cost that enters is negative while no ratio is. So two stages
   with the same corner have nothing but pivots of ratio zero between them
   (`ratio_eq_zero_of_corner_eq`).

   A set of basic columns has one basic solution, in whatever order the rows hold the columns,
   and so one corner (`corner_eq_of_basis`). Stages whose sets of basic columns all differ are
   at most as many as there are ways to choose one column for every constraint
   (`IsRun.length_pivots_lt_of_basis_ne`). Both pivot rules share all of this. -/
namespace ProductionLP

open Finset PivotRule

/-- The corner belongs to the set of basic columns: it is the worth of their basic solution. -/
theorem Program.Represents.corner_eq_of_basis {p : Program Rat} {g g' : Stage Rat}
    (h : p.Represents g) (h' : p.Represents g') (hbasis : ∀ j, j ∈ g'.basis ↔ j ∈ g.basis) :
    g'.tableau.rhs 0 = g.tableau.rhs 0 := by
  have hplan : ∀ j < p.n.toNat, g'.plan j = g.plan j := by
    intro j hj
    refine h.eq_plan h'.balanced_plan (fun k _ hk => ?_) (by omega)
    exact Stage.plan_of_not_mem fun hmem => hk ((hbasis k).1 hmem)
  rw [← h'.worth_plan, ← h.worth_plan]
  exact Program.worth_congr hplan

/-! ## Passes that pivot -/

/-- Successive passes on feasible stages of a program, each of which pivots. -/
structure Passes (p : Program Rat) (rule : PivotRule) (tol : Rat) (count : Nat)
    (G : Nat → Stage Rat) (row col : Nat → Nat) : Prop where
  tol_nonneg : 0 ≤ tol
  represents : ∀ k ≤ count, p.Represents (G k)
  feasible : ∀ k ≤ count, (G k).Feasible
  chooses : ∀ k < count, (G k).Chooses rule tol (row k) (col k)
  next : ∀ k < count, G (k + 1) = (G k).pivot (row k) (col k)

namespace Passes

variable {p : Program Rat} {rule : PivotRule} {tol : Rat} {count : Nat} {G : Nat → Stage Rat}
  {row col : Nat → Nat} {k l : Nat}

theorem wins (h : Passes p rule tol count G row col) (hk : k < count) :
    Wins rule tol (G k).tableau (col k) (G k).basis (G k).tableau.height (row k) :=
  (h.represents k hk.le).wins (h.chooses k hk)

theorem takesPart (h : Passes p rule tol count G row col) (hk : k < count) :
    TakesPart tol (G k).tableau (col k) (row k) :=
  (h.wins hk).takesPart

/-- The pivot entry is positive. -/
theorem entry_pos (h : Passes p rule tol count G row col) (hk : k < count) :
    0 < (G k).tableau.entry (row k) (col k) :=
  h.tol_nonneg.trans_lt (h.takesPart hk).2.2

theorem ratio_nonneg (h : Passes p rule tol count G row col) (hk : k < count) :
    0 ≤ ratio (G k).tableau (col k) (row k) := by
  obtain ⟨hr, hrt, _⟩ := h.takesPart hk
  exact div_nonneg (h.feasible k hk.le _ hr hrt) (h.entry_pos hk).le

theorem reducedCost_neg (h : Passes p rule tol count G row col) (hk : k < count) :
    (G k).tableau.entry 0 (col k) < 0 :=
  ((h.represents k hk.le).enters (h.chooses k hk).enters).2.2

theorem corner_succ (h : Passes p rule tol count G row col) (hk : k < count) :
    (G (k + 1)).tableau.rhs 0 =
      (G k).tableau.rhs 0 -
        (G k).tableau.entry 0 (col k) * ratio (G k).tableau (col k) (row k) := by
  rw [h.next k hk]
  exact (h.represents k hk.le).corner_pivot (h.chooses k hk)

theorem corner_le_succ (h : Passes p rule tol count G row col) (hk : k < count) :
    (G k).tableau.rhs 0 ≤ (G (k + 1)).tableau.rhs 0 := by
  have := mul_nonpos_of_nonpos_of_nonneg (h.reducedCost_neg hk).le (h.ratio_nonneg hk)
  rw [h.corner_succ hk]
  linarith

/-- The corner never falls. -/
theorem corner_le (h : Passes p rule tol count G row col) (hkl : k ≤ l) (hl : l ≤ count) :
    (G k).tableau.rhs 0 ≤ (G l).tableau.rhs 0 := by
  induction l, hkl using Nat.le_induction with
  | base => exact le_refl _
  | succ l _ ih => exact (ih (Nat.le_of_succ_le hl)).trans (h.corner_le_succ hl)

/-- Between two stages with the same corner it does not move. -/
theorem corner_eq_between (h : Passes p rule tol count G row col) (hl : l ≤ count)
    (hsame : (G l).tableau.rhs 0 = (G k).tableau.rhs 0) {i : Nat} (hki : k ≤ i) (hil : i ≤ l) :
    (G i).tableau.rhs 0 = (G k).tableau.rhs 0 :=
  le_antisymm ((h.corner_le hil hl).trans hsame.le) (h.corner_le hki (hil.trans hl))

/-- Between two stages with the same corner every pivot has ratio zero. -/
theorem ratio_eq_zero_of_corner_eq (h : Passes p rule tol count G row col) (hl : l ≤ count)
    (hsame : (G l).tableau.rhs 0 = (G k).tableau.rhs 0) {i : Nat} (hki : k ≤ i) (hil : i < l) :
    ratio (G i).tableau (col i) (row i) = 0 := by
  have hi : i < count := hil.trans_le hl
  have hbefore := h.corner_eq_between hl hsame hki hil.le
  have hafter := h.corner_eq_between hl hsame (Nat.le_succ_of_le hki) hil
  have hgain : (G i).tableau.entry 0 (col i) * ratio (G i).tableau (col i) (row i) = 0 := by
    have := h.corner_succ hi
    linarith
  exact (mul_eq_zero.1 hgain).resolve_left (h.reducedCost_neg hi).ne

/-- Passes that come back to a set of basic columns have moved the corner nowhere. -/
theorem corner_eq_of_basis (h : Passes p rule tol count G row col) (hkl : k ≤ l) (hl : l ≤ count)
    (hbasis : ∀ j, j ∈ (G l).basis ↔ j ∈ (G k).basis) :
    (G l).tableau.rhs 0 = (G k).tableau.rhs 0 :=
  (h.represents k (hkl.trans hl)).corner_eq_of_basis (h.represents l hl) hbasis

end Passes

/-! ## Runs -/

namespace IsRun

variable {s : Settings Rat} {p : Program Rat} {g : Stage Rat} {tr : Trace Rat}

/-- The pivots of a run on which the tolerance hides nothing are such passes. -/
theorem exists_passes (h : IsRun s p g tr) (htol : 0 ≤ s.pivotTol)
    (hharmless : tr.Harmless s.rule s.pivotTol) :
    ∃ row col : Nat → Nat,
      Passes p s.rule s.pivotTol tr.pivots.length (g.after s.rule s.pivotTol) row col ∧
      ∀ k < tr.pivots.length, tr.pivots[k]? =
        some ⟨k, col k, row k, (g.after s.rule s.pivotTol k).tableau.entry (row k) (col k)⟩ := by
  choose! row col hchooses hget using h.follows.pivot
  refine ⟨row, col, ⟨htol, h.represents htol, h.feasible htol hharmless, hchooses, ?_⟩, ?_⟩
  · intro k hk
    rw [Stage.after_succ, (hchooses k hk).next_eq]
  · intro k hk
    rw [hget k hk, Nat.cast_zero, zero_add]

/-- A run whose stages all have different sets of basic columns, each with one column for every
    constraint, is shorter than the number of such sets. -/
theorem length_pivots_lt_of_basis_ne (h : IsRun s p g tr) (htol : 0 ≤ s.pivotTol)
    (hne : ∀ k l, k < l → l ≤ tr.pivots.length →
      (g.after s.rule s.pivotTol k).basis.toFinset ≠
        (g.after s.rule s.pivotTol l).basis.toFinset) :
    tr.pivots.length < (p.n.toNat + p.m.toNat).choose p.m.toNat := by
  have hmaps : ∀ k ∈ range (tr.pivots.length + 1),
      (g.after s.rule s.pivotTol k).basis.toFinset ∈
        powersetCard p.m.toNat (range (p.n.toNat + p.m.toNat)) := by
    intro k hk
    have hrep := h.represents htol k (Nat.lt_succ_iff.1 (mem_range.1 hk))
    rw [mem_powersetCard, List.toFinset_card_of_nodup hrep.nodup]
    exact ⟨fun j hj => mem_range.2 (hrep.lt_of_mem j (List.mem_toFinset.1 hj)),
      hrep.length_basis⟩
  have hinjective : Set.InjOn (fun k => (g.after s.rule s.pivotTol k).basis.toFinset)
      (range (tr.pivots.length + 1)) := by
    intro k hk l hl heq
    rw [mem_coe, mem_range, Nat.lt_succ_iff] at hk hl
    rcases Nat.lt_trichotomy k l with hlt | rfl | hlt
    · exact absurd heq (hne k l hlt hl)
    · rfl
    · exact absurd heq.symm (hne l k hlt hk)
  have hcard := card_le_card_of_injOn _ hmaps hinjective
  rw [card_range, card_powersetCard, card_range] at hcard
  exact hcard

end IsRun

end ProductionLP
