import Mathlib.Logic.Function.Iterate
import ProductionLP.Solver.Run

/- Stages of a run.

   A pass looks at a stage: a tableau and the columns that are basic in its constraint rows.
   It stops with an ending (`outcome?`) or pivots and hands on the next stage (`pass_cases`).
   `run_follows` relates the trace that a run leaves behind to the sequence of stages:
   snapshots and pivots are those of the passes in order, the last tableau and basis are the
   stage after the last pivot, and the run ends where a stage has an outcome or where its
   pivots are used up. Nothing here depends on the arithmetic. -/
namespace ProductionLP

/-- A tableau and the columns that are basic in its constraint rows. -/
structure Stage (α : Type) where
  tableau : Tableau α
  basis : List Nat

namespace Stage

variable {α : Type} [Scalar α]

/-- How a run ends at a stage; none when the stage allows a pivot. -/
def outcome? (rule : PivotRule) (tol : α) (g : Stage α) : Option (Except RatioError Status) :=
  match rule.entering g.tableau.reducedCosts with
  | none => some (.ok .optimal)
  | some col =>
    match rule.leaving tol g.tableau col g.basis with
    | .error cause => some (.error cause)
    | .ok none => some (.ok .unbounded)
    | .ok (some _) => none

/-- The rule chooses a column and a row at a stage. -/
structure Chooses (rule : PivotRule) (tol : α) (g : Stage α) (row col : Nat) : Prop where
  enters : rule.entering g.tableau.reducedCosts = some col
  leaves : rule.leaving tol g.tableau col g.basis = .ok (some row)

/-- A stage after a pivot: the entering column takes the place of the leaving row's label. -/
def pivot (g : Stage α) (row col : Nat) : Stage α :=
  ⟨g.tableau.pivot row col, g.basis.set (row - 1) col⟩

/-- The stage after a pass. A pass that stops hands on its own stage. -/
def next (rule : PivotRule) (tol : α) (g : Stage α) : Stage α :=
  match rule.entering g.tableau.reducedCosts with
  | none => g
  | some col =>
    match rule.leaving tol g.tableau col g.basis with
    | .ok (some row) => g.pivot row col
    | _ => g

/-- The stage after a number of passes. -/
def after (rule : PivotRule) (tol : α) (g : Stage α) (k : Nat) : Stage α := (next rule tol)^[k] g

/-- The stage that recorded pivots lead to. -/
def replay (g : Stage α) (steps : List (PivotStep α)) : Stage α :=
  steps.foldl (fun g step => g.pivot step.row.toNat step.column.toNat) g

variable {rule : PivotRule} {tol : α} {g : Stage α} {row col : Nat}

theorem Chooses.next_eq (h : g.Chooses rule tol row col) : g.next rule tol = g.pivot row col := by
  simp only [next, h.enters, h.leaves]

theorem Chooses.outcome?_eq (h : g.Chooses rule tol row col) : g.outcome? rule tol = none := by
  simp only [outcome?, h.enters, h.leaves]

/-- What a pass can do: no column enters, the ratio test fails or finds no row, or it pivots. -/
theorem pass_cases (rule : PivotRule) (tol : α) (g : Stage α) :
    (rule.entering g.tableau.reducedCosts = none ∧
        g.outcome? rule tol = some (.ok .optimal)) ∨
      (∃ col cause, rule.entering g.tableau.reducedCosts = some col ∧
        rule.leaving tol g.tableau col g.basis = .error cause ∧
        g.outcome? rule tol = some (.error cause)) ∨
      (∃ col, rule.entering g.tableau.reducedCosts = some col ∧
        rule.leaving tol g.tableau col g.basis = .ok none ∧
        g.outcome? rule tol = some (.ok .unbounded)) ∨
      ∃ row col, g.Chooses rule tol row col := by
  cases henter : rule.entering g.tableau.reducedCosts with
  | none => exact .inl ⟨rfl, by simp only [outcome?, henter]⟩
  | some col =>
    right
    cases hleave : rule.leaving tol g.tableau col g.basis with
    | error cause => exact .inl ⟨col, cause, rfl, hleave, by simp only [outcome?, henter, hleave]⟩
    | ok row? =>
      right
      cases row? with
      | none => exact .inl ⟨col, rfl, hleave, by simp only [outcome?, henter, hleave]⟩
      | some row => exact .inr ⟨row, col, henter, hleave⟩

/-- A stage without an outcome allows a pivot. -/
theorem exists_chooses (h : g.outcome? rule tol = none) :
    ∃ row col, g.Chooses rule tol row col := by
  rcases g.pass_cases rule tol with ⟨_, hout⟩ | ⟨_, _, _, _, hout⟩ | ⟨_, _, _, hout⟩ | hchooses
  · cases hout.symm.trans h
  · cases hout.symm.trans h
  · cases hout.symm.trans h
  · exact hchooses

/-- No stage by itself makes a run end at its limit. -/
theorem outcome?_ne_iterationLimit (rule : PivotRule) (tol : α) (g : Stage α) :
    g.outcome? rule tol ≠ some (.ok .iterationLimit) := by
  intro h
  rcases g.pass_cases rule tol with
    ⟨_, hout⟩ | ⟨_, _, _, _, hout⟩ | ⟨_, _, _, hout⟩ | ⟨row, col, hchooses⟩
  · cases hout.symm.trans h
  · cases hout.symm.trans h
  · cases hout.symm.trans h
  · cases hchooses.outcome?_eq.symm.trans h

theorem after_succ (k : Nat) : g.after rule tol (k + 1) = (g.after rule tol k).next rule tol :=
  Function.iterate_succ_apply' ..

/-- Passes go on from the stage after the first. -/
theorem after_next (k : Nat) : (g.next rule tol).after rule tol k = g.after rule tol (k + 1) :=
  (Function.iterate_succ_apply ..).symm

theorem basis_replay (g : Stage α) (steps : List (PivotStep α)) :
    (g.replay steps).basis =
      steps.foldl (fun basis step => basis.set (step.row.toNat - 1) step.column.toNat) g.basis := by
  induction steps generalizing g with
  | nil => rfl
  | cons step rest ih => exact ih _

end Stage

/-- The stage that a run leaves behind. -/
def Trace.last {α : Type} (tr : Trace α) : Stage α := ⟨tr.tableau, tr.basis⟩

variable {α : Type} [Scalar α]

/-- A trace is what a run of at most `remaining` pivots leaves behind that starts at a stage
    with the given number. -/
structure Trace.Follows (rule : PivotRule) (tol : α) (remaining iteration : Nat) (g : Stage α)
    (tr : Trace α) : Prop where
  final : tr.last = g.after rule tol tr.pivots.length
  pivot : ∀ k < tr.pivots.length, ∃ row col, (g.after rule tol k).Chooses rule tol row col ∧
    tr.pivots[k]? = some ⟨iteration + k, col, row, (g.after rule tol k).tableau.entry row col⟩
  snapshot : ∀ k < tr.snapshots.length,
    tr.snapshots[k]? = some ⟨iteration + k, (g.after rule tol k).tableau⟩
  ending : tr.ending = .ok .iterationLimit ∧ tr.pivots.length = remaining ∧
      tr.snapshots.length = tr.pivots.length ∨
    (g.after rule tol tr.pivots.length).outcome? rule tol = some tr.ending ∧
      tr.pivots.length < remaining ∧ tr.snapshots.length = tr.pivots.length + 1

/-- A run that stops at its first stage. -/
theorem Trace.follows_stop {rule : PivotRule} {tol : α} {g : Stage α} (remaining iteration : Nat)
    {ending : Except RatioError Status} (h : g.outcome? rule tol = some ending) :
    Follows rule tol (remaining + 1) iteration g (stop iteration g.tableau g.basis ending) := by
  refine ⟨rfl, fun k hk => absurd hk (Nat.not_lt_zero k), fun k hk => ?_,
    .inr ⟨h, Nat.succ_pos remaining, rfl⟩⟩
  obtain rfl : k = 0 := by simpa [stop] using hk
  rfl

/-- A run that pivots at its first stage and goes on. -/
theorem Trace.Follows.cons {rule : PivotRule} {tol : α} {g : Stage α} {row col : Nat}
    {remaining iteration : Nat} {rest : Trace α} (h : g.Chooses rule tol row col)
    (hrest : Follows rule tol remaining (iteration + 1) (g.pivot row col) rest) :
    Follows rule tol (remaining + 1) iteration g
      (Trace.cons ⟨iteration, g.tableau⟩ ⟨iteration, col, row, g.tableau.entry row col⟩ rest) := by
  rw [← h.next_eq] at hrest
  have hlength : (Trace.cons ⟨iteration, g.tableau⟩ ⟨iteration, col, row, g.tableau.entry row col⟩
      rest).pivots.length = rest.pivots.length + 1 := rfl
  -- the rest of the run numbers its passes from the next one on
  have hnumber : ∀ k : Nat, ((iteration + 1 : Nat) : Int) + k = iteration + (k + 1 : Nat) := by
    omega
  refine ⟨?_, fun k hk => ?_, fun k hk => ?_, ?_⟩
  · rw [hlength, ← Stage.after_next]
    exact hrest.final
  · cases k with
    | zero => exact ⟨row, col, h, rfl⟩
    | succ k =>
      obtain ⟨r, c, hchooses, hget⟩ := hrest.pivot k (Nat.lt_of_succ_lt_succ hk)
      rw [Stage.after_next] at hchooses hget
      refine ⟨r, c, hchooses, ?_⟩
      rw [Trace.cons, List.getElem?_cons_succ, hget, hnumber]
  · cases k with
    | zero => rfl
    | succ k =>
      have hget := hrest.snapshot k (Nat.lt_of_succ_lt_succ hk)
      rw [Stage.after_next] at hget
      rw [Trace.cons, List.getElem?_cons_succ, hget, hnumber]
  · rw [hlength, ← Stage.after_next]
    rcases hrest.ending with ⟨hend, hpivots, hsnapshots⟩ | ⟨hend, hpivots, hsnapshots⟩
    · exact .inl ⟨hend, congrArg (· + 1) hpivots, congrArg (· + 1) hsnapshots⟩
    · exact .inr ⟨hend, Nat.succ_lt_succ hpivots, congrArg (· + 1) hsnapshots⟩

/-- Every run leaves behind the trace of its stages. -/
theorem run_follows (rule : PivotRule) (tol : α) (remaining iteration : Nat) (t : Tableau α)
    (basis : List Nat) : Trace.Follows rule tol remaining iteration ⟨t, basis⟩
      (run rule tol remaining iteration t basis) := by
  fun_induction run rule tol remaining iteration t basis with
  | case1 iteration t basis =>
    refine ⟨rfl, ?_, ?_, .inl ⟨rfl, rfl, rfl⟩⟩
    · exact fun k hk => absurd hk (Nat.not_lt_zero k)
    · exact fun k hk => absurd hk (Nat.not_lt_zero k)
  | case2 remaining iteration t basis henter =>
    exact Trace.follows_stop remaining iteration (by simp only [Stage.outcome?, henter])
  | case3 remaining iteration t basis col henter cause hleave =>
    exact Trace.follows_stop remaining iteration (by simp only [Stage.outcome?, henter, hleave])
  | case4 remaining iteration t basis col henter hleave =>
    exact Trace.follows_stop remaining iteration (by simp only [Stage.outcome?, henter, hleave])
  | case5 remaining iteration t basis col henter row hleave ih =>
    exact ih.cons ⟨henter, hleave⟩

/-- A run that may pivot stops at a stage with an outcome. -/
theorem run_of_outcome? {rule : PivotRule} {tol : α} {g : Stage α}
    {ending : Except RatioError Status} (h : g.outcome? rule tol = some ending)
    (remaining iteration : Nat) :
    run rule tol (remaining + 1) iteration g.tableau g.basis =
      Trace.stop iteration g.tableau g.basis ending := by
  rcases g.pass_cases rule tol with
    ⟨henter, hout⟩ | ⟨col, cause, henter, hleave, hout⟩ | ⟨col, henter, hleave, hout⟩ |
      ⟨row, col, hchooses⟩
  · cases hout.symm.trans h
    simp only [run, henter]
  · cases hout.symm.trans h
    simp only [run, henter, hleave]
  · cases hout.symm.trans h
    simp only [run, henter, hleave]
  · cases hchooses.outcome?_eq.symm.trans h

/-- A run that may pivot goes on from the next stage when the rule chooses a pivot. -/
theorem run_of_chooses {rule : PivotRule} {tol : α} {g : Stage α} {row col : Nat}
    (h : g.Chooses rule tol row col) (remaining iteration : Nat) :
    run rule tol (remaining + 1) iteration g.tableau g.basis =
      Trace.cons ⟨iteration, g.tableau⟩ ⟨iteration, col, row, g.tableau.entry row col⟩
        (run rule tol remaining (iteration + 1) (g.pivot row col).tableau
          (g.pivot row col).basis) := by
  simp only [run, h.enters, h.leaves]
  rfl

/-- The columns that are basic at a pass: the pivots recorded before it put their entering
    columns in the places of the leaving rows. -/
def Trace.basisAt {α : Type} (tr : Trace α) (start : List Nat) (k : Nat) : List Nat :=
  (tr.pivots.take k).foldl (fun basis step => basis.set (step.row.toNat - 1) step.column.toNat)
    start

namespace Trace.Follows

variable {rule : PivotRule} {tol : α} {remaining iteration : Nat} {g : Stage α} {tr : Trace α}

/-- The recorded pivots lead through the stages of the run. -/
theorem replay_take (h : Follows rule tol remaining iteration g tr) {k : Nat}
    (hk : k ≤ tr.pivots.length) : g.replay (tr.pivots.take k) = g.after rule tol k := by
  induction k with
  | zero => rfl
  | succ k ih =>
    obtain ⟨row, col, hchooses, hget⟩ := h.pivot k hk
    have hrest := ih (Nat.le_of_succ_le hk)
    rw [Stage.replay] at hrest
    rw [Stage.replay, List.take_add_one, hget, Option.toList_some, List.foldl_append, hrest,
      Stage.after_succ, hchooses.next_eq]
    rfl

/-- The recorded pivots account for the basis of every stage. -/
theorem basisAt_eq (h : Follows rule tol remaining iteration g tr) {k : Nat}
    (hk : k ≤ tr.pivots.length) : tr.basisAt g.basis k = (g.after rule tol k).basis := by
  rw [basisAt, ← Stage.basis_replay, h.replay_take hk]

/-- After the last pivot the basis is the one that the run leaves behind. -/
theorem basisAt_length (h : Follows rule tol remaining iteration g tr) :
    tr.basisAt g.basis tr.pivots.length = tr.basis := by
  rw [h.basisAt_eq (Nat.le_refl _), ← h.final]
  rfl

/-- A pivot comes from a stage that the run looks at. -/
theorem length_pivots_le (h : Follows rule tol remaining iteration g tr) :
    tr.pivots.length ≤ tr.snapshots.length := by
  rcases h.ending with ⟨_, _, hlength⟩ | ⟨_, _, hlength⟩
  · exact Nat.le_of_eq hlength.symm
  · rw [hlength]
    exact Nat.le_succ _

/-- A run looks at most once more than it pivots. -/
theorem le_of_lt_snapshots (h : Follows rule tol remaining iteration g tr) {k : Nat}
    (hk : k < tr.snapshots.length) : k ≤ tr.pivots.length := by
  rcases h.ending with ⟨_, _, hlength⟩ | ⟨_, _, hlength⟩ <;> omega

/-- A run that is cut off has used up its pivots and looked at one stage for each. -/
theorem lengths_of_cut_off (h : Follows rule tol remaining iteration g tr)
    (hlimit : tr.ending = .ok .iterationLimit) :
    tr.snapshots.length = remaining ∧ tr.pivots.length = remaining := by
  rcases h.ending with ⟨_, hpivots, hsnapshots⟩ | ⟨houtcome, _⟩
  · exact ⟨hsnapshots.trans hpivots, hpivots⟩
  · rw [hlimit] at houtcome
    exact absurd houtcome (Stage.outcome?_ne_iterationLimit rule tol _)

/-- The last stage is the first that does not allow a pivot, unless the run is cut off. -/
theorem outcome?_last (h : Follows rule tol remaining iteration g tr)
    (hlimit : tr.ending ≠ .ok .iterationLimit) :
    tr.last.outcome? rule tol = some tr.ending ∧
      tr.snapshots.length = tr.pivots.length + 1 := by
  rcases h.ending with ⟨hend, _⟩ | ⟨houtcome, _, hlength⟩
  · exact absurd hend hlimit
  · rw [h.final]
    exact ⟨houtcome, hlength⟩

/-- The last snapshot of a run that is not cut off is the tableau that it leaves behind. -/
theorem getLast?_snapshots (h : Follows rule tol remaining iteration g tr)
    (hlimit : tr.ending ≠ .ok .iterationLimit) :
    ∃ sn, tr.snapshots.getLast? = some sn ∧ sn.tableau = tr.tableau := by
  have hlength := (h.outcome?_last hlimit).2
  have hget := h.snapshot tr.pivots.length (by rw [hlength]; exact Nat.lt_succ_self _)
  rw [← h.final] at hget
  refine ⟨⟨iteration + tr.pivots.length, tr.tableau⟩, ?_, rfl⟩
  rw [List.getLast?_eq_getElem?, hlength, Nat.add_sub_cancel]
  exact hget

/-- What holds at the start and is kept by every pivot of a run holds at every stage of it. -/
theorem invariant (h : Follows rule tol remaining iteration g tr) {P : Stage α → Prop}
    (hstart : P g)
    (hstep : ∀ k < tr.pivots.length, ∀ row col, (g.after rule tol k).Chooses rule tol row col →
      P (g.after rule tol k) → P ((g.after rule tol k).pivot row col)) :
    ∀ k ≤ tr.pivots.length, P (g.after rule tol k) := by
  intro k
  induction k with
  | zero => intro _; exact hstart
  | succ k ih =>
    intro hk
    obtain ⟨row, col, hchooses, _⟩ := h.pivot k hk
    rw [Stage.after_succ, hchooses.next_eq]
    exact hstep k hk row col hchooses (ih (Nat.le_of_succ_le hk))

end Trace.Follows

end ProductionLP
