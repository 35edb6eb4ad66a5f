import ProductionLP.Proofs.Decimal.Rounding
import ProductionLP.Proofs.Program.Feasible
import ProductionLP.Proofs.Replay
import ProductionLP.Proofs.Tableau.Names
import ProductionLP.Report

/- Reports on a solved program.

   Everything that is shown of a solution can be shown: its tableaus have the names that their
   shapes ask for (`Report.exists_ofTableau`), its plan consists of numbers that are rounded for
   display without overflow (`Report.exists_plan`), and on a valid program the report on the
   constraints has a number and a bound in every row (`Report.exists_constraints`). The tableaus
   of a run all have the shape of the first (`IsRun.shape_of_snapshot`), and whatever its status
   a solution has one value for each variable (`IsRun.length_values`). -/
namespace ProductionLP

/-! ## Tableaus -/

namespace Report

/-- A tableau that has columns for all of its rows has a name for every column. -/
theorem exists_ofTableau {t : Tableau Float} {digits : Int} (hrows : 1 ≤ t.height)
    (hcolumns : t.height ≤ t.width) (hdigits : isPlaces digits = true) :
    ∃ f, ofTableau t (some digits) = .ok f := by
  have hnames : (Tableau.columnNames t.variableCount t.constraintCount ++ ["RHS"]).length =
      t.width := by
    rw [List.length_append, Tableau.length_columnNames, Tableau.variableCount,
      Tableau.constraintCount]
    show _ + 1 = _
    omega
  rw [ofTableau, if_pos hnames, if_neg (by simp [hdigits])]
  exact ⟨_, rfl⟩

/-! ## Plans -/

/-- Any number is rounded for display. -/
theorem exists_rounded (x : Float) : ∃ y, rounded places x = .ok y := by
  obtain ⟨y, hy⟩ := Decimal.exists_roundPlaces x
  rw [rounded]
  split
  · exact ⟨x, rfl⟩
  · rw [places, hy]
    exact ⟨_, rfl⟩

theorem exists_planRows (j : Nat) (xs : List Float) : ∃ rows, planRows j xs = .ok rows := by
  induction xs generalizing j with
  | nil => exact ⟨[], rfl⟩
  | cons x rest ih =>
    obtain ⟨y, hy⟩ := exists_rounded x
    obtain ⟨rows, hrows⟩ := ih (j + 1)
    rw [planRows, hy, hrows]
    exact ⟨_, rfl⟩

/-- Every solution has a plan to show. -/
theorem exists_plan (sol : Solution Float) : ∃ f, plan sol = .ok f := by
  obtain ⟨rows, hrows⟩ := exists_planRows 0 sol.values
  rw [plan, hrows]
  exact ⟨_, rfl⟩

/-! ## Constraints -/

theorem exists_numberAt {b : Block Float} {count i : Nat} (hb : b.shape = [count])
    (hi : i < count) : ∃ x, numberAt b i = .ok x := by
  obtain ⟨shape, entries, fits⟩ := b
  subst hb
  have hlength : entries.length = count := by rw [fits]; exact Nat.mul_one count
  have hpart : (entries.drop (i * 1)).take 1 = [entries[i]] := by
    rw [Nat.mul_one, List.drop_eq_getElem_cons (by omega)]
    rfl
  refine ⟨entries[i], ?_⟩
  simp only [numberAt, Block.parts?, Block.volume, Block.getElem?_pieces hi, hpart, single]

variable {p : Program Float} {usage : Block Float}

/-- The use of a constraint of a valid program, named by its number. -/
theorem exists_constraintUse (hp : p.IsValid) (husage : usage.shape = [p.m.toNat]) {i : Nat}
    (hi : i < p.m.toNat) :
    ∃ u, constraintUse p usage .null i = .ok u ∧
      u.label = .text ("R" ++ toString (i + 1)) ∧ u.operator = .text "≤" := by
  obtain ⟨rhs, hrhs⟩ := exists_numberAt hp.bounds_shape hi
  obtain ⟨lhs, hlhs⟩ := exists_numberAt husage hi
  have hcount := hp.operator_count
  have hop : p.operators[i]? = some .atMost := by
    rw [List.getElem?_eq_getElem (by omega)]
    exact congrArg some (hp.all_atMost _ (List.getElem_mem _))
  refine ⟨⟨_, lhs, _, rhs⟩, ?_, rfl, rfl⟩
  rw [constraintUse, hrhs, hlhs, hop]
  rfl

theorem exists_constraintUses (hp : p.IsValid) (husage : usage.shape = [p.m.toNat])
    (i count : Nat) (hle : i + count ≤ p.m.toNat) :
    ∃ uses, constraintUses p usage .null i count = .ok uses ∧
      ∀ u ∈ uses, (∃ name, u.label = .text name) ∧ ∃ symbol, u.operator = .text symbol := by
  induction count generalizing i with
  | zero => exact ⟨[], rfl, by simp⟩
  | succ count ih =>
    obtain ⟨u, hu, hlabel, hop⟩ := exists_constraintUse hp husage (show i < p.m.toNat by omega)
    obtain ⟨uses, huses, htexts⟩ := ih (i + 1) (by omega)
    refine ⟨u :: uses, ?_, ?_⟩
    · rw [constraintUses, hu, huses]
      rfl
    · rintro v (_ | ⟨_, hv⟩)
      · exact ⟨⟨_, hlabel⟩, _, hop⟩
      · exact htexts v hv

/-- A column of texts stays as it is. -/
theorem exists_columnOf {values : List Value} (h : ∀ v ∈ values, ∃ s, v = .text s) :
    ∃ cells, Frame.columnOf values = .ok cells := by
  have hkept : Frame.becomesNumeric .nothing values = .ok false := by
    cases values with
    | nil => rfl
    | cons v rest =>
      obtain ⟨s, rfl⟩ := h v (List.mem_cons_self ..)
      rfl
  rw [Frame.columnOf, hkept]
  exact ⟨_, rfl⟩

/-- The use of every constraint of a valid program at a vector with one entry for each
    variable. -/
theorem exists_constraints (hp : p.IsValid) {xs : List Float} (hxs : xs.length = p.n.toNat) :
    ∃ f, constraints p (.vector xs) .null = .ok f := by
  obtain ⟨b, hb, hshape, _⟩ := Block.timesVector_matrix hp.coefficients_shape hxs
  obtain ⟨uses, huses, htexts⟩ := exists_constraintUses hp hshape 0 p.m.toNat (by omega)
  obtain ⟨names, hnames⟩ := @exists_columnOf (uses.map (·.label)) (by
    intro v hv
    obtain ⟨u, hu, rfl⟩ := List.mem_map.1 hv
    exact (htexts u hu).1)
  obtain ⟨operators, hoperators⟩ := @exists_columnOf (uses.map (·.operator)) (by
    intro v hv
    obtain ⟨u, hu, rfl⟩ := List.mem_map.1 hv
    exact (htexts u hu).2)
  have husage : p.usage (.vector xs) = .ok b := hb
  simp only [constraints, husage, bind, Except.bind, huses, hnames, hoperators]
  split
  · exact ⟨_, rfl⟩
  · exact ⟨_, rfl⟩

end Report

/-! ## Solutions -/

namespace IsRun

variable {α : Type} [Scalar α] {s : Settings α} {p : Program α} {g : Stage α} {tr : Trace α}

/-- Every recorded tableau has the shape of the first one. -/
theorem shape_of_snapshot (h : IsRun s p g tr) {sn : Snapshot α} (hsn : sn ∈ tr.snapshots) :
    sn.tableau.height = p.m.toNat + 1 ∧ sn.tableau.width = p.n.toNat + p.m.toNat + 1 := by
  obtain ⟨k, hk⟩ := List.mem_iff_getElem?.1 hsn
  rw [h.tableau_of_snapshot hk]
  exact ⟨h.height_after k, h.width_after k⟩

/-- A solution has one value for each variable. -/
theorem length_values (h : IsRun s p g tr) {status : Status} {sol : Solution α}
    (hsol : Solution.extract tr.tableau p.n status tr.snapshots tr.pivots s.basicTol = .ok sol) :
    sol.values.length = p.n.toNat := by
  have hn := h.valid.n_pos
  have hn' := h.valid.n_le
  have hwidth := h.width_after tr.pivots.length
  have hheight := h.height_after tr.pivots.length
  rw [← h.tableau_eq] at hwidth hheight
  by_cases hstatus : status = .unbounded
  · rw [hstatus, extract_unbounded (by omega) (by omega)] at hsol
    cases hsol
    exact List.length_replicate
  · rw [extract_of_ne_unbounded hstatus (by omega) (by omega) (by omega) (by omega)] at hsol
    cases hsol
    simp

end IsRun

end ProductionLP
