import ProductionLP.Proofs.Tableau.Equations

/- Pivots as changes of form.

   A pivot at an entry that is not zero says the same in another form. Its column becomes a unit
   column, every unit column of another row stays as it is, and the equations of all rows keep
   their solutions. Nothing is lost: a column that was the unit column of the pivot row holds
   what is needed to go back, and a pivot there restores the tableau entry by entry
   (`pivot_pivot`). `pivot_changesForm` collects all of this. -/
namespace ProductionLP.Tableau

variable {t : Tableau Rat} {r c d : Nat}

/-- The column that leaves holds the inverse of the pivot entry in the pivot row. -/
theorem IsUnitColumn.entry_pivot_self (h : t.IsUnitColumn r d) (hc : c < t.width) :
    (t.pivot r c).entry r d = 1 / t.entry r c := by
  rw [Tableau.entry_pivot hc, if_pos rfl, h r, if_pos rfl]

/-- In every other row it holds by how many times the pivot row was subtracted. -/
theorem IsUnitColumn.entry_pivot_of_ne (h : t.IsUnitColumn r d) (hc : c < t.width) {i : Nat}
    (hi : i ≠ r) : (t.pivot r c).entry i d = -(t.entry i c / t.entry r c) := by
  rw [Tableau.entry_pivot hc, if_neg hi, h i, if_neg hi, h r, if_pos rfl, zero_sub, mul_one_div]

/-- A pivot in the column that left undoes a pivot. -/
theorem pivot_pivot (hp : t.entry r c ≠ 0) (h : t.IsUnitColumn r d) :
    (t.pivot r c).pivot r d = t := by
  have hc : c < t.width := (lt_of_entry_ne_zero hp).2
  have hd : d < (t.pivot r c).width := by
    have hone : t.entry r d ≠ 0 := by rw [h r, if_pos rfl]; exact one_ne_zero
    exact (lt_of_entry_ne_zero hone).2
  -- the pivot row is multiplied by what it was divided by
  have hrow : ∀ j, (t.pivot r c).entry r j / (t.pivot r c).entry r d = t.entry r j := by
    intro j
    rw [h.entry_pivot_self hc, entry_pivot hc, if_pos rfl, div_div_div_cancel_right₀ hp, div_one]
  refine ext_entry rfl (by simp) fun i _ j _ => ?_
  rw [entry_pivot hd]
  split
  · next hi => rw [hi, hrow]
  · next hi =>
    -- every other row gets back what was subtracted from it
    rw [hrow, h.entry_pivot_of_ne hc hi]
    calc (t.pivot r c).entry i j - -(t.entry i c / t.entry r c) * t.entry r j
        = t.entry i j - t.entry i c * (t.entry r j / t.entry r c)
            + t.entry i c / t.entry r c * t.entry r j := by
          rw [entry_pivot hc, if_neg hi, neg_mul, sub_neg_eq_add]
      _ = t.entry i j := by ring

/-- The tableau `u` says what `t` says, solved for the variable of column `c` in row `r`: by its
    entries, its columns, its solutions, and the way back. -/
structure ChangesForm (t u : Tableau Rat) (r c : Nat) : Prop where
  width : u.width = t.width
  height : u.height = t.height
  pivot_row : ∀ j, u.entry r j = t.entry r j / t.entry r c
  other_row : ∀ i, i ≠ r → ∀ j,
    u.entry i j = t.entry i j - t.entry i c * t.entry r j / t.entry r c
  entering : u.IsUnitColumn r c
  staying : ∀ s, s ≠ r → ∀ k, t.IsUnitColumn s k → ∀ i, u.entry i k = t.entry i k
  solutions : ∀ z, t.SolvesAll z ↔ u.SolvesAll z
  back : ∀ d, t.IsUnitColumn r d → u.entry r d ≠ 0 ∧ u.pivot r d = t

/-- **A pivot is a reversible change of form.** An entry that is not zero lies inside the
    tableau, so any such entry can be pivoted on, in the objective row and on the right-hand side
    as well. -/
theorem pivot_changesForm (hp : t.entry r c ≠ 0) : ChangesForm t (t.pivot r c) r c := by
  obtain ⟨hr, hc⟩ := lt_of_entry_ne_zero hp
  refine ⟨width_pivot t r c, height_pivot t r c, ?_, ?_, isUnitColumn_pivot hc hp, ?_,
    fun z => (solvesAll_pivot_iff hc hr hp z).symm, ?_⟩
  · intro j
    rw [entry_pivot hc, if_pos rfl]
  · intro i hi j
    rw [entry_pivot hc, if_neg hi, mul_div_assoc]
  · intro s hs k hk
    exact hk.entry_pivot hs hc
  · intro d hd
    refine ⟨?_, pivot_pivot hp hd⟩
    rw [hd.entry_pivot_self hc]
    exact one_div_ne_zero hp

/-- Two machines with their slack variables basic. -/
def workshop : Tableau Rat :=
  ⟨5, [[-3, -5, 0, 0, 0], [2, 4, 1, 0, 8], [0, 3, 0, 1, 9]], by decide⟩

theorem pivot_changesForm_workshop :
    workshop.entry 1 1 ≠ 0 ∧ workshop.IsUnitColumn 1 2 ∧ workshop.IsUnitColumn 2 3 ∧
      ChangesForm workshop (workshop.pivot 1 1) 1 1 ∧
      (workshop.pivot 1 1).pivot 1 2 = workshop := by
  have hp : workshop.entry 1 1 ≠ 0 := by decide +kernel
  have hleaving : workshop.IsUnitColumn 1 2 := by decide +kernel
  have hchanges := pivot_changesForm hp
  exact ⟨hp, hleaving, by decide +kernel, hchanges, (hchanges.back 2 hleaving).2⟩

end ProductionLP.Tableau
