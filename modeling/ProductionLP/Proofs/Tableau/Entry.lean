import Mathlib.Algebra.Order.Field.Rat
import Mathlib.Tactic.Ring
import ProductionLP.Tableau.Pivot

/- Entries of tableaus.

   A tableau is stored row by row; the statements about runs speak of the number in a row and
   a column. This module reads the stored parts of a tableau (reduced costs, right-hand
   sides, the corner, columns) as entries, which determine it (`ext_entry`), and gives the
   entries after a pivot on exact numbers in closed form (`entry_pivot`): the pivot row divided
   by the pivot entry, every other row less its multiple of the divided row. The row that the
   program leaves alone because its factor is zero obeys the same formula. Read by columns, a
   pivot makes its own column a unit column (`isUnitColumn_pivot`) and leaves the unit columns of
   the other rows as they are (`IsUnitColumn.entry_pivot`). -/
namespace ProductionLP.Tableau

/-! ## Reading a tableau -/

section Reading

variable {α : Type} {t : Tableau α} {i j : Nat} {row : List α}

theorem length_row (h : t.rows[i]? = some row) : row.length = t.width :=
  t.even row (List.mem_of_getElem? h)

theorem exists_row (hi : i < t.height) : ∃ row, t.rows[i]? = some row :=
  ⟨_, List.getElem?_eq_getElem hi⟩

/-- The first of the rows from a row on is that row. -/
theorem getElem?_of_cons_eq_drop {rest : List (List α)} (h : row :: rest = t.rows.drop i) :
    t.rows[i]? = some row ∧ rest = t.rows.drop (i + 1) := by
  constructor
  · simpa [List.head?_drop] using (congrArg List.head? h).symm
  · simpa [List.tail_drop] using congrArg List.tail h

theorem objectiveRow_eq (h : 0 < t.height) : t.rows[0]? = some t.objectiveRow := by
  obtain ⟨row, hrow⟩ := exists_row h
  rw [objectiveRow, List.headD_eq_head?_getD, List.head?_eq_getElem?, hrow]
  rfl

theorem length_reducedCosts (h : 0 < t.height) : t.reducedCosts.length = t.width - 1 := by
  rw [reducedCosts, List.length_dropLast, length_row (objectiveRow_eq h)]

variable [Zero α]

theorem entry_of_row (h : t.rows[i]? = some row) (j : Nat) : t.entry i j = row.getD j 0 := by
  rw [entry, entry?, h, List.getD_eq_getElem?_getD]
  rfl

theorem entry_of_height_le (h : t.height ≤ i) (j : Nat) : t.entry i j = 0 := by
  rw [entry, entry?, List.getElem?_eq_none h]
  rfl

theorem entry_of_width_le (h : t.width ≤ j) (i : Nat) : t.entry i j = 0 := by
  rcases Nat.lt_or_ge i t.height with hi | hi
  · obtain ⟨row, hrow⟩ := exists_row hi
    rw [entry_of_row hrow, List.getD_eq_getElem?_getD,
      List.getElem?_eq_none (by rw [length_row hrow]; exact h)]
    rfl
  · exact entry_of_height_le hi j

/-- An entry that is not zero lies inside the tableau. -/
theorem lt_of_entry_ne_zero (h : t.entry i j ≠ 0) : i < t.height ∧ j < t.width :=
  ⟨not_le.1 fun hle => h (entry_of_height_le hle j),
    not_le.1 fun hle => h (entry_of_width_le hle i)⟩

/-- The entries of a stored row. -/
theorem getElem?_row (h : t.rows[i]? = some row) (hj : j < t.width) :
    row[j]? = some (t.entry i j) := by
  have hlt : j < row.length := by rw [length_row h]; exact hj
  rw [entry_of_row h, List.getD_eq_getElem?_getD, List.getElem?_eq_getElem hlt]
  rfl

theorem entry?_eq (hi : i < t.height) (hj : j < t.width) : t.entry? i j = some (t.entry i j) := by
  obtain ⟨row, hrow⟩ := exists_row hi
  unfold entry?
  rw [hrow]
  exact getElem?_row hrow hj

theorem getLast?_row (h : t.rows[i]? = some row) (hw : 0 < t.width) :
    row.getLast? = some (t.entry i (t.width - 1)) := by
  rw [List.getLast?_eq_getElem?, length_row h]
  exact getElem?_row h (by omega)

theorem rhs?_eq (hi : i < t.height) (hw : 0 < t.width) :
    t.rhs? i = some (t.entry i (t.width - 1)) := by
  obtain ⟨row, hrow⟩ := exists_row hi
  rw [rhs?, hrow]
  exact getLast?_row hrow hw

theorem corner?_eq (h : 0 < t.height) (hw : 0 < t.width) :
    t.corner? = some (t.entry 0 (t.width - 1)) :=
  getLast?_row (objectiveRow_eq h) hw

theorem getElem?_reducedCosts (h : 0 < t.height) (hj : j < t.width - 1) :
    t.reducedCosts[j]? = some (t.entry 0 j) := by
  rw [reducedCosts, List.getElem?_dropLast, length_row (objectiveRow_eq h), if_pos hj]
  exact getElem?_row (objectiveRow_eq h) (by omega)

theorem filterMap_getElem? {rows : List (List α)} (h : ∀ row ∈ rows, j < row.length) :
    rows.filterMap (·[j]?) = rows.map fun row => row.getD j 0 := by
  induction rows with
  | nil => rfl
  | cons row rest ih =>
    have hj := h row List.mem_cons_self
    have ih := ih fun x hx => h x (List.mem_cons_of_mem row hx)
    rw [List.filterMap_cons, List.getElem?_eq_getElem hj, ih, List.map_cons,
      List.getD_eq_getElem?_getD, List.getElem?_eq_getElem hj]
    rfl

/-- A column lists its entries from the objective row down. -/
theorem column?_eq (hj : j < t.width) :
    t.column? j = some ((List.range t.height).map fun i => t.entry i j) := by
  have hlen : ∀ row ∈ t.rows, j < row.length := fun row hrow => by
    rw [t.even row hrow]; exact hj
  rw [column?, if_pos hj, filterMap_getElem? hlen]
  congr 1
  refine List.ext_getElem (by simp [height]) fun i hi _ => ?_
  rw [List.length_map] at hi
  have hrow : t.rows[i]? = some t.rows[i] := List.getElem?_eq_getElem hi
  rw [List.getElem_map, List.getElem_map, List.getElem_range, entry_of_row hrow]

/-- Tableaus of one shape with the same entries are the same. -/
theorem ext_entry {u : Tableau α} (hwidth : t.width = u.width) (hheight : t.height = u.height)
    (h : ∀ i < t.height, ∀ j < t.width, t.entry i j = u.entry i j) : t = u := by
  have hrows : t.rows = u.rows := by
    refine List.ext_getElem hheight fun i hi hi' => ?_
    have hrow : t.rows[i]? = some t.rows[i] := List.getElem?_eq_getElem hi
    have hrow' : u.rows[i]? = some u.rows[i] := List.getElem?_eq_getElem hi'
    refine List.ext_getElem? fun j => ?_
    rcases Nat.lt_or_ge j t.width with hj | hj
    · rw [getElem?_row hrow hj, getElem?_row hrow' (hwidth ▸ hj), h i hi j hj]
    · rw [List.getElem?_eq_none (by rw [length_row hrow]; exact hj),
        List.getElem?_eq_none (by rw [length_row hrow', ← hwidth]; exact hj)]
  cases t
  cases u
  cases hwidth
  cases hrows
  rfl

end Reading

/-! ## The shape of a tableau after a pivot -/

section Shape

variable {α : Type} [Scalar α]

@[simp] theorem width_pivot (t : Tableau α) (r c : Nat) : (t.pivot r c).width = t.width := rfl

@[simp] theorem height_pivot (t : Tableau α) (r c : Nat) : (t.pivot r c).height = t.height := by
  show (pivotRows t.rows r c).length = t.rows.length
  unfold pivotRows
  split <;> simp

end Shape

/-! ## The closed form of a pivot -/

section Pivot

variable {t : Tableau Rat} {r c : Nat}

/-- Elimination on exact numbers: with a zero factor the formula changes nothing. -/
theorem getD_eliminate {pivotRow row : List Rat} (hlen : pivotRow.length = row.length)
    (hc : c < row.length) (j : Nat) :
    (eliminate pivotRow c row).getD j 0 = row.getD j 0 - row.getD c 0 * pivotRow.getD j 0 := by
  have hfactor : row[c]? = some (row.getD c 0) := by
    rw [List.getD_eq_getElem?_getD, List.getElem?_eq_getElem hc]
    rfl
  generalize hf : row.getD c 0 = f at hfactor
  rw [eliminate, hfactor]
  show (if decide (f = 0) = true then row
    else List.zipWith (fun x y => x - f * y) row pivotRow).getD j 0 = _
  split
  · next h0 =>
    rw [decide_eq_true_eq] at h0
    rw [h0, zero_mul, sub_zero]
  · rw [List.getD_eq_getElem?_getD, List.getElem?_zipWith, List.getD_eq_getElem?_getD,
      List.getD_eq_getElem?_getD]
    rcases Nat.lt_or_ge j row.length with hj | hj
    · rw [List.getElem?_eq_getElem hj, List.getElem?_eq_getElem (by rw [hlen]; exact hj)]
      rfl
    · rw [List.getElem?_eq_none hj, List.getElem?_eq_none (by rw [hlen]; exact hj)]
      simp

theorem getD_normalRow {row : List Rat} (hc : c < row.length) (j : Nat) :
    (normalRow c row).getD j 0 = row.getD j 0 / row.getD c 0 := by
  have hp : row[c]? = some (row.getD c 0) := by
    rw [List.getD_eq_getElem?_getD, List.getElem?_eq_getElem hc]
    rfl
  generalize row.getD c 0 = p at hp
  rw [normalRow, hp]
  show (row.map (fun x : Rat => x / p)).getD j 0 = _
  rw [List.getD_eq_getElem?_getD, List.getElem?_map, List.getD_eq_getElem?_getD]
  cases row[j]? <;> simp

/-- The entries after a pivot. Rows and columns outside the tableau hold zeros before and
    after, so only the pivot column has to lie inside. -/
theorem entry_pivot (hc : c < t.width) (i j : Nat) :
    (t.pivot r c).entry i j =
      if i = r then t.entry r j / t.entry r c
      else t.entry i j - t.entry i c * (t.entry r j / t.entry r c) := by
  -- a pivot row outside the tableau leaves it as it is, and its entries all read as zero
  rcases Nat.lt_or_ge r t.height with hr | hr
  · obtain ⟨row, hrow⟩ := exists_row hr
    have hlen := length_row hrow
    have hrows : (t.pivot r c).rows = t.rows.mapIdx
        fun i x => if i = r then normalRow c row else eliminate (normalRow c row) c x := by
      show pivotRows t.rows r c = _
      rw [pivotRows, hrow]
    rcases Nat.lt_or_ge i t.height with hi | hi
    · obtain ⟨x, hx⟩ := exists_row hi
      have hnew : (t.pivot r c).rows[i]? =
          some (if i = r then normalRow c row else eliminate (normalRow c row) c x) := by
        rw [hrows, List.getElem?_mapIdx, hx]
        rfl
      rw [entry_of_row hnew]
      split
      · rw [getD_normalRow (by omega), entry_of_row hrow, entry_of_row hrow]
      · have hxlen := length_row hx
        rw [getD_eliminate (by rw [length_normalRow]; omega) (by omega),
          getD_normalRow (by omega), entry_of_row hx, entry_of_row hx, entry_of_row hrow,
          entry_of_row hrow]
    · have hir : i ≠ r := by omega
      rw [entry_of_height_le (by simpa using hi), if_neg hir, entry_of_height_le hi,
        entry_of_height_le hi]
      ring
  · have hsame : (t.pivot r c).rows = t.rows := by
      show pivotRows t.rows r c = _
      rw [pivotRows, List.getElem?_eq_none hr]
    have hentry : (t.pivot r c).entry i j = t.entry i j := by rw [entry, entry?, hsame]; rfl
    rw [hentry, entry_of_height_le hr, entry_of_height_le hr]
    split
    · next h => rw [h, entry_of_height_le hr, zero_div]
    · rw [zero_div, mul_zero, sub_zero]

/-! ## Unit columns -/

/-- A column with a one in a row and zeros elsewhere. -/
def IsUnitColumn (t : Tableau Rat) (r c : Nat) : Prop :=
  ∀ i, t.entry i c = if i = r then 1 else 0

theorem isUnitColumn_iff : t.IsUnitColumn r c ↔
    r < t.height ∧ ∀ i < t.height, t.entry i c = if i = r then 1 else 0 := by
  constructor
  · intro h
    have hone : t.entry r c ≠ 0 := by rw [h r, if_pos rfl]; exact one_ne_zero
    exact ⟨(lt_of_entry_ne_zero hone).1, fun i _ => h i⟩
  · rintro ⟨hr, h⟩ i
    rcases Nat.lt_or_ge i t.height with hi | hi
    · exact h i hi
    · rw [entry_of_height_le hi, if_neg (by omega)]

instance : Decidable (t.IsUnitColumn r c) := decidable_of_iff _ isUnitColumn_iff.symm

/-- The pivot column becomes the unit column of the pivot row. -/
theorem isUnitColumn_pivot (hc : c < t.width) (hp : t.entry r c ≠ 0) :
    (t.pivot r c).IsUnitColumn r c := by
  intro i
  rw [entry_pivot hc, div_self hp, mul_one, sub_self]

/-- The unit column of another row has a zero in the pivot row, so nothing in it changes. -/
theorem IsUnitColumn.entry_pivot {s k : Nat} (h : t.IsUnitColumn s k) (hs : s ≠ r)
    (hc : c < t.width) (i : Nat) : (t.pivot r c).entry i k = t.entry i k := by
  have hzero : t.entry r k = 0 := by rw [h r, if_neg hs.symm]
  rw [Tableau.entry_pivot hc, hzero, zero_div, mul_zero, sub_zero]
  split
  · next hi => rw [hi, hzero]
  · rfl

end Pivot

end ProductionLP.Tableau
