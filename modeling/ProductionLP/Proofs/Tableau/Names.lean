import Mathlib.Data.List.Nodup
import ProductionLP.Tableau.Units

/- Names of columns and rows.

   A name is a letter and a number counted from one. Numbers are read back from their digits
   (`toString_injective`) and letters differ, so columns have different names
   (`nodup_columnNames`), and none has the name of a row (`ne_rowName_of_mem`). -/
namespace ProductionLP

/-- A natural number is read back from its digits. -/
theorem toString_injective {i j : Nat} (h : toString i = toString j) : i = j := by
  rw [Nat.toString_eq_ofList_toDigits, Nat.toString_eq_ofList_toDigits, String.ofList_inj] at h
  have hread := congrArg (Nat.ofDigitChars 10 · 0) h
  simpa only [Nat.ofDigitChars_ten_toDigits] using hread

namespace Tableau

theorem numbered_injective (letter : String) {i j : Nat}
    (h : letter ++ toString (i + 1) = letter ++ toString (j + 1)) : i = j := by
  have hdigits : toString (i + 1) = toString (j + 1) := by simpa using h
  exact Nat.succ.inj (toString_injective hdigits)

/-- Names with different letters differ. -/
theorem append_ne_append {a b : String} {c d : Char} (ha : a.toList = [c]) (hb : b.toList = [d])
    (hcd : c ≠ d) (s t : String) : a ++ s ≠ b ++ t := by
  intro h
  have hlists := congrArg String.toList h
  rw [String.toList_append, String.toList_append, ha, hb] at hlists
  exact hcd (List.cons.inj hlists).1

section Columns

variable {n m : Int} {name : String}

theorem length_columnNames (n m : Int) : (columnNames n m).length = n.toNat + m.toNat := by
  simp [columnNames, variableNames, slackNames]

/-- The decision variables come first. -/
theorem getElem?_columnNames {j : Nat} (hj : j < n.toNat) (m : Int) :
    (columnNames n m)[j]? = some ("x" ++ toString (j + 1)) := by
  rw [columnNames, List.getElem?_append_left (by simpa [variableNames] using hj), variableNames,
    List.getElem?_map, List.getElem?_range hj]
  rfl

theorem exists_of_mem_columnNames (h : name ∈ columnNames n m) :
    (∃ j < n.toNat, name = "x" ++ toString (j + 1)) ∨ ∃ i < m.toNat, name = "s" ++ toString (i + 1) := by
  rcases List.mem_append.1 h with h | h
  · obtain ⟨j, hj, rfl⟩ := List.mem_map.1 h
    exact .inl ⟨j, List.mem_range.1 hj, rfl⟩
  · obtain ⟨i, hi, rfl⟩ := List.mem_map.1 h
    exact .inr ⟨i, List.mem_range.1 hi, rfl⟩

theorem nodup_columnNames (n m : Int) : (columnNames n m).Nodup := by
  rw [columnNames, List.nodup_append]
  refine ⟨?_, ?_, ?_⟩
  · exact List.nodup_range.map fun i j h => numbered_injective "x" h
  · exact List.nodup_range.map fun i j h => numbered_injective "s" h
  · intro a ha b hb hab
    obtain ⟨j, _, rfl⟩ := List.mem_map.1 ha
    obtain ⟨i, _, rfl⟩ := List.mem_map.1 hb
    exact append_ne_append (c := 'x') (d := 's') rfl rfl (by decide) _ _ hab

/-- Only its own column has the name of a decision variable. -/
theorem getElem?_columnNames_iff {k j : Nat} :
    (columnNames n m)[k]? = some ("x" ++ toString (j + 1)) ↔ k = j ∧ j < n.toNat := by
  constructor
  · intro h
    rcases exists_of_mem_columnNames (List.mem_of_getElem? h) with ⟨l, hl, hx⟩ | ⟨l, _, hs⟩
    · obtain rfl := numbered_injective "x" hx
      have hk := (List.getElem?_eq_some_iff.1 h).1
      rw [← getElem?_columnNames hl m, List.getElem?_inj hk (nodup_columnNames n m)] at h
      exact ⟨h, hl⟩
    · exact absurd hs (append_ne_append (c := 'x') (d := 's') rfl rfl (by decide) _ _)
  · rintro ⟨rfl, hk⟩
    exact getElem?_columnNames hk m

theorem ne_rowName_of_mem (h : name ∈ columnNames n m) (row : Nat) : name ≠ "R" ++ toString row := by
  rcases exists_of_mem_columnNames h with ⟨j, _, rfl⟩ | ⟨i, _, rfl⟩
  · exact append_ne_append (c := 'x') (d := 'R') rfl rfl (by decide) _ _
  · exact append_ne_append (c := 's') (d := 'R') rfl rfl (by decide) _ _

end Columns

end Tableau

end ProductionLP
