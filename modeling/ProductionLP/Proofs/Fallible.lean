import Mathlib.Data.List.Forall2
import ProductionLP.Error

/- Computations that can fail.

   A computation yields a value or an error. What a chain of computations yields comes from what
   its first part yields, and a list of computations yields a list of values exactly when each
   yields its own. -/
namespace ProductionLP

variable {ε α β γ : Type}

/-- What a computation yields comes from what its first part yields. -/
theorem exists_of_bind_eq_ok {x : Except ε β} {f : β → Except ε γ} {c : γ}
    (h : (x >>= f) = .ok c) : ∃ b, x = .ok b ∧ f b = .ok c := by
  cases x with
  | error e => cases h
  | ok b => exact ⟨b, rfl, h⟩

/-- When a chain yields something whatever its first part yields, the first part decides. -/
theorem exists_bind_eq_ok_iff {x : Except ε β} {f : β → Except ε γ} {P : Prop}
    (h : ∀ b, (∃ c, f b = .ok c) ↔ P) :
    (∃ c, (x >>= f) = .ok c) ↔ (∃ b, x = .ok b) ∧ P := by
  constructor
  · rintro ⟨c, hc⟩
    obtain ⟨b, hb, hc⟩ := exists_of_bind_eq_ok hc
    exact ⟨⟨b, hb⟩, (h b).1 ⟨c, hc⟩⟩
  · rintro ⟨⟨b, rfl⟩, hP⟩
    exact (h b).2 hP

theorem exists_map_eq_ok_iff {x : Except ε β} {f : β → γ} :
    (∃ c, (x >>= fun b => pure (f b)) = .ok c) ↔ ∃ b, x = .ok b :=
  (exists_bind_eq_ok_iff fun b => ⟨fun _ => trivial, fun _ => ⟨f b, rfl⟩⟩).trans
    (and_iff_left trivial)

/-- What a computation yields, found by running it. -/
theorem exists_of_mem_toOption {x : Except ε α} {P : α → Prop}
    (h : ∃ a ∈ x.toOption, P a) : ∃ a, x = .ok a ∧ P a := by
  obtain ⟨a, ha, hP⟩ := h
  cases x with
  | error e => cases ha
  | ok b =>
    cases ha
    exact ⟨_, rfl, hP⟩

/-- A list of computations yields what each of them yields. -/
theorem mapM_eq_ok_iff {f : α → Except ε β} {xs : List α} {ys : List β} :
    xs.mapM f = .ok ys ↔ List.Forall₂ (fun x y => f x = .ok y) xs ys := by
  induction xs generalizing ys with
  | nil =>
    rw [List.mapM_nil, List.forall₂_nil_left_iff]
    exact ⟨fun h => (Except.ok.inj h).symm, fun h => h ▸ rfl⟩
  | cons x rest ih =>
    rw [List.mapM_cons, List.forall₂_cons_left_iff]
    constructor
    · intro h
      obtain ⟨y, hy, h⟩ := exists_of_bind_eq_ok h
      obtain ⟨zs, hzs, h⟩ := exists_of_bind_eq_ok h
      exact ⟨y, zs, hy, ih.1 hzs, (Except.ok.inj h).symm⟩
    · rintro ⟨y, zs, hy, hzs, rfl⟩
      rw [hy, ih.2 hzs]
      rfl

theorem length_of_mapM_eq_ok {f : α → Except ε β} {xs : List α} {ys : List β}
    (h : xs.mapM f = .ok ys) : ys.length = xs.length :=
  (mapM_eq_ok_iff.1 h).length_eq.symm

theorem exists_of_mem_mapM {f : α → Except ε β} {xs : List α} {ys : List β}
    (h : xs.mapM f = .ok ys) {y : β} (hy : y ∈ ys) : ∃ x ∈ xs, f x = .ok y := by
  obtain ⟨i, hi, rfl⟩ := List.getElem_of_mem hy
  have hread := mapM_eq_ok_iff.1 h
  have hlt : i < xs.length := by rwa [hread.length_eq]
  exact ⟨xs[i], List.getElem_mem hlt, hread.get hlt hi⟩

/-- A fault seen as an error is no value. -/
theorem liftFault_eq_ok_iff {x : Except Fault α} {a : α} : liftFault x = .ok a ↔ x = .ok a := by
  cases x <;> simp [liftFault, Except.mapError]

end ProductionLP
