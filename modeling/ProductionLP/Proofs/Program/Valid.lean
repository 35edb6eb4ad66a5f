import Mathlib.Algebra.Order.Field.Rat
import ProductionLP.Program.Validate

/- What validation establishes.

   `IsValid` lists the rules for a program that is fit to be solved, and `validate_eq_ok_iff`
   says that validation passes exactly when they all hold. Later modules rely on the rules and
   not on the order in which validation looks at them. -/
namespace ProductionLP.Program

open Scalar

/-! ## Sequences of checks -/

section Checks

variable {ε : Type} {x : Except ε Unit} {f : Unit → Except ε Unit}

theorem check_bind_eq_ok_iff : (x >>= f) = .ok () ↔ x = .ok () ∧ f () = .ok () := by
  cases x <;> simp [bind, Except.bind]

/-- A check that throws under a condition lets pass what does not meet it. -/
theorem guard_eq_ok_iff {c : Prop} [Decidable c] {e : ε} :
    (if c then throw e >>= f else x) = .ok () ↔ ¬ c ∧ x = .ok () := by
  by_cases h : c
  · simp [h, bind, Except.bind, throw, throwThe, MonadExceptOf.throw]
  · simp [h]

end Checks

/-! ## The rules -/

section Rules

variable {α : Type}

theorem checkShape_eq_ok_iff {part : Part} {b : Block α} {expected : List Int} :
    checkShape part b expected = .ok () ↔ b.shape.map Int.ofNat = expected := by
  rw [checkShape]
  split <;> simp [*]

variable [Scalar α]

/-- The rules for a program that is fit to be solved. -/
structure IsValid (p : Program α) : Prop where
  n_pos : 1 ≤ p.n
  n_le : p.n ≤ 10
  m_pos : 1 ≤ p.m
  m_le : p.m ≤ 10
  objective_shape : p.objective.shape = [p.n.toNat]
  coefficients_shape : p.coefficients.shape = [p.m.toNat, p.n.toNat]
  bounds_shape : p.bounds.shape = [p.m.toNat]
  operator_count : (p.operators.length : Int) = p.m
  objective_finite : ∀ x ∈ p.objective.entries, finite x = true
  coefficients_finite : ∀ x ∈ p.coefficients.entries, finite x = true
  bounds_finite : ∀ x ∈ p.bounds.entries, finite x = true
  bounds_nonneg : ∀ b ∈ p.bounds.entries, lt b 0 = false
  all_atMost : ∀ r ∈ p.operators, r = .atMost

/-- A shape that reads as the expected sizes consists of these sizes. -/
theorem shape_of_map_ofNat {shape : List Nat} {sizes : List Int}
    (h : shape.map Int.ofNat = sizes) : shape = sizes.map Int.toNat := by
  rw [← h, List.map_map]
  simp [Function.comp_def]

theorem sizeAllowed_iff {k : Int} : sizeAllowed k = true ↔ 1 ≤ k ∧ k ≤ 10 := by
  rw [sizeAllowed, Bool.and_eq_true, decide_eq_true_eq, decide_eq_true_eq]
  exact Iff.rfl

theorem negativePlaces_eq_nil_iff {bs : List α} :
    ∀ {i : Nat}, negativePlaces i bs = [] ↔ ∀ b ∈ bs, lt b 0 = false := by
  induction bs with
  | nil => simp [negativePlaces]
  | cons b rest ih =>
    intro i
    cases hb : lt b 0 <;> simp [negativePlaces, hb, ih]

theorem checkBounds_eq_ok_iff {bs : List α} :
    checkBounds bs = .ok () ↔ ∀ b ∈ bs, lt b 0 = false := by
  rw [← negativePlaces_eq_nil_iff (i := 1), checkBounds]
  split
  · next h => simp [h]
  · next h =>
    constructor
    · intro hk
      cases hk
    · intro hn
      exact absurd hn h

variable {quote : Value → Except Fault String}

theorem checkOperators_eq_ok_iff {rs : List Relation} :
    ∀ {i : Nat}, checkOperators quote i rs = .ok () ↔ ∀ r ∈ rs, r = .atMost := by
  induction rs with
  | nil => simp [checkOperators]
  | cons r rest ih =>
    intro i
    cases r with
    | other symbol => cases hquote : quote symbol <;> simp [checkOperators, hquote]
    | _ => simp [checkOperators, ih]

theorem checkFinite_eq_ok_iff {part : Part} {b : Block α} :
    checkFinite part b = .ok () ↔ ∀ x ∈ b.entries, finite x = true := by
  rw [checkFinite]
  split
  · next h => simpa using h
  · next h => simpa using h

/-- Validation passes exactly on the programs that keep all rules. -/
theorem validate_eq_ok_iff (p : Program α) : p.validate quote = .ok () ↔ p.IsValid := by
  unfold validate
  simp only [guard_eq_ok_iff, check_bind_eq_ok_iff, checkShape_eq_ok_iff, checkFinite_eq_ok_iff,
    checkBounds_eq_ok_iff, checkOperators_eq_ok_iff, Bool.not_eq_true', Bool.not_eq_false,
    sizeAllowed_iff, not_not]
  constructor
  · rintro ⟨⟨hn1, hn2⟩, ⟨hm1, hm2⟩, ho, hc, hb, hcount, hfo, hfc, hfb, hneg, hops⟩
    refine ⟨hn1, hn2, hm1, hm2, ?_, ?_, ?_, hcount, hfo, hfc, hfb, hneg, hops⟩
    · exact shape_of_map_ofNat ho
    · exact shape_of_map_ofNat hc
    · exact shape_of_map_ofNat hb
  · intro h
    have hn := Int.toNat_of_nonneg (Int.le_trans Int.one_nonneg h.n_pos)
    have hm := Int.toNat_of_nonneg (Int.le_trans Int.one_nonneg h.m_pos)
    refine ⟨⟨h.n_pos, h.n_le⟩, ⟨h.m_pos, h.m_le⟩, ?_, ?_, ?_, h.operator_count,
      h.objective_finite, h.coefficients_finite, h.bounds_finite, h.bounds_nonneg, h.all_atMost⟩
    · simp [h.objective_shape, hn]
    · simp [h.coefficients_shape, hn, hm]
    · simp [h.bounds_shape, hm]

end Rules

end ProductionLP.Program
