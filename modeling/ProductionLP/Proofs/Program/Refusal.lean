import Mathlib
import ProductionLP.Proofs.Program.Valid
import ProductionLP.Proofs.Tableau.First

/- What validation refuses.

   Validation looks at the sizes, then at the arrays and the number of operators, and last at
   the operators themselves (`validate_eq`):

   1. a program that is sound but for its operators is refused for the first operator that is
      not "at most", and in a way of its own when that operator is a known one
      (`validate_of_isSound`, `checkOperators_map`);
   2. the checks of the arrays refuse a program for what is wrong with an array, in words that
      can always be written (`checkParts_refusesPlainly`);
   3. the words for a refused size name it, and so do the words for an unknown operator. What has
      too many digits cannot be written, nor can some operators that are no texts: then the
      refusal itself fails (`validate_of_not_isSound`, `isWritten_refusal_iff`).

   Operators may be any values, and nothing is assumed of the way in which they are quoted. A
   program that passes is built as `[A | I | b]` below the negated costs. -/
namespace ProductionLP

open Scalar

/-! ## Doubles that are not negative -/

section Doubles

open Float.Model

/-- A finite double that is not below zero is at least zero. The zero of either sign is. -/
theorem Scalar.lt_zero_eq_false_iff {x : Float} (hx : finite x = true) :
    lt x 0 = false ↔ 0 ≤ x := by
  have hzero : (0 : Float).toModel.unpack = UnpackedFloat.zero .positive := by rfl
  have hlt : x < 0 ↔ x.toModel.unpack.lt (.zero .positive) = true := by
    rw [← hzero]
    exact decide_eq_true_iff
  have hle : 0 ≤ x ↔ (UnpackedFloat.zero .positive).le x.toModel.unpack = true := by
    rw [← hzero]
    exact decide_eq_true_iff
  have hnot : lt x 0 = false ↔ ¬ x < 0 := decide_eq_false_iff_not
  have hfinite : x.toModel.unpack.isFinite = true := hx
  rw [hnot, hlt, hle]
  -- zeros of both signs compare as equal, and the sign decides for all other finite doubles
  cases hunpack : x.toModel.unpack with
  | infinity s =>
    rw [hunpack] at hfinite
    cases hfinite
  | notANumber =>
    rw [hunpack] at hfinite
    cases hfinite
  | zero s => cases s <;> decide
  | finite s m e hm =>
    cases s <;> simp [UnpackedFloat.lt, UnpackedFloat.le, UnpackedFloat.compare]

end Doubles

/-! ## Symbols -/

/-- Whether a value is this text. -/
def Value.isText (s : String) : Value → Bool
  | .text t => t == s
  | _ => false

theorem Value.isText_iff {v : Value} {s : String} : v.isText s = true ↔ v = .text s := by
  cases v <;> simp [isText]

/-! ## Refusals in words -/

section Words

variable {r : Except ProblemError Unit} {cause : ProblemError}

theorem liftProblem_eq_ok_iff : liftProblem r = .ok () ↔ r = .ok () := by
  cases r <;> simp [liftProblem, Except.mapError]

theorem ProblemError.toError_eq_problem_iff {cause' : ProblemError} :
    cause.toError = .problem cause' ↔ cause = cause' ∧ cause.isWritten = true := by
  rw [toError, isWritten]
  split <;> next h => simp [h]

theorem liftProblem_eq_problem_iff :
    liftProblem r = .error (.problem cause) ↔ r = .error cause ∧ cause.isWritten = true := by
  cases r with
  | ok => simp [liftProblem, Except.mapError]
  | error e =>
    rw [liftProblem, Except.mapError, Except.error.injEq, Except.error.injEq,
      ProblemError.toError_eq_problem_iff]
    exact and_congr_right fun h => by rw [h]

theorem ProblemError.isWritten_variableCount (n : Int) :
    (ProblemError.variableCount n).isWritten = ProductionLP.isWritten n := by
  rw [isWritten, obstacle?, namingObstacle]
  cases ProductionLP.isWritten n <;> rfl

theorem ProblemError.isWritten_constraintCount (m : Int) :
    (ProblemError.constraintCount m).isWritten = ProductionLP.isWritten m :=
  isWritten_variableCount m

/-- A cause that is written is reported as it is. -/
theorem ProblemError.toError_of_isWritten (h : cause.isWritten = true) :
    cause.toError = .problem cause :=
  toError_eq_problem_iff.2 ⟨rfl, h⟩

/-- A size that is not written is refused as a setting. -/
theorem ProblemError.toError_of_namingObstacle {i : Int} (hcause : cause.obstacle? = namingObstacle i)
    (h : cause.isWritten = false) : cause.toError = .setting .unwritten := by
  rw [isWritten, hcause, namingObstacle] at h
  rw [toError, hcause, namingObstacle]
  cases hi : ProductionLP.isWritten i with
  | true =>
    rw [hi] at h
    cases h
  | false => rfl

/-- Every failure is reported by its cause exactly when every cause is written. -/
theorem forall_liftProblem_iff :
    (∀ e, liftProblem r = .error e → ∃ cause, e = .problem cause) ↔
      ∀ cause, r = .error cause → cause.isWritten = true := by
  constructor
  · rintro h cause rfl
    obtain ⟨cause', heq⟩ := h cause.toError rfl
    have hlift : liftProblem (.error cause : Except ProblemError Unit) = .error (.problem cause') :=
      congrArg Except.error heq
    obtain ⟨hsame, hwritten⟩ := liftProblem_eq_problem_iff.1 hlift
    cases hsame
    exact hwritten
  · intro h e he
    cases r with
    | ok => cases he
    | error cause =>
      have hlift := liftProblem_eq_problem_iff.2 ⟨rfl, h cause rfl⟩
      exact ⟨cause, Except.error.inj (he.symm.trans hlift)⟩

/-- A check whose causes are always written and blame no known operator. -/
def RefusesPlainly (x : Except ProblemError Unit) : Prop :=
  ∀ cause, x = .error cause →
    cause.isWritten = true ∧ ∀ row symbol, cause ≠ .unsupported row symbol

theorem refusesPlainly_ok : RefusesPlainly (.ok ()) := by
  intro cause h
  cases h

theorem refusesPlainly_error (hwritten : cause.isWritten = true)
    (hother : ∀ row symbol, cause ≠ .unsupported row symbol) : RefusesPlainly (.error cause) := by
  rintro _ ⟨⟩
  exact ⟨hwritten, hother⟩

theorem RefusesPlainly.bind {x : Except ProblemError Unit} {f : Unit → Except ProblemError Unit}
    (hx : RefusesPlainly x) (hf : RefusesPlainly (f ())) : RefusesPlainly (x >>= f) := by
  cases x with
  | ok => exact hf
  | error e =>
    intro cause h
    exact hx cause h

end Words

namespace Program

section Parts

variable {α : Type}

theorem checkShape_refusesPlainly (part : Part) (b : Block α) (expected : List Int) :
    RefusesPlainly (checkShape part b expected) := by
  rw [checkShape]
  split
  · exact refusesPlainly_ok
  · exact refusesPlainly_error rfl (by simp)

variable [Scalar α]

/-- The checks of the arrays and of the number of operators. -/
def checkParts (p : Program α) : Except ProblemError Unit := do
  checkShape .objective p.objective [p.n]
  checkShape .coefficients p.coefficients [p.m, p.n]
  checkShape .bounds p.bounds [p.m]
  if (p.operators.length : Int) ≠ p.m then throw (.operatorCount p.operators.length p.m)
  checkFinite .objective p.objective
  checkFinite .coefficients p.coefficients
  checkFinite .bounds p.bounds
  checkBounds p.bounds.entries

/-- The sizes are looked at before the parts, and the operators after them. -/
theorem validate_eq (p : Program α) (quote : Value → Except Fault String) : p.validate quote =
    if !sizeAllowed p.n then .error (.variableCount p.n)
    else if !sizeAllowed p.m then .error (.constraintCount p.m)
    else p.checkParts >>= fun _ => checkOperators quote 1 p.operators := by
  unfold validate checkParts
  cases sizeAllowed p.n with
  | false => rfl
  | true =>
    cases sizeAllowed p.m with
    | false => rfl
    | true =>
      by_cases hcount : (p.operators.length : Int) = p.m <;> simp [hcount, bind_assoc]

theorem checkFinite_refusesPlainly (part : Part) (b : Block α) :
    RefusesPlainly (checkFinite part b) := by
  rw [checkFinite]
  split
  · exact refusesPlainly_ok
  · exact refusesPlainly_error rfl (by simp)

theorem checkBounds_refusesPlainly (bounds : List α) : RefusesPlainly (checkBounds bounds) := by
  rw [checkBounds]
  split
  · exact refusesPlainly_ok
  · exact refusesPlainly_error rfl (by simp)

theorem checkParts_refusesPlainly (p : Program α) : RefusesPlainly p.checkParts := by
  rw [checkParts]
  refine (checkShape_refusesPlainly _ _ _).bind ((checkShape_refusesPlainly _ _ _).bind
    ((checkShape_refusesPlainly _ _ _).bind ?_))
  split
  · exact refusesPlainly_error rfl (by simp)
  · exact (checkFinite_refusesPlainly _ _).bind ((checkFinite_refusesPlainly _ _).bind
      ((checkFinite_refusesPlainly _ _).bind (checkBounds_refusesPlainly _)))

end Parts

/-! ## Operators -/

/-- The first operator that is not "at most". -/
def firstOther? (symbols : List Value) : Option Value := symbols.find? (!·.isText "≤")

/-- The number of constraints before the first operator that is not "at most". -/
def placeOfOther (symbols : List Value) : Nat := symbols.findIdx (!·.isText "≤")

/-- How an operator that is not "at most" is refused: one that is known as unsupported, in the row
    of its place, any other as unknown. -/
def refusal (quote : Value → Except Fault String) (row : Nat) (symbol : Value) : ProblemError :=
  if symbol.isText "≥" then .unsupported row "≥"
  else if symbol.isText "=" then .unsupported row "="
  else
    match quote symbol with
    | .ok quoted => .unknownOperator quoted
    | .error obstacle => .unshownOperator obstacle

variable {quote : Value → Except Fault String} {i row : Nat} {symbol : Value}
  {symbols : List Value}

theorem checkOperators_cons (symbol : Value) (rest : List Relation) :
    checkOperators quote i (.ofSymbol symbol :: rest) =
      if symbol.isText "≤" then checkOperators quote (i + 1) rest
      else .error (refusal quote i symbol) := by
  cases symbol with
  | text s =>
    by_cases hmost : s = "≤"
    · simp [Relation.ofSymbol, Value.isText, checkOperators, hmost]
    · by_cases hleast : s = "≥"
      · simp [Relation.ofSymbol, Value.isText, checkOperators, refusal, hleast]
      · by_cases hequal : s = "="
        · simp [Relation.ofSymbol, Value.isText, checkOperators, refusal, hequal]
        · cases hquote : quote (.text s) <;>
            simp [Relation.ofSymbol, Value.isText, checkOperators, refusal, hmost, hleast, hequal,
              hquote]
  | _ =>
    simp only [Relation.ofSymbol, Value.isText, checkOperators, refusal, Bool.false_eq_true,
      if_false]
    split <;> simp only [*]

/-- The first operator that is not "at most" is refused. -/
theorem checkOperators_map (quote : Value → Except Fault String) (i : Nat) (symbols : List Value) :
    checkOperators quote i (symbols.map .ofSymbol) =
      match firstOther? symbols with
      | none => .ok ()
      | some symbol => .error (refusal quote (i + placeOfOther symbols) symbol) := by
  induction symbols generalizing i with
  | nil => rfl
  | cons s rest ih =>
    rw [List.map_cons, checkOperators_cons]
    cases hmost : s.isText "≤" with
    | true =>
      -- the operator is passed over, and the place of the first other one moves on
      have hplace : i + placeOfOther (s :: rest) = i + 1 + placeOfOther rest := by
        simp only [placeOfOther, List.findIdx_cons, hmost, Bool.not_true, cond_false]
        omega
      have hfirst : firstOther? (s :: rest) = firstOther? rest :=
        List.find?_cons_of_neg (by simp [hmost])
      rw [hplace, hfirst, if_pos rfl, ih]
    | false =>
      have hfirst : firstOther? (s :: rest) = some s := List.find?_cons_of_pos (by simp [hmost])
      have hplace : placeOfOther (s :: rest) = 0 := by simp [placeOfOther, List.findIdx_cons, hmost]
      rw [hfirst, hplace]
      rfl

theorem checkOperators_map_eq_ok_iff :
    checkOperators quote i (symbols.map .ofSymbol) = .ok () ↔ ∀ s ∈ symbols, s = .text "≤" := by
  have hnone : firstOther? symbols = none ↔ ∀ s ∈ symbols, s = .text "≤" := by
    simp [firstOther?, Value.isText_iff]
  rw [checkOperators_map, ← hnone]
  split <;> next h => simp [h]

theorem refusal_eq_unsupported_iff {row' : Nat} {name : String} :
    refusal quote row symbol = .unsupported row' name ↔
      symbol = .text name ∧ (name = "≥" ∨ name = "=") ∧ row' = row := by
  rw [refusal]
  split
  · next hleast =>
    rw [Value.isText_iff.1 hleast, ProblemError.unsupported.injEq, Value.text.injEq]
    grind
  next hleast =>
  split
  · next hequal =>
    rw [Value.isText_iff.1 hequal, ProblemError.unsupported.injEq, Value.text.injEq]
    grind
  next hequal =>
  rw [Value.isText_iff] at hleast hequal
  refine iff_of_false (by split <;> simp) ?_
  rintro ⟨rfl, rfl | rfl, _⟩
  · exact hleast rfl
  · exact hequal rfl

/-- An unknown operator is refused in words if it can be quoted. -/
theorem isWritten_refusal_iff : (refusal quote row symbol).isWritten = true ↔
    symbol = .text "≥" ∨ symbol = .text "=" ∨ ∃ q, quote symbol = .ok q := by
  rw [refusal]
  split
  · next hleast => exact iff_of_true rfl (.inl (Value.isText_iff.1 hleast))
  next hleast =>
  split
  · next hequal => exact iff_of_true rfl (.inr (.inl (Value.isText_iff.1 hequal)))
  next hequal =>
  rw [Value.isText_iff] at hleast hequal
  rw [or_iff_right hleast, or_iff_right hequal]
  cases hquote : quote symbol with
  | ok q => exact iff_of_true rfl ⟨q, rfl⟩
  | error obstacle => exact iff_of_false Bool.false_ne_true (by simp)

theorem checkOperators_map_eq_unsupported_iff {name : String} :
    checkOperators quote i (symbols.map .ofSymbol) = .error (.unsupported row name) ↔
      firstOther? symbols = some (.text name) ∧ (name = "≥" ∨ name = "=") ∧
        row = i + placeOfOther symbols := by
  rw [checkOperators_map]
  split
  · next h => simp [h]
  · next h =>
    rw [h, Except.error.injEq, refusal_eq_unsupported_iff, Option.some.injEq]

/-- The refusal of an operator is written unless it is an unknown one that cannot be quoted. -/
theorem isWritten_checkOperators_iff :
    (∀ cause, checkOperators quote i (symbols.map .ofSymbol) = .error cause →
        cause.isWritten = true) ↔
      ∀ s, firstOther? symbols = some s →
        s = .text "≥" ∨ s = .text "=" ∨ ∃ q, quote s = .ok q := by
  rw [checkOperators_map]
  split
  · next h => simp [h]
  · next symbol h =>
    rw [h]
    simp only [Except.error.injEq, forall_eq', Option.some.injEq, isWritten_refusal_iff]

/-- Known operators are always named. -/
theorem isWritten_of_checkOperators {operators : List Relation} {cause : ProblemError}
    (hknown : ∀ r ∈ operators, ∀ v, r ≠ .other v)
    (h : checkOperators quote i operators = .error cause) : cause.isWritten = true := by
  induction operators generalizing i with
  | nil => cases h
  | cons r rest ih =>
    obtain ⟨hr, hrest⟩ := List.forall_mem_cons.1 hknown
    cases r with
    | atMost => exact ih hrest h
    | atLeast =>
      cases h
      rfl
    | equal =>
      cases h
      rfl
    | other v => exact absurd rfl (hr v)

/-- When all operators are known, only a size keeps a refusal from being put into words. -/
theorem toError_of_not_isWritten {p : Program Float} {cause : ProblemError}
    (hknown : ∀ r ∈ p.operators, ∀ v, r ≠ .other v) (h : p.validate quote = .error cause)
    (hunwritten : cause.isWritten = false) : cause.toError = .setting .unwritten := by
  rw [validate_eq] at h
  split at h
  · cases h
    exact ProblemError.toError_of_namingObstacle rfl hunwritten
  split at h
  · cases h
    exact ProblemError.toError_of_namingObstacle rfl hunwritten
  have hwritten : cause.isWritten = true := by
    cases hparts : p.checkParts with
    | error cause' =>
      rw [hparts] at h
      cases h
      exact (p.checkParts_refusesPlainly cause hparts).1
    | ok =>
      rw [hparts] at h
      exact isWritten_of_checkOperators hknown h
  rw [hwritten] at hunwritten
  cases hunwritten

/-! ## Sound programs -/

/-- The rules for a program but for its operators. -/
structure IsSound (p : Program Float) : Prop where
  n_pos : 1 ≤ p.n
  n_le : p.n ≤ 10
  m_pos : 1 ≤ p.m
  m_le : p.m ≤ 10
  objective_shape : p.objective.shape = [p.n.toNat]
  coefficients_shape : p.coefficients.shape = [p.m.toNat, p.n.toNat]
  bounds_shape : p.bounds.shape = [p.m.toNat]
  operator_count : (p.operators.length : Int) = p.m
  objective_finite : ∀ x ∈ p.objective.entries, x.isFinite = true
  coefficients_finite : ∀ x ∈ p.coefficients.entries, x.isFinite = true
  bounds_finite : ∀ x ∈ p.bounds.entries, x.isFinite = true
  bounds_nonneg : ∀ b ∈ p.bounds.entries, 0 ≤ b

variable {p : Program Float}

theorem checkParts_eq_ok_iff (hn : sizeAllowed p.n = true) (hm : sizeAllowed p.m = true) :
    p.checkParts = .ok () ↔ p.IsSound := by
  obtain ⟨hn1, hn10⟩ := sizeAllowed_iff.1 hn
  obtain ⟨hm1, hm10⟩ := sizeAllowed_iff.1 hm
  unfold checkParts
  simp only [guard_eq_ok_iff, check_bind_eq_ok_iff, checkShape_eq_ok_iff, checkFinite_eq_ok_iff,
    checkBounds_eq_ok_iff, not_not, ne_eq]
  constructor
  · rintro ⟨ho, hc, hb, hcount, hfo, hfc, hfb, hneg⟩
    refine ⟨hn1, hn10, hm1, hm10, shape_of_map_ofNat ho, shape_of_map_ofNat hc,
      shape_of_map_ofNat hb, hcount, hfo, hfc, hfb, fun b hb => ?_⟩
    exact (lt_zero_eq_false_iff (hfb b hb)).1 (hneg b hb)
  · intro h
    have hn := Int.toNat_of_nonneg (Int.le_trans Int.one_nonneg hn1)
    have hm := Int.toNat_of_nonneg (Int.le_trans Int.one_nonneg hm1)
    refine ⟨?_, ?_, ?_, h.operator_count, h.objective_finite, h.coefficients_finite,
      h.bounds_finite, fun b hb => ?_⟩
    · simp [h.objective_shape, hn]
    · simp [h.coefficients_shape, hn, hm]
    · simp [h.bounds_shape, hm]
    · exact (lt_zero_eq_false_iff (h.bounds_finite b hb)).2 (h.bounds_nonneg b hb)

/-- A sound program is judged by its operators. -/
theorem validate_of_isSound (h : p.IsSound) :
    p.validate quote = checkOperators quote 1 p.operators := by
  have hn := sizeAllowed_iff.2 ⟨h.n_pos, h.n_le⟩
  have hm := sizeAllowed_iff.2 ⟨h.m_pos, h.m_le⟩
  rw [validate_eq, hn, hm, (checkParts_eq_ok_iff hn hm).2 h]
  rfl

/-- The size that is refused can be written, if one is. -/
def SizesWritten (p : Program Float) : Prop :=
  isWritten p.n = true ∧ (sizeAllowed p.n = true → isWritten p.m = true)

theorem isWritten_of_sizeAllowed {k : Int} (h : sizeAllowed k = true) : isWritten k = true := by
  obtain ⟨hpos, hle⟩ := sizeAllowed_iff.1 h
  have habs : k.natAbs ≤ 10 := by omega
  exact decide_eq_true (Nat.lt_of_le_of_lt habs (by decide +kernel))

theorem IsSound.sizesWritten (h : p.IsSound) : p.SizesWritten :=
  ⟨isWritten_of_sizeAllowed (sizeAllowed_iff.2 ⟨h.n_pos, h.n_le⟩),
    fun _ => isWritten_of_sizeAllowed (sizeAllowed_iff.2 ⟨h.m_pos, h.m_le⟩)⟩

/-- A program that is not sound is refused whatever its operators are, and the cause is written
    unless it names a size that is not. -/
theorem validate_of_not_isSound (h : ¬ p.IsSound) :
    ∃ cause, p.validate quote = .error cause ∧ (∀ row symbol, cause ≠ .unsupported row symbol) ∧
      (cause.isWritten = true ↔ p.SizesWritten) := by
  rw [validate_eq, SizesWritten]
  -- a size that is allowed is written, so only the one that is refused matters
  cases hn : sizeAllowed p.n with
  | false => exact ⟨.variableCount p.n, rfl, by simp, by simp [ProblemError.isWritten_variableCount]⟩
  | true =>
    have hwritten := isWritten_of_sizeAllowed hn
    cases hm : sizeAllowed p.m with
    | false =>
      exact ⟨.constraintCount p.m, rfl, by simp, by
        simp [ProblemError.isWritten_constraintCount, hwritten]⟩
    | true =>
      cases hparts : p.checkParts with
      | ok => exact absurd ((checkParts_eq_ok_iff hn hm).1 hparts) h
      | error cause =>
        obtain ⟨hplain, hother⟩ := checkParts_refusesPlainly p cause hparts
        exact ⟨cause, rfl, hother, by simp [hplain, hwritten, isWritten_of_sizeAllowed hm]⟩

/-- The sizes of a program can be read off its first tableau. -/
theorem IsFirst.counts {t : Tableau Float} (h : p.IsFirst t) (hp : p.IsValid) :
    t.variableCount = p.n ∧ t.constraintCount = p.m := by
  have hn := hp.n_pos
  have hm := hp.m_pos
  have hcount : t.constraintCount = p.m := by
    rw [Tableau.constraintCount, h.height]
    omega
  refine ⟨?_, hcount⟩
  rw [Tableau.variableCount, hcount, h.width]
  omega

/-! ## Programs built directly -/

/-- A program from its parts, with the symbols of its operators. -/
def direct (n m : Int) (objective coefficients bounds : Block Float) (symbols : List Value) :
    Program Float :=
  ⟨n, m, objective, coefficients, bounds, symbols.map .ofSymbol⟩

/-- **What validation accepts and what it refuses.** A program with any sizes, arrays and
    operators is accepted exactly when it is sound and all of its operators are "at most". It is
    refused for an unsupported constraint exactly when it is sound and the first operator that is
    not "at most" is "at least" or "equal". Every failure is a problem error exactly when a size
    that is refused can be written and an operator that is refused, if the program is sound, is
    one of these two or can be quoted. What is accepted is built as `[A | I | b]` below the
    negated costs, and the sizes can be read off. -/
theorem validate_direct (n m : Int) (objective coefficients bounds : Block Float)
    (symbols : List Value) (quote : Value → Except Fault String) :
    let p := direct n m objective coefficients bounds symbols
    (liftProblem (p.validate quote) = .ok () ↔ p.IsSound ∧ ∀ s ∈ symbols, s = .text "≤") ∧
      (∀ row name, liftProblem (p.validate quote) = .error (.problem (.unsupported row name)) ↔
        p.IsSound ∧ firstOther? symbols = some (.text name) ∧ (name = "≥" ∨ name = "=") ∧
          row = placeOfOther symbols + 1) ∧
      ((∀ e, liftProblem (p.validate quote) = .error e → ∃ cause, e = .problem cause) ↔
        p.SizesWritten ∧ (p.IsSound → ∀ s, firstOther? symbols = some s →
          s = .text "≥" ∨ s = .text "=" ∨ ∃ q, quote s = .ok q)) ∧
      (liftProblem (p.validate quote) = .ok () → ∃ t, Tableau.ofProgram p = .ok t ∧
        p.IsFirst t ∧ t.variableCount = n ∧ t.constraintCount = m) := by
  intro p
  rw [liftProblem_eq_ok_iff, forall_liftProblem_iff]
  refine ⟨?_, ?_, ?_, ?_⟩
  · by_cases hsound : p.IsSound
    · rw [validate_of_isSound hsound, and_iff_right hsound]
      exact checkOperators_map_eq_ok_iff
    · obtain ⟨cause, hrefused, _⟩ := validate_of_not_isSound hsound
      rw [hrefused]
      exact iff_of_false (by simp) fun h => hsound h.1
  · intro row name
    rw [liftProblem_eq_problem_iff, and_iff_left (show ProblemError.isWritten _ = true from rfl)]
    by_cases hsound : p.IsSound
    · rw [validate_of_isSound hsound, and_iff_right hsound, Nat.add_comm]
      exact checkOperators_map_eq_unsupported_iff
    · obtain ⟨cause, hrefused, hother, _⟩ := validate_of_not_isSound hsound
      rw [hrefused]
      exact iff_of_false (fun h => hother row name (Except.error.inj h)) fun h => hsound h.1
  · by_cases hsound : p.IsSound
    · rw [validate_of_isSound hsound, and_iff_right hsound.sizesWritten,
        forall_prop_of_true hsound]
      exact isWritten_checkOperators_iff
    · obtain ⟨cause, hrefused, _, hwritten⟩ := validate_of_not_isSound hsound
      rw [hrefused, and_iff_left fun h => absurd h hsound, ← hwritten]
      exact ⟨fun h => h cause rfl, fun h _ heq => Except.error.inj heq ▸ h⟩
  · intro haccepted
    have hp := (validate_eq_ok_iff p).1 haccepted
    obtain ⟨t, ht, hfirst⟩ := ofProgram_of_isValid hp
    exact ⟨t, ht, hfirst, hfirst.counts hp⟩

/-- A refused number of constraints is named, and so is an operator that is none; an integer of
    more than 4300 digits cannot be, and then no problem error says what is wrong. -/
theorem validate_direct_unwritten :
    (∃ e, liftProblem (direct 1 (Nat.pow 16 3600) (.vector [1]) (.matrix [[1]] 1 (by decide))
        (.vector [1]) [.text "≤"]).validate = .error e ∧ ¬ ∃ cause, e = .problem cause) ∧
    ∃ e, liftProblem (direct 1 1 (.vector [1]) (.matrix [[1]] 1 (by decide)) (.vector [1])
        [.int (Nat.pow 16 3600)]).validate = .error e ∧ ¬ ∃ cause, e = .problem cause := by
  refine ⟨⟨.setting .unwritten, by decide +kernel, ?_⟩, .setting .unwritten, by decide +kernel, ?_⟩
  all_goals
    rintro ⟨cause, h⟩
    cases h

end Program

end ProductionLP
