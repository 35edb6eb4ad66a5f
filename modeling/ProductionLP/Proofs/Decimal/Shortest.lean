import ProductionLP.Decimal.Written
import ProductionLP.Proofs.Text.Digit
import ProductionLP.Proofs.Text.Json

/- Doubles as JSON numbers.

   The fewest digits that read back are found on one grid after the other. Whichever grid has
   the first hit, and even if none has one, what comes out has a first digit, and it is not zero
   when digits stand before the point (`Binary.isProper_shortest`): the unit of the first digit
   fits into a double of at least one, so on every grid the number just below it is not zero. So
   a finite double is written as a number of JSON (`isNumber_shortest`). -/
namespace ProductionLP.Decimal

open Text Json

/-- A double that is a number. -/
def IsFinite (x : Float) : Prop := ∃ b, view x = .finite b

instance : DecidablePred IsFinite := fun x =>
  match h : view x with
  | .finite b => isTrue ⟨b, h⟩
  | .infinite _ => isFalse fun ⟨_, hb⟩ => by cases h.symm.trans hb
  | .nan => isFalse fun ⟨_, hb⟩ => by cases h.symm.trans hb

/-- Digits that can be written: there are some, and no zero leads those before the point. -/
structure Digits.IsProper (d : Digits) : Prop where
  ne_nil : d.digits ≠ []
  lt_ten : ∀ a ∈ d.digits, a < 10
  head_ne : 0 < d.point → d.digits.head? ≠ some 0

variable {num den count fuel n : Nat} {point : Int} {i : Interval} {b : Binary} {d : Digits}
  {ds : List Nat}

/-! ## The point -/

/-- Digits stand before the point when the number is at least one, and it is at least the unit of
    the first of them. -/
theorem pointOf_of_le (hden : 0 < den) (h : den ≤ num) :
    ∃ k : Nat, pointOf num den = k + 1 ∧ den * 10 ^ k ≤ num := by
  have hne : num / den ≠ 0 := (Nat.div_pos h hden).ne'
  have hlength := List.length_pos_iff.2 (digits_ne_nil (num / den))
  refine ⟨(digits (num / den)).length - 1, ?_, ?_⟩
  · rw [pointOf, if_pos h]
    omega
  · calc den * 10 ^ ((digits (num / den)).length - 1)
        ≤ den * (num / den) := Nat.mul_le_mul_left den (pow_length_digits_le hne)
      _ ≤ num := Nat.mul_div_le num den

theorem pointOf_nonpos (h : num < den) : pointOf num den ≤ 0 := by
  have hlength := List.length_pos_iff.2 (digits_ne_nil (den / num))
  rw [pointOf, if_neg (Nat.not_le.2 h)]
  dsimp only
  split
  · next heq =>
    -- a power of ten below one has a second digit
    have hone : (digits (den / num)).length ≠ 1 := by
      intro hone
      rw [hone] at heq
      exact h.ne ((Nat.mul_one num).symm.trans heq)
    omega
  · omega

/-! ## The grids -/

/-- The unit `10 ^ e` of a grid as a fraction. -/
def gridUnit (e : Int) : Nat × Nat :=
  if 0 ≤ e then (Nat.pow 10 e.toNat, 1) else (1, Nat.pow 10 (-e).toNat)

/-- The grid number just below the double. -/
def Interval.below (i : Interval) (point : Int) (count : Nat) : Nat :=
  i.mid * (gridUnit (point - count)).2 / (i.den * (gridUnit (point - count)).1)

/-- A hit is one of the two neighbours on the grid. -/
theorem Interval.onGrid_cases (h : i.onGrid point count = some n) :
    n = i.below point count ∨ n = i.below point count + 1 := by
  have hunit : ∀ e : Int,
      (if 0 ≤ e then (Nat.pow 10 e.toNat, 1) else (1, Nat.pow 10 (-e).toNat)) = gridUnit e :=
    fun _ => rfl
  simp only [Interval.onGrid, hunit] at h
  split at h
  · -- both stand for the double: the nearer one wins, of equally near ones the even one
    split at h
    · exact .inl (Option.some.inj h).symm
    split at h
    · exact .inr (Option.some.inj h).symm
    split at h
    · exact .inl (Option.some.inj h).symm
    · exact .inr (Option.some.inj h).symm
  split at h
  · exact .inl (Option.some.inj h).symm
  split at h
  · exact .inr (Option.some.inj h).symm
  · cases h

/-- The unit of the first digit fits into the double, and the unit of every grid into that. -/
theorem Interval.below_pos {k : Nat} (hden : 0 < i.den) (hle : i.den * 10 ^ k ≤ i.mid)
    (hcount : 1 ≤ count) : 0 < i.below (k + 1) count := by
  unfold Interval.below gridUnit
  split
  · have hpow : 0 < 10 ^ ((k + 1 : Int) - count).toNat := Nat.pow_pos (by decide)
    refine Nat.div_pos ?_ (Nat.mul_pos hden hpow)
    calc i.den * 10 ^ ((k + 1 : Int) - count).toNat
        ≤ i.den * 10 ^ k := Nat.mul_le_mul_left _ (Nat.pow_le_pow_right (by decide) (by omega))
      _ ≤ i.mid * 1 := by rwa [Nat.mul_one]
  · refine Nat.div_pos ?_ (by rwa [Nat.mul_one])
    calc i.den * 1 ≤ i.den * 10 ^ k := Nat.mul_le_mul_left _ (Nat.pow_pos (by decide))
      _ ≤ i.mid := hle
      _ ≤ i.mid * 10 ^ (-((k + 1 : Int) - count)).toNat :=
        Nat.le_mul_of_pos_right _ (Nat.pow_pos (by decide))

theorem Interval.onGrid_pos {k : Nat} (hden : 0 < i.den) (hle : i.den * 10 ^ k ≤ i.mid)
    (hcount : 1 ≤ count) (h : i.onGrid (k + 1) count = some n) : 0 < n := by
  have hbelow := Interval.below_pos hden hle hcount
  rcases Interval.onGrid_cases h with rfl | rfl
  · exact hbelow
  · exact Nat.succ_pos _

theorem Interval.search_pos {k : Nat} (hden : 0 < i.den) (hle : i.den * 10 ^ k ≤ i.mid)
    (hcount : 1 ≤ count) : 0 < (i.search (k + 1) fuel count).1 := by
  induction fuel generalizing count with
  | zero =>
    -- without a hit the whole part of the double is taken
    refine Nat.div_pos ?_ hden
    exact (Nat.le_mul_of_pos_right _ (Nat.pow_pos (by decide))).trans hle
  | succ fuel ih =>
    rw [Interval.search]
    split
    · next hgrid => exact Interval.onGrid_pos hden hle hcount hgrid
    · exact ih (Nat.le_add_left 1 count)

/-- The interval of a double has four times the double in its middle. -/
theorem Binary.interval_eq (b : Binary) :
    b.interval.mid = 4 * b.fraction.1 ∧ b.interval.den = 4 * b.fraction.2 := by
  unfold Binary.interval Binary.fraction
  by_cases he : 0 ≤ b.exponent
  · simp only [if_pos he, Nat.mul_assoc, and_self]
  · simp only [if_neg he, Nat.mul_one, and_self]

theorem Binary.fraction_pos (b : Binary) : 0 < b.fraction.2 := by
  unfold Binary.fraction
  split
  · exact Nat.one_pos
  · exact Nat.two_pow_pos _

/-- The digits of a double can be written. -/
theorem Binary.isProper_shortest (b : Binary) : b.shortest.IsProper := by
  unfold Binary.shortest
  dsimp only
  split
  · exact ⟨List.cons_ne_nil 1 [], List.forall_mem_singleton.2 (by decide), fun _ h => by cases h⟩
  refine ⟨digits_ne_nil _, fun _ => lt_of_mem_digits, fun hpoint => ?_⟩
  -- below one no digit stands before the point
  have hge : b.fraction.2 ≤ b.fraction.1 := by
    by_contra hlt
    exact absurd hpoint (Int.not_lt.2 (pointOf_nonpos (Nat.not_le.1 hlt)))
  obtain ⟨k, hk, hle⟩ := pointOf_of_le b.fraction_pos hge
  obtain ⟨hmid, hden⟩ := b.interval_eq
  have hpos : 0 < (b.interval.search (pointOf b.fraction.1 b.fraction.2) 17 1).1 := by
    rw [hk]
    refine Interval.search_pos ?_ ?_ (Nat.le_refl 1)
    · rw [hden]
      exact Nat.mul_pos (by decide) b.fraction_pos
    · rw [hden, hmid, Nat.mul_assoc]
      exact Nat.mul_le_mul_left 4 hle
  obtain ⟨a, rest, hdigits, ha⟩ := exists_digits_eq_cons hpos.ne'
  rw [hdigits]
  exact fun h => ha (Option.some.inj h)

/-! ## Numbers of JSON -/

theorem isDigit_digitChar : ∀ a < 10, (digitChar a).isDigit := by decide

theorem digitChar_ne_zero : ∀ a < 10, a ≠ 0 → digitChar a ≠ '0' := by decide

theorem isDigit_of_mem_map (h : ∀ a ∈ ds, a < 10) : ∀ c ∈ ds.map digitChar, c.isDigit := by
  intro c hc
  obtain ⟨a, ha, rfl⟩ := List.mem_map.1 hc
  exact isDigit_digitChar a (h a ha)

theorem isDigit_of_mem_decimal : ∀ c ∈ decimal n, c.isDigit :=
  isDigit_of_mem_map fun _ => lt_of_mem_digits

theorem isDigits_decimal (n : Nat) : IsDigits (decimal n) :=
  ⟨fun hnil => digits_ne_nil n (List.map_eq_nil_iff.1 hnil), isDigit_of_mem_decimal⟩

/-- A whole number is written without zeros in front. -/
theorem isWhole_decimal (n : Nat) : IsWhole (decimal n) := by
  by_cases hn : n = 0
  · rw [hn]
    exact .zero
  · obtain ⟨a, rest, hdigits, ha⟩ := exists_digits_eq_cons hn
    have hlt : ∀ c ∈ a :: rest, c < 10 := hdigits ▸ fun _ => lt_of_mem_digits
    obtain ⟨hlta, hrest⟩ := List.forall_mem_cons.1 hlt
    rw [decimal, hdigits]
    exact .positive (isDigit_digitChar a hlta) (digitChar_ne_zero a hlta ha)
      (isDigit_of_mem_map hrest)

theorem isNumber_integer (z : Int) : IsNumber (integer z) := by
  cases z with
  | ofNat n => exact .positive (isWhole_decimal n).isMagnitude
  | negSucc n => exact .negative (isWhole_decimal (n + 1)).isMagnitude

theorem isNumber_signed {negative : Bool} {s : List Char} (h : IsMagnitude s) :
    IsNumber (signed negative s) := by
  cases negative with
  | false => exact .positive h
  | true => exact .negative h

theorem isExponent_exponentPart (e : Int) : IsExponent (exponentPart e) := by
  obtain ⟨hne, hdigit⟩ := isDigits_decimal e.natAbs
  refine .signed (.inl rfl) (by split <;> simp) ?_
  split
  · exact ⟨List.cons_ne_nil _ _, List.forall_mem_cons.2 ⟨by decide, hdigit⟩⟩
  · exact ⟨hne, hdigit⟩

/-- One digit before the point: even a zero may stand there. -/
theorem isMagnitude_mantissaExponent (hne : ds ≠ []) (hlt : ∀ a ∈ ds, a < 10) (e : Int) :
    IsMagnitude (mantissaExponent ds e) := by
  obtain ⟨a, rest, rfl⟩ := List.exists_cons_of_ne_nil hne
  obtain ⟨ha, hrest⟩ := List.forall_mem_cons.1 hlt
  have hwhole : IsWhole [digitChar a] := by
    by_cases hzero : a = 0
    · rw [hzero]
      exact .zero
    · exact .positive (isDigit_digitChar a ha) (digitChar_ne_zero a ha hzero)
        (List.forall_mem_nil _)
  unfold mantissaExponent
  dsimp only [List.take_succ_cons, List.take_zero, List.drop_succ_cons, List.drop_zero,
    List.map_cons, List.map_nil]
  cases rest with
  | nil => simpa using IsMagnitude.intro hwhole .none (isExponent_exponentPart e)
  | cons b rest =>
    refine .intro hwhole (.some ⟨?_, isDigit_of_mem_map hrest⟩) (isExponent_exponentPart e)
    exact List.cons_ne_nil _ _

theorem Digits.IsProper.isMagnitude_positional (h : d.IsProper) : IsMagnitude (positional d) := by
  have hdigit : ∀ c ∈ d.digits.map digitChar, c.isDigit := isDigit_of_mem_map h.lt_ten
  have hne : d.digits.map digitChar ≠ [] := fun hnil => h.ne_nil (List.map_eq_nil_iff.1 hnil)
  have hzeros : ∀ k, ∀ c ∈ List.replicate k '0', c.isDigit := fun _ _ hc => by
    rw [List.eq_of_mem_replicate hc]
    rfl
  unfold positional
  dsimp only
  split
  · exact IsWhole.zero.isMagnitude_point ⟨List.append_ne_nil_of_right_ne_nil _ hne,
      List.forall_mem_append.2 ⟨hzeros _, hdigit⟩⟩
  · next hpoint =>
    have hpos : 0 < d.point := Int.not_le.1 hpoint
    obtain ⟨k, hk⟩ : ∃ k, d.point.toNat = k + 1 := ⟨d.point.toNat - 1, by omega⟩
    obtain ⟨a, rest, hdigits⟩ := List.exists_cons_of_ne_nil h.ne_nil
    have ha : a ≠ 0 := fun h0 => h.head_ne hpos (by rw [hdigits, h0]; rfl)
    have hlt : ∀ b ∈ a :: rest, b < 10 := hdigits ▸ h.lt_ten
    obtain ⟨hlta, hrest⟩ := List.forall_mem_cons.1 hlt
    rw [hdigits, hk, List.map_cons, List.take_succ_cons, List.drop_succ_cons, List.cons_append]
    have htake : ∀ c ∈ (rest.map digitChar).take k, c.isDigit := fun c hc =>
      isDigit_of_mem_map hrest c (List.mem_of_mem_take hc)
    have hdrop : ∀ c ∈ (rest.map digitChar).drop k, c.isDigit := fun c hc =>
      isDigit_of_mem_map hrest c (List.mem_of_mem_drop hc)
    refine (IsWhole.positive (isDigit_digitChar a hlta) (digitChar_ne_zero a hlta ha)
      (List.forall_mem_append.2 ⟨htake, hzeros _⟩)).isMagnitude_point ?_
    split
    · exact isDigits_zero
    · next hsome =>
      exact ⟨fun hnil => hsome (List.isEmpty_iff.2 hnil), hdrop⟩

/-- **A finite double is written as a number of JSON.** -/
theorem isNumber_shortest {x : Float} (h : IsFinite x) : IsNumber (shortest x) := by
  obtain ⟨b, hb⟩ := h
  simp only [shortest, hb]
  split
  · exact isNumber_signed (IsWhole.zero.isMagnitude_point isDigits_zero)
  · have hproper := b.isProper_shortest
    refine isNumber_signed ?_
    split
    · exact isMagnitude_mantissaExponent hproper.ne_nil hproper.lt_ten _
    · exact hproper.isMagnitude_positional

end ProductionLP.Decimal
