import Mathlib
import ProductionLP.Decimal.Round
import ProductionLP.Proofs.Text.Digit

/- Rounding for display never overflows.

   A number is shown with three decimal places: its exact value is rounded to a decimal, and the
   double nearest to that decimal is taken. That double is always finite. Doubles below 2 ^ 53
   have a decimal far below the greatest double; the others are whole, so their decimal is the
   number itself and the division by a thousand is exact. The bounds are on the exponents that
   arithmetic on doubles goes through: a result is finite when its exponent is at most 971. -/
namespace ProductionLP.Decimal

open Float.Model Float.Model.UnpackedFloat

/-! ## Exponents of finite doubles -/

/-- The greatest exponent of a finite double. -/
def greatestExponent : Int := 971

/-- A zero, or a number whose exponent is that of a finite double. -/
def Bounded : UnpackedFloat → Prop
  | .zero _ => True
  | .finite _ _ e _ => e ≤ greatestExponent
  | _ => False

/-- A zero, or a number of 53 bits whose exponent is that of a finite double. -/
def Fits : UnpackedFloat → Prop
  | .zero _ => True
  | .finite _ m e _ => m < 2 ^ 53 ∧ e ≤ greatestExponent
  | _ => False

/-- Unless its exponent bits are all ones, a double is zero or a number of 53 bits. -/
theorem fits_unpack {b : BitVec Format.binary64.numBits}
    (h : unpackExponent b ≠ -BitVec.ofNat Format.binary64.exponentBits 1) :
    Fits (unpack Format.binary64 b) := by
  have hexponent : (unpackExponent b).toNat ≤ 2046 := by
    have hlt := (unpackExponent b).isLt
    have hne : (unpackExponent b).toNat ≠ 2047 := fun heq => h (BitVec.eq_of_toNat_eq heq)
    change _ < 2 ^ 11 at hlt
    omega
  have hmantissa : (unpackMantissa b).toNat < 2 ^ 52 := (unpackMantissa b).isLt
  have hbias : (Format.binary64.exponentBias : Int) + Format.binary64.mantissaBitsWithoutImplicit =
      1075 := rfl
  rw [UnpackedFloat.unpack, if_neg h]
  split
  · next hzero =>
    split
    · exact trivial
    · refine ⟨hmantissa.trans (by decide), ?_⟩
      rw [hbias, hzero]
      decide
  · refine ⟨(BitVec.ofNat 1 1 ++ unpackMantissa b).isLt, ?_⟩
    rw [hbias, greatestExponent]
    omega

theorem Fits.isFinite {u : UnpackedFloat} (h : Fits u) : u.isFinite = true := by
  cases u with
  | infinity s => exact h.elim
  | notANumber => exact h.elim
  | zero s => rfl
  | finite s m e hm => rfl

/-- The exponent bits of a packed number that is bounded are not all ones. -/
theorem unpackExponent_pack {u : UnpackedFloat} (h : Bounded u) :
    unpackExponent (UnpackedFloat.pack Format.binary64 u) ≠ -BitVec.ofNat Format.binary64.exponentBits 1 := by
  cases u with
  | infinity s => exact h.elim
  | notANumber => exact h.elim
  | zero s =>
    rw [UnpackedFloat.pack, packedZero, unpackExponent_packComponents]
    decide
  | finite s m e hm =>
    have he : e ≤ 971 := h
    have hbias : e + (Format.binary64.exponentBias : Int) +
        Format.binary64.mantissaBitsWithoutImplicit = e + 1075 := by
      show e + 1023 + 52 = _
      ring
    rw [UnpackedFloat.pack]
    simp only [hbias]
    have hsmall : ¬ 2 ^ Format.binary64.exponentBits ≤ (e + 1075).toNat + 1 := by
      show ¬ 2 ^ 11 ≤ _
      omega
    rw [if_neg hsmall]
    split
    · rw [unpackExponent_packComponents]
      intro heq
      have hnat := congrArg BitVec.toNat heq
      rw [BitVec.toNat_ofNat] at hnat
      change (e + 1075).toNat % 2 ^ 11 = 2047 at hnat
      omega
    · rw [unpackExponent_packComponents]
      decide

/-- A packed number that is bounded is a finite double. -/
theorem fits_pack {u : UnpackedFloat} (h : Bounded u) : Fits (Float.Model.pack u).unpack :=
  fits_unpack (unpackExponent_pack h)

/-! ## Rounding to 53 bits -/

theorem mantissa_shiftRight (em : ExtendedMantissa) (k : Nat) :
    (em >>> k).mantissa = em.mantissa / 2 ^ k := by
  induction k with
  | zero => exact (Nat.div_one _).symm
  | succ k ih =>
    show (em >>> k).mantissa / 2 = _
    rw [ih, Nat.div_div_eq_div_mul, Nat.pow_succ]

/-- Shifting a multiple of a power of two by no more than this power loses nothing. -/
theorem shiftRight_exact (m : Nat) {a k : Nat} (hk : k ≤ a) :
    (⟨m * 2 ^ a, false, false⟩ : ExtendedMantissa) >>> k = ⟨m * 2 ^ (a - k), false, false⟩ := by
  induction k with
  | zero => rfl
  | succ k ih =>
    have hpow : m * 2 ^ (a - k) = 2 * (m * 2 ^ (a - (k + 1))) := by
      rw [show a - k = a - (k + 1) + 1 by omega, Nat.pow_succ]
      ring
    show ExtendedMantissa.shiftRightOne
      ((⟨m * 2 ^ a, false, false⟩ : ExtendedMantissa) >>> k) = _
    rw [ih (by omega), ExtendedMantissa.shiftRightOne, hpow]
    simp

theorem roundedMantissa_le (em : ExtendedMantissa) : em.roundedMantissa ≤ em.mantissa + 1 := by
  obtain ⟨m, r, s⟩ := em
  have hodd : m % 2 ≤ 1 := by omega
  cases r <;> cases s <;> simp [ExtendedMantissa.roundedMantissa, ExtendedMantissa.accuracy,
    Accuracy.roundToNearestEven, hodd]

/-- The exponent that a mantissa and an exponent are brought to. -/
theorem shiftToTargetExponent_eq (m : Nat) (e : Int) (acc : Accuracy) :
    ∃ k : Nat, shiftToTargetExponent Format.binary64 m e acc =
        (ExtendedMantissa.ofMantissaAndAccuracy m acc >>> k, e + k) ∧
      (k : Int) = max (max (m.log2 + 1 + e - 53) (-1074) - e) 0 := by
  refine ⟨(Format.binary64.targetExponent (totalExponent m e) - e).toNat, rfl, ?_⟩
  rw [Int.toNat_eq_max]
  rfl

theorem mantissa_ofMantissaAndAccuracy (m : Nat) (acc : Accuracy) :
    (ExtendedMantissa.ofMantissaAndAccuracy m acc).mantissa = m := by
  unfold ExtendedMantissa.ofMantissaAndAccuracy
  split <;> rfl

/-- The second of the two shifts of a rounding decides its exponent. -/
theorem bounded_of_rounded {s : Sign} {m r : Nat} {e e' : Int} {acc : Accuracy}
    {em : ExtendedMantissa} (hshift : shiftToTargetExponent Format.binary64 m e acc = (em, e'))
    (hr : em.roundedMantissa = r) (he' : e' ≤ greatestExponent)
    (hr' : r ≠ 0 → r.log2 + 1 + e' - 53 ≤ greatestExponent) :
    Bounded (roundWithAccuracy Format.binary64 s m e acc) := by
  obtain ⟨k, hsecond, hk⟩ := shiftToTargetExponent_eq r e' .exact
  have hmantissa : (ExtendedMantissa.ofMantissaAndAccuracy r .exact >>> k).mantissa = r / 2 ^ k := by
    rw [mantissa_shiftRight, mantissa_ofMantissaAndAccuracy]
  rw [roundWithAccuracy, hshift]
  simp only [hr, hsecond, hmantissa]
  split
  · exact trivial
  · next hne =>
    show e' + k ≤ greatestExponent
    have hr0 : r ≠ 0 := fun h => hne (by rw [h, Nat.zero_div])
    have hlog := hr' hr0
    rw [greatestExponent] at he' hlog ⊢
    omega

/-- A number below 2 ^ 1023 is rounded to a finite double. -/
theorem bounded_round {s : Sign} {m k : Nat} {e : Int} {acc : Accuracy} (hm : m < 2 ^ k)
    (hk : e + k ≤ 1023) (he : e ≤ greatestExponent) :
    Bounded (roundWithAccuracy Format.binary64 s m e acc) := by
  obtain ⟨j, hshift, hj⟩ := shiftToTargetExponent_eq m e acc
  -- the mantissa has at most `k` bits, so the first shift does not exceed what is allowed
  have hlog : m.log2 + 1 ≤ max k 1 := by
    by_cases hm0 : m = 0
    · subst hm0
      rw [Nat.log2_zero]
      omega
    · have := (Nat.log2_lt hm0).2 hm
      omega
  have he' : e + j ≤ greatestExponent := by
    rw [greatestExponent] at he ⊢
    omega
  refine bounded_of_rounded hshift rfl he' fun hr0 => ?_
  -- rounding up can make the mantissa a power of two, one bit longer
  have hround : (ExtendedMantissa.ofMantissaAndAccuracy m acc >>> j).roundedMantissa ≤
      2 ^ (k - j) := by
    refine (roundedMantissa_le _).trans ?_
    rw [mantissa_shiftRight, mantissa_ofMantissaAndAccuracy]
    have hlt : m / 2 ^ j < 2 ^ (k - j) := by
      rw [Nat.div_lt_iff_lt_mul (Nat.two_pow_pos j), ← Nat.pow_add]
      exact hm.trans_le (Nat.pow_le_pow_right (by decide) (by omega))
    exact hlt
  have hlog' : (ExtendedMantissa.ofMantissaAndAccuracy m acc >>> j).roundedMantissa.log2 ≤ k - j := by
    refine Nat.le_of_lt_succ ((Nat.log2_lt hr0).2 ?_)
    exact hround.trans_lt (Nat.pow_lt_pow_right (by decide) (Nat.lt_succ_self _))
  rw [greatestExponent] at he' ⊢
  omega

/-- A number of 53 bits is not rounded. -/
theorem bounded_round_exact {s : Sign} {m a : Nat} {e : Int} (hm0 : m ≠ 0) (hm : m < 2 ^ 53)
    (hlow : -1074 ≤ e + a) (hhigh : e + a ≤ greatestExponent) :
    Bounded (roundWithAccuracy Format.binary64 s (m * 2 ^ a) e .exact) := by
  obtain ⟨j, hshift, hj⟩ := shiftToTargetExponent_eq (m * 2 ^ a) e .exact
  have hlt : ∀ b, m * 2 ^ b < 2 ^ (53 + b) := fun b => by
    rw [Nat.pow_add]
    exact Nat.mul_lt_mul_of_pos_right hm (Nat.two_pow_pos b)
  have hne : ∀ b, m * 2 ^ b ≠ 0 := fun b => Nat.mul_ne_zero hm0 (Nat.two_pow_pos b).ne'
  have hlog := (Nat.log2_lt (hne a)).2 (hlt a)
  have hja : j ≤ a := by omega
  have hexact : (ExtendedMantissa.ofMantissaAndAccuracy (m * 2 ^ a) .exact >>> j).roundedMantissa =
      m * 2 ^ (a - j) := by
    show ((⟨m * 2 ^ a, false, false⟩ : ExtendedMantissa) >>> j).roundedMantissa = _
    rw [shiftRight_exact m hja]
    rfl
  refine bounded_of_rounded hshift hexact ?_ fun _ => ?_
  · rw [greatestExponent] at hhigh ⊢
    omega
  · have hlog' := (Nat.log2_lt (hne (a - j))).2 (hlt (a - j))
    rw [greatestExponent] at hhigh ⊢
    omega

/-! ## Divisions by a thousand -/

/-- The double of a thousand. -/
def thousand : UnpackedFloat := .finite .positive 8796093022208000 (-43) (by decide)

/-- The quotient of a number of 53 bits and the double of a thousand is finite. -/
theorem bounded_div_finite {s : Sign} {m : Nat} {e : Int} (hm0 : 0 < m) (hm : m < 2 ^ 53)
    (he : e ≤ greatestExponent) :
    Bounded (UnpackedFloat.div Format.binary64 (.finite s m e hm0) thousand) := by
  have hlog : m.log2 ≤ 52 := Nat.le_of_lt_succ ((Nat.log2_lt hm0.ne').2 hm)
  have hlog' : Nat.log2 8796093022208000 = 52 := by decide
  -- the quotient is computed at an exponent `t`, for which the dividend is shifted
  obtain ⟨t, ht, ht1, ht2⟩ : ∃ t : Int, t = min (e - -43)
      (Format.binary64.targetExponent (totalExponent m e - totalExponent 8796093022208000 (-43))) ∧
      t ≤ e + 43 ∧ t ≤ greatestExponent := by
    refine ⟨_, rfl, by omega, ?_⟩
    have htarget : Format.binary64.targetExponent
        (totalExponent m e - totalExponent 8796093022208000 (-43)) =
        max (m.log2 + 1 + e - (52 + 1 + -43) - 53) (-1074) := by
      rw [totalExponent, totalExponent, hlog']
      rfl
    rw [htarget]
    rw [greatestExponent] at he ⊢
    omega
  show Bounded (roundWithAccuracy Format.binary64 (s / .positive)
    ((m <<< (e - -43 - min (e - -43) _).toNat) / 8796093022208000) (min (e - -43) _) _)
  rw [← ht]
  have hquotient : (m <<< (e - -43 - t).toNat) / 8796093022208000 <
      2 ^ (1 + (e - -43 - t).toNat) := by
    rw [Nat.div_lt_iff_lt_mul (by decide), Nat.shiftLeft_eq, Nat.pow_add, Nat.mul_right_comm]
    refine Nat.mul_lt_mul_of_pos_right (hm.trans_le ?_) (Nat.two_pow_pos _)
    decide
  refine bounded_round hquotient ?_ ht2
  rw [greatestExponent] at he
  omega

theorem bounded_div_thousand {u : UnpackedFloat} (h : Fits u) :
    Bounded (UnpackedFloat.div Format.binary64 u thousand) := by
  cases u with
  | infinity s => exact h.elim
  | notANumber => exact h.elim
  | zero s => exact trivial
  | finite s m e hm => exact bounded_div_finite hm h.1 h.2

/-- The exponent that a quotient by a thousand is computed at, for a whole dividend. -/
theorem ofScientific_thousand {M : Nat} (hM0 : M ≠ 0) :
    ∃ t : Nat, UnpackedFloat.ofScientific Format.binary64 M (-3) =
      roundWithAccuracy Format.binary64 .positive (M * 2 ^ t / 1000) (-(t : Int))
        (accuracyOfFraction (M * 2 ^ t % 1000) 1000) := by
  have htop : ¬ ((-3 : Int) > 2 ^ Format.binary64.exponentBits) := by decide
  have hlow : ¬ ((-3 : Int) < -(2 ^ Format.binary64.exponentBits + (M.log2 : Int))) := by
    show ¬ ((-3 : Int) < -(2048 + (M.log2 : Int)))
    omega
  rw [UnpackedFloat.ofScientific, dif_neg hM0, if_neg htop, if_neg hlow, if_neg (by decide)]
  obtain ⟨t, ht⟩ : ∃ t : Nat, -(t : Int) = min (0 - 0)
      (Format.binary64.targetExponent (totalExponent M 0 - totalExponent (10 ^ (- -3 : Int).toNat) 0)) := by
    refine ⟨(-(min (0 - 0) (Format.binary64.targetExponent
      (totalExponent M 0 - totalExponent (10 ^ (- -3 : Int).toNat) 0)))).toNat, ?_⟩
    omega
  refine ⟨t, ?_⟩
  rw [UnpackedFloat.div, divCore]
  simp only [← ht]
  have hshift : (0 - 0 - -(t : Int)).toNat = t := by omega
  rw [hshift, Nat.shiftLeft_eq]
  rfl

/-- The double nearest to a whole number of at most 1023 bits over a thousand is finite. -/
theorem bounded_ofScientific {M k : Nat} (hM : M < 2 ^ k) (hk : k ≤ 1023) :
    Bounded (UnpackedFloat.ofScientific Format.binary64 M (-3)) := by
  by_cases hM0 : M = 0
  · rw [UnpackedFloat.ofScientific, dif_pos hM0]
    exact trivial
  obtain ⟨t, ht⟩ := ofScientific_thousand hM0
  rw [ht]
  refine @bounded_round _ _ (k + t) _ _ ?_ (by omega) ?_
  · refine (Nat.div_le_self _ _).trans_lt ?_
    rw [Nat.pow_add]
    exact Nat.mul_lt_mul_of_pos_right hM (Nat.two_pow_pos t)
  · rw [greatestExponent]
    omega

/-- A thousand times a whole double over a thousand is that double. -/
theorem bounded_ofScientific_exact {m a : Nat} (hm0 : m ≠ 0) (hm : m < 2 ^ 53)
    (ha : (a : Int) ≤ greatestExponent) :
    Bounded (UnpackedFloat.ofScientific Format.binary64 (m * 2 ^ a * 1000) (-3)) := by
  obtain ⟨t, ht⟩ := ofScientific_thousand (M := m * 2 ^ a * 1000)
    (Nat.mul_ne_zero (Nat.mul_ne_zero hm0 (Nat.two_pow_pos a).ne') (by decide))
  have hshift : m * 2 ^ a * 1000 * 2 ^ t = m * 2 ^ (a + t) * 1000 := by
    rw [Nat.pow_add]
    ring
  rw [ht, hshift, Nat.mul_div_cancel _ (by decide), Nat.mul_mod_left]
  refine bounded_round_exact hm0 hm ?_ ?_
  · omega
  · rw [greatestExponent] at ha ⊢
    omega

/-- A machine word as a double. -/
theorem bounded_ofUInt64 (n : UInt64) :
    Bounded (UnpackedFloat.ofUInt64 Format.binary64 n) := by
  have hlt : n.toNat < 2 ^ 64 := n.toNat_lt
  rw [UnpackedFloat.ofUInt64, UnpackedFloat.ofNat, UnpackedFloat.ofInt, UnpackedFloat.normalize]
  split
  · next hneg =>
    rw [Int.compare_eq_lt] at hneg
    omega
  · exact trivial
  · rw [Int.toNat_natCast, UnpackedFloat.round]
    -- the mantissa is shifted up by some places first, and the exponent down by as many
    dsimp only [decreaseExponent]
    generalize (0 - Format.binary64.targetExponent (totalExponent n.toNat 0)).toNat = k
    refine @bounded_round _ _ (64 + k) _ _ ?_ (by omega) ?_
    · rw [Nat.shiftLeft_eq, Nat.pow_add]
      exact Nat.mul_lt_mul_of_pos_right hlt (Nat.two_pow_pos k)
    · rw [greatestExponent]
      omega

theorem unpack_thousand :
    (Float.exactlyRepresentablePowersOfTen[3]).toModel.unpack = thousand := rfl

/-- The double nearest to a whole number over a thousand is finite, as long as the number is
    small or a thousand times a whole double. -/
theorem isFinite_ofScientific {M : Nat}
    (h : Bounded (UnpackedFloat.ofScientific Format.binary64 M (-3))) :
    (Float.ofScientific M true 3).isFinite = true := by
  rw [Float.ofScientific]
  split
  · -- a number of 53 bits is converted, and divided in double arithmetic
    have hdividend : Fits M.toUInt64.toFloat.toModel.unpack := fits_pack (bounded_ofUInt64 _)
    show (Float.Model.pack (UnpackedFloat.div Format.binary64 M.toUInt64.toFloat.toModel.unpack
      (Float.exactlyRepresentablePowersOfTen[3]).toModel.unpack)).unpack.isFinite = true
    rw [unpack_thousand]
    exact (fits_pack (bounded_div_thousand hdividend)).isFinite
  · exact (fits_pack h).isFinite

/-! ## Three decimal places -/

/-- Numbers of at most 1034 bits are within the range that is looked at. -/
theorem length_digits_le {M k : Nat} (h : M < 2 ^ k) (hk : k ≤ 1034) :
    (Text.digits M).length ≤ 345 := by
  obtain ⟨j, hj, hkj⟩ : ∃ j, j = 345 ∧ k ≤ 3 * j := ⟨345, rfl, by omega⟩
  have hpow : M < 10 ^ j := by
    calc M < 2 ^ k := h
      _ ≤ 2 ^ (3 * j) := Nat.pow_le_pow_right (by decide) hkj
      _ = (2 ^ 3) ^ j := Nat.pow_mul ..
      _ ≤ 10 ^ j := Nat.pow_le_pow_left (by decide) j
  rw [Text.digits, List.length_reverse, ← hj]
  exact Text.length_digitsRev_le (by omega) hpow

/-- The double that is displayed for a number of at most 1034 bits over a thousand. -/
theorem isFinite_nearest {M k : Nat} (hM : M < 2 ^ k) (hk : k ≤ 1034)
    (h : Bounded (UnpackedFloat.ofScientific Format.binary64 M (-3))) :
    (nearest M (-3)).isFinite = true := by
  have hlength := length_digits_le hM hk
  unfold nearest
  split
  · rfl
  · dsimp only
    rw [if_neg (by omega)]
    split
    · rfl
    · exact isFinite_ofScientific h

theorem roundDiv_le (num den : Nat) : roundDiv num den ≤ num + 1 := by
  have hle : num / den ≤ num := Nat.div_le_self num den
  unfold roundDiv
  dsimp only
  split
  · omega
  split
  · omega
  split <;> omega

theorem roundDiv_one (num : Nat) : roundDiv num 1 = num := by
  rw [roundDiv, Nat.mod_one, Nat.div_one, if_pos (by decide)]

/-- The mantissa and the exponent of a finite double. -/
theorem view_finite {x : Float} {b : Binary} (h : view x = .finite b) :
    b.mantissa < 2 ^ 53 ∧ b.exponent ≤ greatestExponent := by
  have hfraction : x.toBits.toNat % hiddenBit < 2 ^ 52 := Nat.mod_lt _ (by decide)
  have hbiased : x.toBits.toNat / hiddenBit % Nat.pow 2 11 < 2 ^ 11 := Nat.mod_lt _ (by decide)
  rw [view] at h
  split at h
  · split at h <;> cases h
  split at h
  · cases h
    refine ⟨hfraction.trans (by decide), ?_⟩
    show leastExponent ≤ greatestExponent
    decide
  · cases h
    have hhidden : hiddenBit = 2 ^ 52 := rfl
    rw [greatestExponent]
    dsimp only
    omega

/-- A whole double is its own decimal: its thousandfold is a whole number. -/
theorem isFinite_nearest_whole {b : Binary} (hm0 : b.mantissa ≠ 0) (hm : b.mantissa < 2 ^ 53)
    (hwhole : 0 ≤ b.exponent) (he : b.exponent ≤ greatestExponent) :
    (nearest (roundScaled b.fraction.1 b.fraction.2 3) (-3)).isFinite = true := by
  obtain ⟨a, ha⟩ := Int.eq_ofNat_of_zero_le hwhole
  have hale : a ≤ 971 := by
    rw [greatestExponent] at he
    omega
  have hscaled : roundScaled b.fraction.1 b.fraction.2 3 = b.mantissa * 2 ^ a * 1000 := by
    rw [Binary.fraction, if_pos hwhole, ha, roundScaled, if_pos (by decide)]
    exact roundDiv_one _
  rw [hscaled]
  have hsize : b.mantissa * 2 ^ a * 1000 < 2 ^ (53 + a + 10) := by
    rw [Nat.pow_add, Nat.pow_add]
    refine Nat.mul_lt_mul_of_lt_of_le (Nat.mul_lt_mul_of_pos_right hm (Nat.two_pow_pos a)) ?_ ?_
      <;> decide
  exact isFinite_nearest hsize (by omega) (bounded_ofScientific_exact hm0 hm (ha ▸ he))

/-- A double that need not be whole is below 2 ^ 53, far from the greatest one. -/
theorem isFinite_nearest_small {b : Binary} (hm : b.mantissa < 2 ^ 53)
    (hwhole : ¬ 0 ≤ b.exponent) :
    (nearest (roundScaled b.fraction.1 b.fraction.2 3) (-3)).isFinite = true := by
  have hscaled : roundScaled b.fraction.1 b.fraction.2 3 < 2 ^ 64 := by
    rw [Binary.fraction, if_neg hwhole, roundScaled, if_pos (by decide)]
    refine (roundDiv_le _ _).trans_lt ?_
    show b.mantissa * 1000 + 1 < 2 ^ 64
    omega
  exact isFinite_nearest hscaled (by decide) (bounded_ofScientific hscaled (by decide))

/-- Rounding to three decimal places always yields a double. -/
theorem exists_roundPlaces (x : Float) : ∃ y, roundPlaces? x 3 = some y := by
  unfold roundPlaces?
  cases hview : view x with
  | nan => exact ⟨x, rfl⟩
  | infinite negative => exact ⟨x, rfl⟩
  | finite b =>
    obtain ⟨hmantissa, hexponent⟩ := view_finite hview
    dsimp only
    split
    · exact ⟨x, rfl⟩
    · next hzero =>
      have hfinite : (nearest (roundScaled b.fraction.1 b.fraction.2 3) (-3)).isFinite = true := by
        by_cases hwhole : 0 ≤ b.exponent
        · exact isFinite_nearest_whole (fun h0 => hzero (.inl h0)) hmantissa hwhole hexponent
        · exact isFinite_nearest_small hmantissa hwhole
      rw [if_neg (by decide), if_pos hfinite]
      exact ⟨_, rfl⟩

end ProductionLP.Decimal
