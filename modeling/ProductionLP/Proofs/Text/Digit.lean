import Mathlib.Data.Nat.Digits.Lemmas
import ProductionLP.Text.Digit

/- Digits of a number.

   A number is written by its digits in the base, and zero by one digit of its own
   (`digitsRev_eq`). Its digits are below the base whatever the number is
   (`lt_of_mem_digitsRev`), the first one is not zero (`exists_digits_eq_cons`), and their count
   tells the number's magnitude (`pow_length_digits_le`). -/
namespace ProductionLP.Text

variable {base fuel n d : Nat} {c : Char}

/-! ## Digits in any base -/

theorem lt_of_mem_digitsRev (hb : 0 < base) (hd : d ∈ digitsRev base fuel n) : d < base := by
  induction fuel generalizing n with
  | zero => cases hd
  | succ fuel ih =>
    rw [digitsRev] at hd
    split at hd
    · next hlt =>
      obtain rfl := List.mem_singleton.1 hd
      exact hlt
    · rcases List.mem_cons.1 hd with rfl | hd
      · exact Nat.mod_lt n hb
      · exact ih hd

theorem length_digitsRev_le {k : Nat} (hk : 1 ≤ k) (h : n < base ^ k) :
    (digitsRev base fuel n).length ≤ k := by
  induction fuel generalizing n k with
  | zero => exact Nat.zero_le k
  | succ fuel ih =>
    rw [digitsRev]
    split
    · exact hk
    · next hge =>
      -- a number with a second digit is not below the base
      obtain ⟨k, rfl⟩ := Nat.exists_eq_add_of_le' hk
      have hk1 : 1 ≤ k := by
        by_contra h0
        obtain rfl : k = 0 := by omega
        exact hge (by simpa using h)
      have hdiv : n / base < base ^ k := Nat.div_lt_of_lt_mul (by rwa [Nat.pow_succ'] at h)
      exact Nat.succ_le_succ (ih hk1 hdiv)

/-- With enough fuel a number that is not zero has all its digits. -/
theorem digitsRev_eq (hb : 1 < base) (hn : n ≠ 0) (h : n < base ^ fuel) :
    digitsRev base fuel n = Nat.digits base n := by
  induction fuel generalizing n with
  | zero => exact absurd (Nat.lt_one_iff.1 h) hn
  | succ fuel ih =>
    rw [digitsRev]
    split
    · next hlt => rw [Nat.digits_of_lt base n hn hlt]
    · next hge =>
      have hdiv : n / base ≠ 0 := (Nat.div_pos (Nat.le_of_not_lt hge) (by omega)).ne'
      have hlt : n / base < base ^ fuel := Nat.div_lt_of_lt_mul (by rwa [Nat.pow_succ'] at h)
      rw [Nat.digits_def' hb (Nat.pos_of_ne_zero hn), ih hdiv hlt]

/-! ## Decimal digits -/

theorem digits_eq (hn : n ≠ 0) : digits n = (Nat.digits 10 n).reverse := by
  have hlt : n < 10 ^ (n.log2 + 1) :=
    Nat.lt_log2_self.trans_le (Nat.pow_le_pow_left (by decide) _)
  rw [digits, digitsRev_eq (by decide) hn hlt]

theorem lt_of_mem_digits (hd : d ∈ digits n) : d < 10 :=
  lt_of_mem_digitsRev (by decide) (List.mem_reverse.1 hd)

/-- The first digit of a number that is not zero is not zero. -/
theorem exists_digits_eq_cons (hn : n ≠ 0) : ∃ d ds, digits n = d :: ds ∧ d ≠ 0 := by
  have hnil : Nat.digits 10 n ≠ [] := Nat.digits_ne_nil_iff_ne_zero.2 hn
  refine ⟨(Nat.digits 10 n).getLast hnil, (Nat.digits 10 n).dropLast.reverse, ?_,
    Nat.getLast_digit_ne_zero 10 hn⟩
  rw [digits_eq hn]
  conv_lhs => rw [← List.dropLast_append_getLast hnil, List.reverse_append]
  rfl

theorem digits_ne_nil (n : Nat) : digits n ≠ [] := by
  by_cases hn : n = 0
  · rw [hn]
    decide
  · obtain ⟨d, ds, h, _⟩ := exists_digits_eq_cons hn
    rw [h]
    exact List.cons_ne_nil d ds

theorem pow_length_digits_le (hn : n ≠ 0) : 10 ^ ((digits n).length - 1) ≤ n := by
  have hle := Nat.base_pow_length_digits_le' 8 n hn
  have hpos := List.length_pos_iff.2 (digits_ne_nil n)
  rw [digits_eq hn, List.length_reverse] at hpos ⊢
  obtain ⟨k, hk⟩ := Nat.exists_eq_add_of_le' hpos
  rw [hk, Nat.pow_succ'] at hle
  rw [hk, Nat.add_sub_cancel]
  exact Nat.le_of_mul_le_mul_left hle (by decide)

/-! ## Written digits -/

/-- A code point of ASCII is that of its character. -/
theorem toNat_ofNat_of_lt (h : n < 0x80) : (Char.ofNat n).toNat = n := by
  rw [Char.ofNat, dif_pos (.inl (by omega))]
  rfl

theorem exists_of_mem_hex {width : Nat} (hc : c ∈ hex width n) : ∃ d < 16, c = digitChar d := by
  rcases List.mem_append.1 hc with hc | hc
  · obtain rfl := List.eq_of_mem_replicate hc
    exact ⟨0, by decide, rfl⟩
  · obtain ⟨d, hd, rfl⟩ := List.mem_map.1 hc
    exact ⟨d, lt_of_mem_digitsRev (by decide) (List.mem_reverse.1 hd), rfl⟩

/-- A number that fits into a width is written with exactly this width. -/
theorem length_hex {width : Nat} (hwidth : 1 ≤ width) (h : n < 16 ^ width) :
    (hex width n).length = width := by
  have hle := @length_digitsRev_le 16 (n.log2 + 1) n width hwidth h
  simp only [hex, List.length_append, List.length_replicate, List.length_map, List.length_reverse]
  omega

end ProductionLP.Text
