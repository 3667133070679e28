import LinkedSheets.Proofs.Number.Layouts
import LinkedSheets.Value

/-!
# Nearest integers

A decimal of up to fifteen digits and the binary number nearest to it have the same nearest integer,
since no half lies between the two. Every nearest integer is a binary number again.
-/

namespace LinkedSheets

open Text CellRef

/-- The nearest integer, a half going away from zero. -/
def roundAway (q : ℚ) : ℤ := if q < 0 then -round (-q) else round q

namespace Binary64

theorem roundHalfUp_eq_round (num : ℕ) {den : ℕ} (h : 0 < den) :
    (roundHalfUp num den : ℤ) = round ((num : ℚ) / den) := by
  have hden : (den : ℚ) ≠ 0 := by exact_mod_cast h.ne'
  have hhalf : (num : ℚ) / den + 1 / 2 = (2 * num + den : ℕ) / (2 * den : ℕ) := by
    push_cast
    field_simp
  rw [round_eq, hhalf, Rat.floor_natCast_div_natCast]
  rfl

theorem nearestInteger_eq_round (m : ℕ) (e : ℤ) :
    (nearestInteger m e : ℤ) = round (magnitude m e) := by
  unfold nearestInteger magnitude
  split
  · rename_i he
    lift e to ℕ using he
    have hcast : (m : ℚ) * 2 ^ (e : ℤ) = ((m * 2 ^ e : ℕ) : ℤ) := by
      push_cast
      rfl
    rw [hcast, round_intCast]
    rfl
  · rename_i he
    obtain ⟨k, rfl⟩ : ∃ k : ℕ, e = -k := ⟨(-e).toNat, by omega⟩
    rw [neg_neg, Int.toNat_natCast, Nat.pow_eq, roundHalfUp_eq_round m (Nat.two_pow_pos k),
      zpow_neg, zpow_natCast, ← div_eq_mul_inv, Nat.cast_pow, Nat.cast_ofNat]

/-! ### Integers among the binary numbers -/

theorem exists_proper_of_lt {n : ℕ} (h : n < 2 ^ 53) : ∃ m e, IsProper m e ∧ magnitude m e = n := by
  by_cases hn : n = 0
  · exact ⟨0, leastExponent, ⟨by decide, le_refl _, by decide, Or.inr rfl⟩,
      by rw [hn, magnitude, Nat.cast_zero, zero_mul]⟩
  · have hlog : n.log2 < 53 := (Nat.log2_lt hn).mpr h
    have hlow := Nat.log2_self_le hn
    have hup : n < 2 ^ (n.log2 + 1) := Nat.lt_log2_self
    refine ⟨n * 2 ^ (52 - n.log2), (n.log2 : ℤ) - 52, ⟨?_, ?_, ?_, Or.inl ?_⟩, ?_⟩
    · calc n * 2 ^ (52 - n.log2) < 2 ^ (n.log2 + 1) * 2 ^ (52 - n.log2) :=
            Nat.mul_lt_mul_of_pos_right hup (Nat.pow_pos (by decide))
        _ = 2 ^ 53 := by
            rw [← pow_add]
            congr 1
            omega
    · rw [leastExponent]
      omega
    · rw [greatestExponent]
      omega
    · calc 2 ^ 52 = 2 ^ n.log2 * 2 ^ (52 - n.log2) := by
            rw [← pow_add]
            congr 1
            omega
        _ ≤ n * 2 ^ (52 - n.log2) := Nat.mul_le_mul_right _ hlow
    · rw [magnitude, Nat.cast_mul, Nat.cast_pow, Nat.cast_ofNat, mul_assoc, ← zpow_natCast,
        ← zpow_add₀ (by norm_num)]
      have hzero : ((52 - n.log2 : ℕ) : ℤ) + ((n.log2 : ℤ) - 52) = 0 := by omega
      rw [hzero, zpow_zero, mul_one]

/-- The nearest integer of a number is a number. -/
theorem exists_proper_nearestInteger {m : ℕ} {e : ℤ} (h : IsProper m e) :
    ∃ m' e', IsProper m' e' ∧ magnitude m' e' = nearestInteger m e := by
  rcases le_or_gt 0 e with he | he
  · refine ⟨m, e, h, ?_⟩
    rw [nearestInteger, if_pos he]
    lift e to ℕ using he
    rw [magnitude, zpow_natCast, Int.toNat_natCast, Nat.pow_eq]
    push_cast
    rfl
  -- Without the last binary digits, or at least one of them, less than half the mantissas are left.
  · apply exists_proper_of_lt
    have hm := h.mantissa_lt
    obtain ⟨k, rfl⟩ : ∃ k : ℕ, e = -(k + 1 : ℕ) := ⟨(-e).toNat - 1, by omega⟩
    rw [nearestInteger, if_neg (by omega), neg_neg, Int.toNat_natCast, Nat.pow_eq, roundHalfUp,
      Nat.div_lt_iff_lt_mul (by positivity), pow_succ]
    have hk : 1 ≤ 2 ^ k := Nat.one_le_two_pow
    omega

/-! ### No half in between -/

theorem round_eq_iff {x : ℚ} {n : ℤ} :
    round x = n ↔ ((n - 1 : ℤ) : ℚ) + 1 / 2 ≤ x ∧ x < n + 1 / 2 := by
  rw [round_eq, Int.floor_eq_iff]
  push_cast
  constructor <;> rintro ⟨hlow, hup⟩ <;> constructor <;> linarith

-- The grids below one contain the halves.
theorem exists_half_eq {e : ℤ} (he : e < 0) (i : ℤ) :
    ∃ j : ℤ, (i : ℚ) + 1 / 2 = j * 2 ^ e := by
  obtain ⟨k, rfl⟩ : ∃ k : ℕ, e = -(k + 1 : ℕ) := ⟨(-e).toNat - 1, by omega⟩
  refine ⟨(2 * i + 1) * 2 ^ k, ?_⟩
  rw [zpow_neg, zpow_natCast, pow_succ]
  push_cast
  field_simp

theorem Attracts.half_le {m : ℕ} {e : ℤ} {q : ℚ} (hnear : Attracts m e q) (he : e < 0) {i : ℤ}
    (h : (i : ℚ) + 1 / 2 ≤ q) : (i : ℚ) + 1 / 2 ≤ magnitude m e := by
  obtain ⟨j, hj⟩ := exists_half_eq he i
  have hpos := two_zpow_pos e
  by_contra hlt
  rw [not_le, hj, magnitude] at hlt
  have hstep : (m : ℚ) + 1 ≤ j := by
    exact_mod_cast (lt_of_mul_lt_mul_right hlt hpos.le : (m : ℚ) < j)
  have hle : (j : ℚ) * 2 ^ e ≤ (m + 1 / 2) * 2 ^ e := hj ▸ h.trans hnear.le_upper
  linarith [le_of_mul_le_mul_right hle hpos]

-- If the number reaches a half that the magnitude lies below, it is that half.
theorem Attracts.eq_half {m : ℕ} {e : ℤ} {q : ℚ} (hnear : Attracts m e q) (he : e < 0) {i : ℤ}
    (h : q < i + 1 / 2) (hle : (i : ℚ) + 1 / 2 ≤ magnitude m e) :
    (i : ℚ) + 1 / 2 = magnitude m e ∧ (i : ℚ) + 1 / 2 - q ≤ 2 ^ e / 2 := by
  obtain ⟨j, hj⟩ := exists_half_eq he i
  have hpos := two_zpow_pos e
  have hquarters := quartersBelow_le m e
  have hlow : ((m : ℚ) - 1 / 2) * 2 ^ e ≤ q :=
    (mul_le_mul_of_nonneg_right (by linarith) hpos.le).trans hnear.lower_le
  have hjm : (j : ℚ) ≤ m := le_of_mul_le_mul_right (hj ▸ hle) hpos
  have hmj : (m : ℚ) - 1 / 2 < j := lt_of_mul_lt_mul_right (hlow.trans_lt (hj ▸ h)) hpos.le
  have heq : j = m := by
    have hjm' : j ≤ m := by exact_mod_cast hjm
    have hmj' : (m : ℤ) < j + 1 := by
      have : (m : ℚ) < j + 1 := by linarith
      exact_mod_cast this
    omega
  rw [hj, heq, magnitude]
  push_cast
  exact ⟨rfl, by linarith⟩

/-- A decimal below a half is half an integer away from it, or a unit of its last place. -/
theorem half_sub_decimal {c : ℕ} {f i : ℤ} (h : (c : ℚ) * 10 ^ f < i + 1 / 2) :
    (1 : ℚ) / 2 ≤ i + 1 / 2 - c * 10 ^ f ∨ (10 : ℚ) ^ f ≤ i + 1 / 2 - c * 10 ^ f := by
  rcases le_or_gt 0 f with hf | hf
  · left
    lift f to ℕ using hf
    rw [zpow_natCast] at h ⊢
    have hlt : ((c * 10 ^ f : ℕ) : ℚ) < i + 1 := by
      push_cast
      linarith
    have hle : ((c * 10 ^ f : ℕ) : ℚ) ≤ i := by
      exact_mod_cast Int.lt_add_one_iff.mp (by exact_mod_cast hlt)
    push_cast at hle
    linarith
  · right
    obtain ⟨k, rfl⟩ : ∃ k : ℕ, f = -(k + 1 : ℕ) := ⟨(-f).toNat - 1, by omega⟩
    have hten : (0 : ℚ) < 10 ^ (-(k + 1 : ℕ) : ℤ) := by positivity
    have hmultiple : (i : ℚ) + 1 / 2 =
        ((2 * i + 1) * (5 * 10 ^ k) : ℤ) * 10 ^ (-(k + 1 : ℕ) : ℤ) := by
      rw [zpow_neg, zpow_natCast, pow_succ]
      push_cast
      field_simp
      ring
    rw [hmultiple] at h ⊢
    have hstep : (c : ℚ) + 1 ≤ ((2 * i + 1) * (5 * 10 ^ k) : ℤ) := by
      exact_mod_cast (lt_of_mul_lt_mul_right h hten.le)
    linarith [mul_le_mul_of_nonneg_right hstep hten.le]

theorem magnitude_leastExponent_lt {m : ℕ} (h : m < 2 ^ 53) :
    magnitude m leastExponent < 1 / 2 := by
  have hm : (m : ℚ) ≤ 2 ^ (53 : ℤ) := by exact_mod_cast h.le
  calc magnitude m leastExponent ≤ 2 ^ (53 : ℤ) * 2 ^ leastExponent :=
        mul_le_mul_of_nonneg_right hm (two_zpow_pos _).le
    _ = 2 ^ (53 + leastExponent) := (zpow_add₀ (by norm_num) _ _).symm
    _ < 2 ^ (-1 : ℤ) := zpow_lt_zpow_right₀ (by norm_num) (by decide)
    _ = 1 / 2 := by norm_num

/-- A decimal of fifteen digits below a half is not read as the half: it is further away from it
than any two neighbouring numbers are from each other. -/
theorem Attracts.lt_half {m : ℕ} {e : ℤ} {c : ℕ} {f : ℤ} (hm : IsProper m e) (hc : c < 10 ^ 15)
    (hnear : Attracts m e (c * 10 ^ f)) (he : e < 0) {i : ℤ} (h : (c : ℚ) * 10 ^ f < i + 1 / 2) :
    magnitude m e < i + 1 / 2 := by
  by_contra hle
  obtain ⟨hself, hdist⟩ := hnear.eq_half he h (not_lt.mp hle)
  have hpos := two_zpow_pos e
  rcases half_sub_decimal h with hhalf | hfine
  · have hone : (2 : ℚ) ^ e < 1 := zpow_lt_one_of_neg₀ (by norm_num) he
    linarith
  · have hsmall : (m : ℚ) ≤ (c + 1) / 2 := by
      have hcoarse : (c : ℚ) * 10 ^ f ≤ c * (2 ^ e / 2) :=
        mul_le_mul_of_nonneg_left (hfine.trans hdist) (Nat.cast_nonneg c)
      apply le_of_mul_le_mul_right _ hpos
      rw [magnitude] at hself
      linarith
    -- So few binary digits have only the numbers of the least exponent, all far below a half.
    have hleast : e = leastExponent := by
      refine hm.leading.resolve_left fun hlarge => ?_
      have hlarge' : (2 : ℚ) ^ 52 ≤ m := by exact_mod_cast hlarge
      have hc' : (c : ℚ) < 10 ^ 15 := by exact_mod_cast hc
      linarith
    have hlt := magnitude_leastExponent_lt hm.mantissa_lt
    rw [← hleast, ← hself] at hlt
    have hi : (-1 : ℚ) < i := by
      have hq : (0 : ℚ) ≤ c * 10 ^ f := by positivity
      linarith
    have hi' : (0 : ℚ) ≤ i := by
      exact_mod_cast Int.add_one_le_iff.mpr (by exact_mod_cast hi : (-1 : ℤ) < i)
    linarith

/-- Reading a decimal of fifteen digits does not change the nearest integer. -/
theorem Attracts.round_eq {m : ℕ} {e : ℤ} {c : ℕ} {f : ℤ} (hm : IsProper m e) (hc : c < 10 ^ 15)
    (hnear : Attracts m e (c * 10 ^ f)) (hq : (c : ℚ) * 10 ^ f < 10 ^ 15) :
    round (magnitude m e) = round ((c : ℚ) * 10 ^ f) := by
  have he := hnear.exponent_neg hm hq
  obtain ⟨hlow, hup⟩ := round_eq_iff.mp (Eq.refl (round ((c : ℚ) * 10 ^ f)))
  exact round_eq_iff.mpr ⟨hnear.half_le he hlow, hnear.lt_half hm hc he hup⟩

end Binary64

/-! ### Integers as numerals -/

theorem Binary64.roundedText_finite (negative : Bool) (m : ℕ) (e : ℤ) :
    (Binary64.finite negative m e).roundedText =
      intText (if negative then -(nearestInteger m e : ℤ) else nearestInteger m e) := by
  unfold roundedText intText
  dsimp only
  generalize nearestInteger m e = n
  cases negative with
  | false => rw [if_neg (by simp), if_neg (by simp), if_neg (by simp), Int.natAbs_natCast]
  | true =>
    by_cases hn : n = 0
    · rw [hn]
      rfl
    · rw [if_pos ⟨rfl, hn⟩, if_pos rfl, if_pos (by omega), Int.natAbs_neg, Int.natAbs_natCast]

namespace Numeral

def ofInt (i : ℤ) : Numeral :=
  (integral false i.natAbs 0).withSign (if i < 0 then .minus else .absent)

theorem text_ofInt (i : ℤ) : (ofInt i).text = intText i := by
  have hdigits : (integral false i.natAbs 0).chars = digits i.natAbs := by
    rw [chars_integral]
    exact (List.append_nil _).trans (List.append_nil _)
  rw [text, ofInt, chars_withSign _ rfl, hdigits, intText, natText]
  split
  · exact String.ofList_append
  · rfl

theorem magnitude_ofInt (i : ℤ) : (ofInt i).magnitude = i.natAbs := by
  have h := magnitude_integral false i.natAbs 0
  rw [Nat.cast_zero, zpow_zero, mul_one] at h
  exact h

theorem isMinus_ofInt (i : ℤ) : (ofInt i).sign.isMinus = decide (i < 0) := by
  show Sign.isMinus (if i < 0 then .minus else .absent) = _
  split
  · rename_i h
    exact (decide_eq_true h).symm
  · rename_i h
    exact (decide_eq_false h).symm

end Numeral

end LinkedSheets
