import LinkedSheets.Proofs.Number.Nearest

/-!
# Rounded operations

A quotient, a decimal and a product are each rounded to the nearest number. What is left out for
decimals that are far too large or too small is rounded the same way.
-/

namespace LinkedSheets

/-- The number that a decimal denotes. -/
def Decimal.value (d : Decimal) : ℚ := d.coefficient * 10 ^ d.exponent

theorem zpow_le_zpow_of_pow_le {a b : ℚ} (ha : 1 ≤ a) (hb : 1 ≤ b) {j k : ℕ} (hk : k ≠ 0)
    (hpow : a ^ j ≤ b ^ k) {s t : ℤ} (ht : 0 ≤ t) (h : k * s ≤ j * t) : a ^ s ≤ b ^ t := by
  have ha0 : 0 ≤ a := zero_le_one.trans ha
  have hb0 : 0 ≤ b := zero_le_one.trans hb
  apply (pow_le_pow_iff_left₀ (zpow_nonneg ha0 s) (zpow_nonneg hb0 t) hk).mp
  calc (a ^ s) ^ k = a ^ (k * s) := by rw [← zpow_natCast, ← zpow_mul, mul_comm]
    _ ≤ a ^ (j * t) := zpow_le_zpow_right₀ ha h
    _ = (a ^ j) ^ t := by rw [zpow_mul, zpow_natCast]
    _ ≤ (b ^ k) ^ t := zpow_le_zpow_left₀ ht (pow_nonneg ha0 j) hpow
    _ = (b ^ t) ^ k := by rw [← zpow_natCast, ← zpow_natCast, ← zpow_mul, ← zpow_mul, mul_comm]

-- Ten is between the 28th root of `2 ^ 93` and the 59th root of `2 ^ 196`.
theorem two_zpow_le_ten_zpow {s t : ℤ} (h : 28 * s ≤ 93 * t) (h' : 59 * s ≤ 196 * t) :
    (2 : ℚ) ^ s ≤ 10 ^ t := by
  rcases le_total 0 t with ht | ht
  · exact zpow_le_zpow_of_pow_le (by norm_num) (by norm_num) (by decide : 28 ≠ 0)
      (by norm_num : (2 : ℚ) ^ 93 ≤ 10 ^ 28) ht h
  · rw [← inv_le_inv₀ (by positivity) (by positivity), ← zpow_neg, ← zpow_neg]
    exact zpow_le_zpow_of_pow_le (by norm_num) (by norm_num) (by decide : 196 ≠ 0)
      (by norm_num : (10 : ℚ) ^ 59 ≤ 2 ^ 196) (by omega) (by push_cast; omega)

theorem ten_zpow_le_two_zpow {s t : ℤ} (h : 93 * s ≤ 28 * t) (h' : 196 * s ≤ 59 * t) :
    (10 : ℚ) ^ s ≤ 2 ^ t := by
  rcases le_total 0 t with ht | ht
  · exact zpow_le_zpow_of_pow_le (by norm_num) (by norm_num) (by decide : 196 ≠ 0)
      (by norm_num : (10 : ℚ) ^ 59 ≤ 2 ^ 196) ht h'
  · rw [← inv_le_inv₀ (by positivity) (by positivity), ← zpow_neg, ← zpow_neg]
    exact zpow_le_zpow_of_pow_le (by norm_num) (by norm_num) (by decide : 28 ≠ 0)
      (by norm_num : (2 : ℚ) ^ 93 ≤ 10 ^ 28) (by omega) (by push_cast; omega)

-- A half only goes to an even number.
theorem roundHalfEven_error_of_odd {num den : ℕ} (h : 0 < den)
    (hodd : roundHalfEven num den % 2 = 1) :
    2 * num < (2 * roundHalfEven num den + 1) * den ∧
      2 * roundHalfEven num den * den < 2 * num + den := by
  have hdiv := Nat.div_add_mod num den
  have hmod := Nat.mod_lt num h
  unfold roundHalfEven at hodd ⊢
  generalize num / den = k at *
  generalize num % den = r at *
  subst hdiv
  have e (i : ℕ) : 2 * i * den = 2 * (den * i) := by ring
  simp only [Nat.add_mul, e, Nat.one_mul] at hodd ⊢
  split at hodd
  · rename_i hlow
    rw [if_pos hlow]
    omega
  · rename_i hlow
    rw [if_neg hlow]
    split at hodd
    · rename_i hhigh
      rw [if_pos hhigh, Nat.mul_add den k 1, Nat.mul_one]
      omega
    · omega

theorem roundHalfEven_near (num : ℕ) {den : ℕ} (h : 0 < den) :
    (roundHalfEven num den : ℚ) - 1 / 2 ≤ num / den ∧
      (num : ℚ) / den ≤ roundHalfEven num den + 1 / 2 ∧
      (roundHalfEven num den % 2 = 1 →
        (roundHalfEven num den : ℚ) - 1 / 2 < num / den ∧
          (num : ℚ) / den < roundHalfEven num den + 1 / 2) := by
  have hden : (0 : ℚ) < den := by exact_mod_cast h
  obtain ⟨hup, hlow⟩ := roundHalfEven_error num h
  refine ⟨?_, ?_, fun hodd => ?_⟩
  · rw [le_div_iff₀ hden]
    have hlow' : (2 : ℚ) * roundHalfEven num den * den ≤ 2 * num + den := by exact_mod_cast hlow
    linarith
  · rw [div_le_iff₀ hden]
    have hup' : (2 : ℚ) * num ≤ (2 * roundHalfEven num den + 1) * den := by exact_mod_cast hup
    linarith
  · obtain ⟨hup, hlow⟩ := roundHalfEven_error_of_odd h hodd
    have hlow' : (2 : ℚ) * roundHalfEven num den * den < 2 * num + den := by exact_mod_cast hlow
    have hup' : (2 : ℚ) * num < (2 * roundHalfEven num den + 1) * den := by exact_mod_cast hup
    rw [lt_div_iff₀ hden, div_lt_iff₀ hden]
    constructor <;> linarith

namespace Binary64

-- Up to half of the least number, magnitudes are rounded to zero.
theorem roundsTo_zero_of_le (negative : Bool) {q : ℚ} (h0 : 0 ≤ q)
    (h : q ≤ upperEnd 0 leastExponent) : RoundsTo negative q (zero negative) := by
  have hzero := attracts_magnitude 0 leastExponent
  rw [magnitude, Nat.cast_zero, zero_mul] at hzero
  exact .finite ⟨by decide, le_refl _, by decide, Or.inr rfl⟩
    ⟨hzero.lower_le.trans h0, h, fun hodd => absurd hodd (by decide)⟩

theorem roundsTo_zero (negative : Bool) : RoundsTo negative 0 (zero negative) :=
  roundsTo_zero_of_le negative (le_refl 0)
    (mul_nonneg (by norm_num) (two_zpow_pos leastExponent).le)

theorem inUnits_spec (num : ℕ) {den : ℕ} (h : 0 < den) (unit : ℤ) :
    0 < (inUnits num den unit).2 ∧
      ((inUnits num den unit).1 : ℚ) / (inUnits num den unit).2 = num / den / 2 ^ unit := by
  have hden : (den : ℚ) ≠ 0 := by exact_mod_cast h.ne'
  unfold inUnits
  split
  · rename_i hunit
    lift unit to ℕ using hunit
    refine ⟨Nat.mul_pos h (Nat.pow_pos (by decide)), ?_⟩
    rw [Int.toNat_natCast, Nat.pow_eq, Nat.cast_mul, Nat.cast_pow, Nat.cast_ofNat, zpow_natCast,
      div_div]
  · rename_i hunit
    obtain ⟨k, rfl⟩ : ∃ k : ℕ, unit = -k := ⟨(-unit).toNat, by omega⟩
    refine ⟨h, ?_⟩
    rw [neg_neg, Int.toNat_natCast, Nat.pow_eq, Nat.cast_mul, Nat.cast_pow, Nat.cast_ofNat,
      zpow_neg, zpow_natCast, div_inv_eq_mul, mul_div_right_comm]

-- The logarithms of two numbers give their quotient up to a factor of two on either side.
theorem two_zpow_log2_le_div {num den : ℕ} (hnum : num ≠ 0) (hden : 0 < den) :
    (2 : ℚ) ^ ((num.log2 : ℤ) - den.log2 - 1) ≤ num / den ∧
      (num : ℚ) / den < 2 ^ ((num.log2 : ℤ) - den.log2 + 1) := by
  have hd : (0 : ℚ) < den := by exact_mod_cast hden
  constructor
  · have hn : (2 : ℚ) ^ num.log2 ≤ num := by exact_mod_cast Nat.log2_self_le hnum
    have hd' : (den : ℚ) ≤ 2 ^ (den.log2 + 1) := by exact_mod_cast Nat.lt_log2_self.le
    calc (2 : ℚ) ^ ((num.log2 : ℤ) - den.log2 - 1) = 2 ^ num.log2 / 2 ^ (den.log2 + 1) := by
          rw [sub_sub, zpow_sub₀ (by norm_num)]
          rfl
      _ ≤ num / den := div_le_div₀ (by positivity) hn hd hd'
  · have hn : (num : ℚ) < 2 ^ (num.log2 + 1) := by exact_mod_cast Nat.lt_log2_self
    have hd' : (2 : ℚ) ^ den.log2 ≤ den := by exact_mod_cast Nat.log2_self_le hden.ne'
    calc (num : ℚ) / den < 2 ^ (num.log2 + 1) / 2 ^ den.log2 :=
          div_lt_div₀ hn hd' (by positivity) (by positivity)
      _ = 2 ^ ((num.log2 : ℤ) - den.log2 + 1) := by
          rw [sub_add_eq_add_sub, zpow_sub₀ (by norm_num)]
          rfl

theorem gridExponent_eq (num den : ℕ) :
    gridExponent num den =
      let low : ℤ := (num.log2 : ℤ) - den.log2 - 53
      max (if (inUnits num den low).1 / (inUnits num den low).2 < 2 ^ 53 then low else low + 1)
        leastExponent := rfl

-- The quotient has 53 binary digits before the point of its grid, or fewer on the finest grid.
theorem gridExponent_spec {num den : ℕ} (hnum : num ≠ 0) (hden : 0 < den) :
    leastExponent ≤ gridExponent num den ∧
      (num : ℚ) / den < 2 ^ 53 * 2 ^ gridExponent num den ∧
      (2 ^ 52 * 2 ^ gridExponent num den ≤ (num : ℚ) / den ∨
        gridExponent num den = leastExponent) := by
  obtain ⟨hleft, hright⟩ := two_zpow_log2_le_div hnum hden
  rw [gridExponent_eq]
  generalize (num.log2 : ℤ) - den.log2 = diff at *
  obtain ⟨hpos, hquot⟩ := inUnits_spec num hden (diff - 53)
  -- The test tells on which of two grids the quotient has 53 digits.
  obtain ⟨unit, hunit, hl, hr⟩ : ∃ unit,
      (if (inUnits num den (diff - 53)).1 / (inUnits num den (diff - 53)).2 < 2 ^ 53
        then diff - 53 else diff - 53 + 1) = unit ∧
      (2 : ℚ) ^ 52 * 2 ^ unit ≤ num / den ∧ (num : ℚ) / den < 2 ^ 53 * 2 ^ unit := by
    have htest : (inUnits num den (diff - 53)).1 / (inUnits num den (diff - 53)).2 < 2 ^ 53 ↔
        (num : ℚ) / den < 2 ^ 53 * 2 ^ (diff - 53) := by
      rw [Nat.div_lt_iff_lt_mul hpos, ← div_lt_iff₀ (two_zpow_pos _), ← hquot,
        div_lt_iff₀ (by exact_mod_cast hpos)]
      norm_cast
    have hscale (k unit : ℤ) : (2 : ℚ) ^ k * 2 ^ unit = 2 ^ (k + unit) :=
      (zpow_add₀ (by norm_num) k unit).symm
    have h52 := hscale 52 (diff - 53)
    have h53 := hscale 53 (diff - 53 + 1)
    rw [show (52 : ℤ) + (diff - 53) = diff - 1 by ring] at h52
    rw [show (53 : ℤ) + (diff - 53 + 1) = diff + 1 by ring] at h53
    by_cases h : (num : ℚ) / den < 2 ^ 53 * 2 ^ (diff - 53)
    · exact ⟨_, if_pos (htest.mpr h), h52.trans_le hleft, h⟩
    · refine ⟨_, if_neg (fun hlt => h (htest.mp hlt)), ?_, hright.trans_eq h53.symm⟩
      rw [zpow_add_one₀ (by norm_num)]
      linarith
  show leastExponent ≤ max (ite _ _ _) _ ∧ _ < 2 ^ 53 * 2 ^ max (ite _ _ _) _ ∧
    (2 ^ 52 * 2 ^ max (ite _ _ _) _ ≤ _ ∨ max (ite _ _ _) _ = _)
  rw [hunit]
  refine ⟨le_max_right _ _, hr.trans_le ?_, ?_⟩
  · exact mul_le_mul_of_nonneg_left (zpow_le_zpow_right₀ (by norm_num) (le_max_left _ _))
      (by positivity)
  · rcases le_total leastExponent unit with hle | hle
    · rw [max_eq_left hle]
      exact Or.inl hl
    · exact Or.inr (max_eq_right hle)

theorem make_of_lt {negative : Bool} {m : ℕ} (h : m < 2 ^ 53) (e : ℤ) :
    make negative m e =
      if e ≤ greatestExponent then .finite negative m e else .infinite negative := by
  have hne : m ≠ Nat.pow 2 precision := h.ne
  rw [make, if_neg hne]

theorem make_carry (negative : Bool) (e : ℤ) :
    make negative (2 ^ 53) e =
      if e + 1 ≤ greatestExponent then .finite negative (2 ^ 52) (e + 1)
      else .infinite negative := rfl

theorem overflowEnd_le {q : ℚ} (h : (2 ^ 53 - 1 / 2) * 2 ^ greatestExponent ≤ q) :
    overflowEnd ≤ q := by
  refine le_trans (le_of_eq ?_) h
  rw [overflowEnd, upperEnd, Nat.cast_sub Nat.one_le_two_pow]
  push_cast
  ring

-- A quotient on its grid, rounded to the nearest mantissa.
theorem roundsTo_make (negative : Bool) {n d : ℕ} (hd : 0 < d) {e : ℤ} (he : leastExponent ≤ e)
    (hlt : (n : ℚ) / d < 2 ^ 53) (hle : 2 ^ 52 ≤ (n : ℚ) / d ∨ e = leastExponent) :
    RoundsTo negative (n / d * 2 ^ e) (make negative (roundHalfEven n d) e) := by
  obtain ⟨hlow, hup, hodd⟩ := roundHalfEven_near n hd
  generalize roundHalfEven n d = r at *
  generalize (n : ℚ) / d = x at *
  have hpos := two_zpow_pos e
  have hdouble : (2 : ℚ) ^ (e + 1) = 2 * 2 ^ e := by rw [zpow_add_one₀ (by norm_num), mul_comm]
  have hr : r ≤ 2 ^ 53 := by
    have h : (r : ℚ) < (2 ^ 53 + 1 : ℕ) := by
      push_cast
      linarith
    exact Nat.le_of_lt_succ (by exact_mod_cast h)
  rcases hr.eq_or_lt with rfl | hr
  · push_cast at hlow hup
    rw [make_carry]
    split
    · rename_i hgreatest
      have hhalf : x * 2 ^ e = x / 2 * 2 ^ (e + 1) := by
        rw [hdouble]
        ring
      refine .finite ⟨by norm_num, by omega, hgreatest, Or.inl (le_refl _)⟩ ?_
      rw [hhalf, attracts_mul_iff, quartersBelow_eq, if_pos ⟨rfl, by omega⟩]
      push_cast
      exact ⟨by linarith, by linarith, fun h => absurd h (by norm_num)⟩
    · rename_i hgreatest
      refine .infinite (overflowEnd_le ?_)
      exact mul_le_mul (by linarith) (zpow_le_zpow_right₀ (by norm_num) (by omega))
        (two_zpow_pos _).le (by linarith)
  · rw [make_of_lt hr]
    split
    · rename_i hgreatest
      refine .finite ⟨hr, he, hgreatest, hle.imp (fun h => ?_) id⟩ (attracts_mul_iff.mpr ?_)
      · have h' : ((2 ^ 52 : ℕ) : ℚ) < r + 1 := by
          push_cast
          linarith
        exact Nat.le_of_lt_succ (by exact_mod_cast h')
      · rw [quartersBelow_eq]
        split
        -- Below a power of two the grid is finer, but the quotient is not below it.
        · rename_i h
          have hle' := hle.resolve_right h.2.ne'
          rw [h.1] at hodd hup ⊢
          push_cast at hup ⊢
          exact ⟨by linarith, hup, fun h => absurd h (by norm_num)⟩
        · push_cast
          exact ⟨by linarith, hup, fun h => ⟨by linarith [hodd h], (hodd h).2⟩⟩
    · rename_i hgreatest
      have hle' := hle.resolve_right (fun h => by rw [h] at hgreatest; exact hgreatest (by decide))
      have hstep : (2 : ℚ) ^ (greatestExponent + 1) ≤ 2 ^ e :=
        zpow_le_zpow_right₀ (by norm_num) (by omega)
      rw [zpow_add_one₀ (by norm_num)] at hstep
      refine .infinite (overflowEnd_le ?_)
      calc ((2 : ℚ) ^ 53 - 1 / 2) * 2 ^ greatestExponent
          ≤ 2 ^ 52 * (2 ^ greatestExponent * 2) := by linarith [two_zpow_pos greatestExponent]
        _ ≤ x * 2 ^ e := mul_le_mul hle' hstep (by positivity) (by linarith)

theorem roundsTo_ofRatio (negative : Bool) (num : ℕ) {den : ℕ} (h : 0 < den) :
    RoundsTo negative (num / den) (ofRatio negative num den) := by
  by_cases hnum : num = 0
  · rw [ofRatio, if_pos hnum, hnum, Nat.cast_zero, zero_div]
    exact roundsTo_zero negative
  · obtain ⟨hleast, hlt, hle⟩ := gridExponent_spec hnum h
    obtain ⟨hpos, hquot⟩ := inUnits_spec num h (gridExponent num den)
    have hunit := two_zpow_pos (gridExponent num den)
    have hself : (num : ℚ) / den =
        (inUnits num den (gridExponent num den)).1 / (inUnits num den (gridExponent num den)).2 *
          2 ^ gridExponent num den := by
      rw [hquot, div_mul_cancel₀ _ hunit.ne']
    rw [ofRatio, if_neg hnum, hself]
    apply roundsTo_make negative hpos hleast
    · rw [hquot, div_lt_iff₀ hunit]
      exact hlt
    · rw [hquot, le_div_iff₀ hunit]
      exact hle

/-- A decimal is read as the number nearest to it. -/
theorem roundsTo_ofDecimal (negative : Bool) (d : Decimal) :
    RoundsTo negative d.value (ofDecimal negative d) := by
  obtain ⟨c, e⟩ := d
  unfold ofDecimal Decimal.value
  dsimp only
  split
  · rename_i hc
    rw [hc, Nat.cast_zero, zero_mul]
    exact roundsTo_zero negative
  rename_i hc
  have hten : (0 : ℚ) < 10 ^ e := by positivity
  split
  · rename_i hlarge
    have hc1 : (1 : ℚ) ≤ c := by exact_mod_cast Nat.one_le_iff_ne_zero.mpr hc
    refine .infinite (overflowEnd_le ?_)
    calc ((2 : ℚ) ^ 53 - 1 / 2) * 2 ^ greatestExponent ≤ 2 ^ (53 : ℤ) * 2 ^ greatestExponent :=
          mul_le_mul_of_nonneg_right (by norm_num) (two_zpow_pos _).le
      _ = 2 ^ (53 + greatestExponent) := (zpow_add₀ (by norm_num) _ _).symm
      _ ≤ 10 ^ largestScale := two_zpow_le_ten_zpow (by decide) (by decide)
      _ ≤ 10 ^ e := zpow_le_zpow_right₀ (by norm_num) hlarge.le
      _ ≤ c * 10 ^ e := le_mul_of_one_le_left hten.le hc1
  split
  · rename_i _ hsmall
    rw [leastExponent] at hsmall
    have hc2 : (c : ℚ) ≤ 2 ^ ((c.log2 : ℤ) + 1) := by exact_mod_cast Nat.lt_log2_self.le
    refine roundsTo_zero_of_le negative (by positivity) ?_
    calc (c : ℚ) * 10 ^ e ≤ 2 ^ ((c.log2 : ℤ) + 1) * 2 ^ (3 * e) :=
          mul_le_mul hc2 (ten_zpow_le_two_zpow (by omega) (by omega)) hten.le (by positivity)
      _ = 2 ^ ((c.log2 : ℤ) + 1 + 3 * e) := (zpow_add₀ (by norm_num) _ _).symm
      _ ≤ 2 ^ (leastExponent - 1) := zpow_le_zpow_right₀ (by norm_num) (by rw [leastExponent]; omega)
      _ = upperEnd 0 leastExponent := by
          rw [upperEnd, zpow_sub_one₀ (by norm_num)]
          push_cast
          ring
  split
  · rename_i he
    lift e to ℕ using he
    have h := roundsTo_ofRatio negative (c * 10 ^ e) Nat.one_pos
    rw [Nat.cast_mul, Nat.cast_pow, Nat.cast_one, div_one] at h
    exact h
  · rename_i he
    obtain ⟨k, rfl⟩ : ∃ k : ℕ, e = -k := ⟨(-e).toNat, by omega⟩
    have h := roundsTo_ofRatio negative c (Nat.pow_pos (by decide) : 0 < 10 ^ k)
    rw [Nat.cast_pow, div_eq_mul_inv] at h
    rw [zpow_neg, zpow_natCast, neg_neg, Int.toNat_natCast]
    exact h

theorem ofDecimal_congr {negative : Bool} {d d' : Decimal} (h : d.value = d'.value) :
    ofDecimal negative d = ofDecimal negative d' := by
  have hround := roundsTo_ofDecimal negative d
  rw [h] at hround
  exact hround.unique (roundsTo_ofDecimal negative d')

theorem isProper_of_ofDecimal {negative sign : Bool} {d : Decimal} {m : ℕ} {e : ℤ}
    (h : ofDecimal negative d = .finite sign m e) : IsProper m e := by
  have hround := roundsTo_ofDecimal negative d
  rw [h] at hround
  cases hround with
  | finite proper _ => exact proper

/-- A product is rounded once. -/
theorem roundsTo_scale (negative : Bool) (m : ℕ) (e : ℤ) (factor : ℕ) :
    RoundsTo negative (magnitude m e * factor) (scale factor (.finite negative m e)) := by
  unfold scale magnitude
  dsimp only
  split
  · rename_i he
    lift e to ℕ using he
    have h := roundsTo_ofRatio negative (m * factor * 2 ^ e) Nat.one_pos
    rw [Nat.cast_mul, Nat.cast_mul, Nat.cast_pow, Nat.cast_one, div_one] at h
    rw [mul_right_comm]
    exact h
  · rename_i he
    obtain ⟨k, rfl⟩ : ∃ k : ℕ, e = -k := ⟨(-e).toNat, by omega⟩
    have h := roundsTo_ofRatio negative (m * factor) (Nat.two_pow_pos k)
    rw [Nat.cast_mul, Nat.cast_pow, div_eq_mul_inv] at h
    rw [zpow_neg, zpow_natCast, neg_neg, Int.toNat_natCast, mul_right_comm]
    exact h

end Binary64

end LinkedSheets
