import LinkedSheets.Number.Shortest
import Mathlib

/-!
# The nearest number

Which magnitudes are rounded to which binary number, said on rational numbers. The magnitudes that
are nearest to a number form an interval around it, its ends belong to even mantissas, and no two of
these intervals have a point in common: a magnitude is rounded to one number.
-/

namespace LinkedSheets

namespace Binary64

/-- The mantissas and exponents of the finite numbers, one pair for each. -/
structure IsProper (m : ℕ) (e : ℤ) : Prop where
  mantissa_lt : m < 2 ^ 53
  least_le : leastExponent ≤ e
  le_greatest : e ≤ greatestExponent
  leading : 2 ^ 52 ≤ m ∨ e = leastExponent

def magnitude (m : ℕ) (e : ℤ) : ℚ := m * 2 ^ e

/-- Half way from a number to the one below it. -/
def lowerEnd (m : ℕ) (e : ℤ) : ℚ := (m - quartersBelow m e / 4) * 2 ^ e

/-- Half way from a number to the one above it. -/
def upperEnd (m : ℕ) (e : ℤ) : ℚ := (m + 1 / 2) * 2 ^ e

/-- The magnitudes that are nearest to `m * 2 ^ e`. Those half way to a neighbour are among them if
the mantissa is even. -/
structure Attracts (m : ℕ) (e : ℤ) (q : ℚ) : Prop where
  lower_le : lowerEnd m e ≤ q
  le_upper : q ≤ upperEnd m e
  inside : m % 2 = 1 → lowerEnd m e < q ∧ q < upperEnd m e

/-- Half way from the greatest number to the next one there would be. -/
def overflowEnd : ℚ := upperEnd (2 ^ 53 - 1) greatestExponent

/-- What a magnitude is rounded to. -/
inductive RoundsTo (negative : Bool) (q : ℚ) : Binary64 → Prop where
  | finite {m : ℕ} {e : ℤ} (proper : IsProper m e) (near : Attracts m e q) :
      RoundsTo negative q (.finite negative m e)
  | infinite (h : overflowEnd ≤ q) : RoundsTo negative q (.infinite negative)

theorem two_zpow_pos (e : ℤ) : (0 : ℚ) < 2 ^ e := by positivity

theorem quartersBelow_eq (m : ℕ) (e : ℤ) :
    quartersBelow m e = if m = 2 ^ 52 ∧ leastExponent < e then 1 else 2 := rfl

theorem quartersBelow_le (m : ℕ) (e : ℤ) : (quartersBelow m e : ℚ) ≤ 2 := by
  rw [quartersBelow_eq]
  split <;> norm_num

theorem one_le_quartersBelow (m : ℕ) (e : ℤ) : (1 : ℚ) ≤ quartersBelow m e := by
  rw [quartersBelow_eq]
  split <;> norm_num

-- On the grid of a number the ends are those of the mantissa.
theorem attracts_mul_iff {m : ℕ} {e : ℤ} {x : ℚ} :
    Attracts m e (x * 2 ^ e) ↔
      m - quartersBelow m e / 4 ≤ x ∧ x ≤ m + 1 / 2 ∧
        (m % 2 = 1 → m - quartersBelow m e / 4 < x ∧ x < m + 1 / 2) := by
  have hpos := two_zpow_pos e
  constructor
  · intro h
    exact ⟨le_of_mul_le_mul_right h.lower_le hpos, le_of_mul_le_mul_right h.le_upper hpos,
      fun hodd => ⟨lt_of_mul_lt_mul_right (h.inside hodd).1 hpos.le,
        lt_of_mul_lt_mul_right (h.inside hodd).2 hpos.le⟩⟩
  · rintro ⟨hlow, hup, hodd⟩
    exact ⟨mul_le_mul_of_nonneg_right hlow hpos.le, mul_le_mul_of_nonneg_right hup hpos.le,
      fun h => ⟨mul_lt_mul_of_pos_right (hodd h).1 hpos, mul_lt_mul_of_pos_right (hodd h).2 hpos⟩⟩

theorem attracts_magnitude (m : ℕ) (e : ℤ) : Attracts m e (magnitude m e) := by
  have hquarters := one_le_quartersBelow m e
  exact attracts_mul_iff.mpr ⟨by linarith, by linarith, fun _ => ⟨by linarith, by linarith⟩⟩

theorem Attracts.of_between {m : ℕ} {e : ℤ} {a b q : ℚ} (ha : Attracts m e a)
    (hb : Attracts m e b) (haq : a ≤ q) (hqb : q ≤ b) : Attracts m e q :=
  ⟨ha.lower_le.trans haq, hqb.trans hb.le_upper,
    fun h => ⟨(ha.inside h).1.trans_le haq, hqb.trans_lt (hb.inside h).2⟩⟩

/-! ### The neighbours of a number -/

theorem magnitude_lt_of_exponent_lt {m m' : ℕ} {e e' : ℤ} (hm : IsProper m e) (hm' : IsProper m' e')
    (he : e < e') : magnitude m e < magnitude m' e' := by
  have hbound : (m : ℚ) < 2 ^ 53 := by exact_mod_cast hm.mantissa_lt
  have hleading : (2 : ℚ) ^ 52 ≤ m' := by
    exact_mod_cast hm'.leading.resolve_right (hm.least_le.trans_lt he).ne'
  have hdouble : (2 : ℚ) ^ (e + 1) ≤ 2 ^ e' := zpow_le_zpow_right₀ (by norm_num) he
  calc magnitude m e < 2 ^ 53 * 2 ^ e := mul_lt_mul_of_pos_right hbound (two_zpow_pos e)
    _ = 2 ^ 52 * 2 ^ (e + 1) := by rw [zpow_add_one₀ (by norm_num)]; ring
    _ ≤ m' * 2 ^ e' := mul_le_mul hleading hdouble (two_zpow_pos _).le (Nat.cast_nonneg m')

theorem exponent_le_of_magnitude_lt {m m' : ℕ} {e e' : ℤ} (hm : IsProper m e) (hm' : IsProper m' e')
    (h : magnitude m e < magnitude m' e') : e ≤ e' :=
  not_lt.mp fun hlt => h.asymm (magnitude_lt_of_exponent_lt hm' hm hlt)

theorem add_le_of_magnitude_lt {m m' : ℕ} {e e' : ℤ} (hm : IsProper m e) (hm' : IsProper m' e')
    (h : magnitude m e < magnitude m' e') : (m + 1) * 2 ^ e ≤ magnitude m' e' := by
  obtain ⟨k, rfl⟩ : ∃ k : ℕ, e' = k + e :=
    ⟨(e' - e).toNat, by have := exponent_le_of_magnitude_lt hm hm' h; omega⟩
  have hself : magnitude m' (k + e) = (m' * 2 ^ k : ℕ) * 2 ^ e := by
    rw [magnitude, zpow_add₀ (by norm_num), zpow_natCast]
    push_cast
    ring
  rw [hself, magnitude] at h
  have hlt : m < m' * 2 ^ k := by exact_mod_cast lt_of_mul_lt_mul_right h (two_zpow_pos e).le
  rw [hself]
  exact mul_le_mul_of_nonneg_right (by exact_mod_cast hlt) (two_zpow_pos e).le

-- Below a power of two the next number is half as far away.
theorem le_sub_of_magnitude_lt {m m' : ℕ} {e e' : ℤ} (hm : IsProper m e) (hm' : IsProper m' e')
    (h : magnitude m' e' < magnitude m e) :
    magnitude m' e' ≤ (m - quartersBelow m e / 2) * 2 ^ e := by
  have hquarters := quartersBelow_le m e
  have hpos := two_zpow_pos e
  rcases (exponent_le_of_magnitude_lt hm' hm h).eq_or_lt with rfl | hlt
  · have hstep : (m' : ℚ) + 1 ≤ m := by
      exact_mod_cast (lt_of_mul_lt_mul_right h hpos.le : (m' : ℚ) < m)
    exact mul_le_mul_of_nonneg_right (by linarith) hpos.le
  · have hleast : leastExponent < e := hm'.least_le.trans_lt hlt
    have hleading : 2 ^ 52 ≤ m := hm.leading.resolve_right hleast.ne'
    have hbound : (m' : ℚ) + 1 ≤ 2 ^ 53 := by exact_mod_cast hm'.mantissa_lt
    have hdouble : (2 : ℚ) ^ (e' + 1) ≤ 2 ^ e := zpow_le_zpow_right₀ (by norm_num) hlt
    have hgap : (2 : ℚ) ^ 52 - 1 / 2 ≤ m - quartersBelow m e / 2 := by
      rcases hleading.eq_or_lt with heq | hlt'
      · rw [quartersBelow_eq, if_pos ⟨heq.symm, hleast⟩, ← heq]
        norm_num
      · have hm1 : (2 : ℚ) ^ 52 + 1 ≤ m := by exact_mod_cast hlt'
        linarith
    calc magnitude m' e' ≤ (2 ^ 53 - 1) * 2 ^ e' :=
          mul_le_mul_of_nonneg_right (by linarith) (two_zpow_pos e').le
      _ = (2 ^ 52 - 1 / 2) * 2 ^ (e' + 1) := by rw [zpow_add_one₀ (by norm_num)]; ring
      _ ≤ (2 ^ 52 - 1 / 2) * 2 ^ e := mul_le_mul_of_nonneg_left hdouble (by norm_num)
      _ ≤ (m - quartersBelow m e / 2) * 2 ^ e := mul_le_mul_of_nonneg_right hgap hpos.le

/-- No number is nearer to a magnitude than the one it is rounded to. -/
theorem Attracts.nearest {m m' : ℕ} {e e' : ℤ} {q : ℚ} (h : Attracts m e q) (hm : IsProper m e)
    (hm' : IsProper m' e') : |q - magnitude m e| ≤ |q - magnitude m' e'| := by
  have hlow := h.lower_le
  have hup := h.le_upper
  have hself : magnitude m e = m * 2 ^ e := rfl
  rw [lowerEnd, sub_mul] at hlow
  rw [upperEnd, add_mul] at hup
  rcases lt_trichotomy (magnitude m' e') (magnitude m e) with hlt | heq | hlt
  · have hgap := le_sub_of_magnitude_lt hm hm' hlt
    rw [sub_mul] at hgap
    exact le_abs.mpr (Or.inl (abs_le.mpr ⟨by linarith, by linarith⟩))
  · rw [heq]
  · have hgap := add_le_of_magnitude_lt hm hm' hlt
    rw [add_mul, one_mul] at hgap
    exact le_abs.mpr (Or.inr (abs_le.mpr ⟨by linarith, by linarith⟩))

/-! ### Each magnitude is rounded to one number -/

theorem upperEnd_le_lowerEnd {m m' : ℕ} {e : ℤ} (h : m < m') : upperEnd m e ≤ lowerEnd m' e := by
  have hquarters := quartersBelow_le m' e
  have hm : (m : ℚ) + 1 ≤ m' := by exact_mod_cast h
  exact mul_le_mul_of_nonneg_right (by linarith) (two_zpow_pos e).le

theorem upperEnd_le_lowerEnd_of_lt {m m' : ℕ} {e e' : ℤ} (h : IsProper m e) (h' : IsProper m' e')
    (he : e < e') : upperEnd m e ≤ lowerEnd m' e' := by
  have hlt := magnitude_lt_of_exponent_lt h h' he
  have hbelow := le_sub_of_magnitude_lt h' h hlt
  have habove := add_le_of_magnitude_lt h h' hlt
  rw [magnitude] at hbelow habove
  rw [upperEnd, lowerEnd]
  linarith

-- An end belongs to its even mantissa, and the mantissa after an even one is odd.
theorem Attracts.lt {m : ℕ} {e : ℤ} {q bound : ℚ} (h : Attracts m e q)
    (hself : upperEnd m e ≤ bound) (hnext : m % 2 = 0 → upperEnd (m + 1) e ≤ bound) :
    q < bound := by
  rcases Nat.mod_two_eq_zero_or_one m with heven | hodd
  · have hstep : upperEnd m e < upperEnd (m + 1) e := by
      apply mul_lt_mul_of_pos_right _ (two_zpow_pos e)
      push_cast
      linarith
    exact h.le_upper.trans_lt (hstep.trans_le (hnext heven))
  · exact (h.inside hodd).2.trans_le hself

theorem IsProper.succ {m : ℕ} {e : ℤ} (h : IsProper m e) (heven : m % 2 = 0) :
    IsProper (m + 1) e := by
  have hlt := h.mantissa_lt
  exact ⟨by omega, h.least_le, h.le_greatest, h.leading.imp (by omega) id⟩

theorem Attracts.mantissa_le {m m' : ℕ} {e : ℤ} {q : ℚ} (h : Attracts m e q)
    (h' : Attracts m' e q) : m' ≤ m := by
  by_contra hlt
  rw [Nat.not_le] at hlt
  rcases Nat.mod_two_eq_zero_or_one m' with heven | hodd
  · refine (h.lt (upperEnd_le_lowerEnd hlt) fun hm => ?_).not_ge h'.lower_le
    exact upperEnd_le_lowerEnd (by omega)
  · exact (h.le_upper.trans (upperEnd_le_lowerEnd hlt)).not_gt (h'.inside hodd).1

theorem Attracts.exponent_le {m m' : ℕ} {e e' : ℤ} {q : ℚ} (hm : IsProper m e)
    (hm' : IsProper m' e') (h : Attracts m e q) (h' : Attracts m' e' q) : e' ≤ e := by
  by_contra hlt
  rw [not_le] at hlt
  exact (h.lt (upperEnd_le_lowerEnd_of_lt hm hm' hlt) fun heven =>
    upperEnd_le_lowerEnd_of_lt (hm.succ heven) hm' hlt).not_ge h'.lower_le

theorem upperEnd_le_overflowEnd {m : ℕ} {e : ℤ} (h : IsProper m e) :
    upperEnd m e ≤ overflowEnd := by
  have hm : (m : ℚ) ≤ (2 ^ 53 - 1 : ℕ) := by exact_mod_cast Nat.le_pred_of_lt h.mantissa_lt
  exact mul_le_mul (add_le_add hm le_rfl) (zpow_le_zpow_right₀ (by norm_num) h.le_greatest)
    (two_zpow_pos e).le (by positivity)

theorem RoundsTo.unique {negative : Bool} {q : ℚ} {x y : Binary64} (hx : RoundsTo negative q x)
    (hy : RoundsTo negative q y) : x = y := by
  cases hx with
  | finite hm h =>
    cases hy with
    | finite hm' h' =>
      obtain rfl := le_antisymm (h'.exponent_le hm' hm h) (h.exponent_le hm hm' h')
      rw [le_antisymm (h'.mantissa_le h) (h.mantissa_le h')]
    | infinite h' =>
      exact absurd h' (h.lt (upperEnd_le_overflowEnd hm) fun heven =>
        upperEnd_le_overflowEnd (hm.succ heven)).not_ge
  | infinite h =>
    cases hy with
    | finite hm' h' =>
      exact absurd h (h'.lt (upperEnd_le_overflowEnd hm') fun heven =>
        upperEnd_le_overflowEnd (hm'.succ heven)).not_ge
    | infinite => rfl

/-! ### Magnitudes of fifteen digits before the point -/

theorem lt_overflowEnd {q : ℚ} (h : q < 2 ^ 64) : q < overflowEnd := by
  have hgreatest : (2 : ℚ) ^ 12 ≤ 2 ^ greatestExponent := by
    rw [← zpow_natCast]
    exact zpow_le_zpow_right₀ (by norm_num) (by decide)
  calc q < 2 ^ 64 := h
    _ ≤ (((2 ^ 53 - 1 : ℕ) : ℚ) + 1 / 2) * 2 ^ 12 := by norm_num
    _ ≤ overflowEnd := mul_le_mul_of_nonneg_left hgreatest (by positivity)

theorem Attracts.exponent_neg {m : ℕ} {e : ℤ} {q : ℚ} (h : IsProper m e) (hnear : Attracts m e q)
    (hq : q < 10 ^ 15) : e < 0 := by
  by_contra he
  have hm : (2 : ℚ) ^ 52 ≤ m := by
    exact_mod_cast h.leading.resolve_right (by rw [leastExponent]; omega)
  have hquarters := quartersBelow_le m e
  have hone : (1 : ℚ) ≤ 2 ^ e := one_le_zpow₀ (by norm_num) (by omega)
  have hlow : (2 : ℚ) ^ 52 - 1 / 2 ≤ m - quartersBelow m e / 4 := by linarith
  have hlarge : (10 : ℚ) ^ 15 ≤ lowerEnd m e := by
    calc (10 : ℚ) ^ 15 ≤ (2 ^ 52 - 1 / 2) * 1 := by norm_num
      _ ≤ lowerEnd m e := mul_le_mul hlow hone zero_le_one (by linarith)
  exact (hlarge.trans hnear.lower_le).not_gt hq

end Binary64

end LinkedSheets
