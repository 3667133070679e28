import LinkedSheets.Proofs.Number.Operations

/-!
# Shortest decimals

The shortest decimal of a number is nearest to that number, so that it is read back as the number,
and no multiple of a larger power of ten is. The search for it always ends with such a decimal.
-/

namespace LinkedSheets

-- Either rule takes one of the two neighbours.
theorem HalfRule.round_eq_or (half : HalfRule) (num : ℕ) {den : ℕ} (h : 0 < den) :
    half.round num den = num / den ∨ half.round num den = num / den + 1 := by
  cases half with
  | toEven =>
    show roundHalfEven num den = _ ∨ roundHalfEven num den = _
    unfold roundHalfEven
    dsimp only
    split
    · exact Or.inl rfl
    · split
      · exact Or.inr rfl
      · rcases Nat.mod_two_eq_zero_or_one (num / den) with hmod | hmod <;> rw [hmod]
        · exact Or.inl rfl
        · exact Or.inr rfl
  | up =>
    have hlow : num / den * (2 * den) ≤ 2 * num + den := by
      have := Nat.div_mul_le_self num den
      linarith
    have hup : 2 * num + den < (num / den + 2) * (2 * den) := by
      have := Nat.lt_div_mul_add (a := num) h
      linarith
    have hle : num / den ≤ roundHalfUp num den := (Nat.le_div_iff_mul_le (by omega)).mpr hlow
    have hlt : roundHalfUp num den < num / den + 2 := (Nat.div_lt_iff_lt_mul (by omega)).mpr hup
    show roundHalfUp num den = _ ∨ roundHalfUp num den = _
    omega

namespace Binary64

-- Both grids are measured in the same unit.
theorem commonScale_spec (power exponent : ℤ) :
    ∃ unit : ℚ, 0 < unit ∧ ((commonScale power exponent).1 : ℚ) = 10 ^ power * unit ∧
      ((commonScale power exponent).2 : ℚ) * 4 = 2 ^ exponent * unit := by
  have hsplit (base : ℚ) (hbase : base ≠ 0) (k : ℤ) :
      base ^ k.toNat = base ^ k * base ^ (-k).toNat := by
    rw [← zpow_natCast, ← zpow_natCast, ← zpow_add₀ hbase]
    congr 1
    omega
  refine ⟨10 ^ (-power).toNat * 2 ^ (-(exponent - 2)).toNat, by positivity, ?_, ?_⟩
  · rw [commonScale, Nat.cast_mul, Nat.pow_eq, Nat.pow_eq, Nat.cast_pow, Nat.cast_pow,
      Nat.cast_ofNat, Nat.cast_ofNat, hsplit 10 (by norm_num) power, mul_assoc]
  · have hquarter : (2 : ℚ) ^ exponent = 2 ^ (exponent - 2) * 4 := by
      rw [zpow_sub₀ (by norm_num)]
      norm_num
    rw [commonScale, Nat.cast_mul, Nat.pow_eq, Nat.pow_eq, Nat.cast_pow, Nat.cast_pow,
      Nat.cast_ofNat, Nat.cast_ofNat, hsplit 2 (by norm_num) (exponent - 2), hquarter]
    ring

theorem commonScale_pos (power exponent : ℤ) : 0 < (commonScale power exponent).1 :=
  Nat.mul_pos (Nat.pow_pos (by decide)) (Nat.pow_pos (by decide))

/-- Whether a multiple of `10 ^ power` is close enough to be read as the number. -/
def isClose (m : ℕ) (exponent power : ℤ) (d : ℕ) : Bool :=
  let (a, b) := commonScale power exponent
  if m % 2 = 0 then
    (4 * m - quartersBelow m exponent) * b ≤ d * a && d * a ≤ (4 * m + 2) * b
  else (4 * m - quartersBelow m exponent) * b < d * a && d * a < (4 * m + 2) * b

theorem isClose_iff {m : ℕ} (hm : m ≠ 0) (exponent power : ℤ) (d : ℕ) :
    isClose m exponent power d = true ↔ Attracts m exponent (d * 10 ^ power) := by
  obtain ⟨unit, hunit, ha, hb⟩ := commonScale_spec power exponent
  generalize hscale : commonScale power exponent = scale at ha hb
  obtain ⟨a, b⟩ := scale
  dsimp only at ha hb
  have hquarters : quartersBelow m exponent ≤ 4 * m := by
    have : quartersBelow m exponent ≤ 2 := by exact_mod_cast quartersBelow_le m exponent
    omega
  have hd : ((d * a : ℕ) : ℚ) = d * 10 ^ power * unit := by
    rw [Nat.cast_mul, ha, mul_assoc]
  have hlow : (((4 * m - quartersBelow m exponent) * b : ℕ) : ℚ) = lowerEnd m exponent * unit := by
    rw [Nat.cast_mul, Nat.cast_sub hquarters, lowerEnd, mul_assoc, ← hb]
    push_cast
    ring
  have hup : (((4 * m + 2) * b : ℕ) : ℚ) = upperEnd m exponent * unit := by
    rw [Nat.cast_mul, upperEnd, mul_assoc, ← hb]
    push_cast
    ring
  have hle : (4 * m - quartersBelow m exponent) * b ≤ d * a ↔
      lowerEnd m exponent ≤ d * 10 ^ power := by
    rw [← Nat.cast_le (α := ℚ), hlow, hd, mul_le_mul_iff_left₀ hunit]
  have hge : d * a ≤ (4 * m + 2) * b ↔ d * 10 ^ power ≤ upperEnd m exponent := by
    rw [← Nat.cast_le (α := ℚ), hup, hd, mul_le_mul_iff_left₀ hunit]
  have hlt : (4 * m - quartersBelow m exponent) * b < d * a ↔
      lowerEnd m exponent < d * 10 ^ power := by
    rw [← Nat.cast_lt (α := ℚ), hlow, hd, mul_lt_mul_iff_left₀ hunit]
  have hgt : d * a < (4 * m + 2) * b ↔ d * 10 ^ power < upperEnd m exponent := by
    rw [← Nat.cast_lt (α := ℚ), hup, hd, mul_lt_mul_iff_left₀ hunit]
  unfold isClose
  rw [hscale]
  dsimp only
  split
  · rename_i heven
    rw [Bool.and_eq_true, decide_eq_true_eq, decide_eq_true_eq, hle, hge]
    exact ⟨fun h => ⟨h.1, h.2, fun hodd => by omega⟩, fun h => ⟨h.lower_le, h.le_upper⟩⟩
  · rename_i hodd
    rw [Bool.and_eq_true, decide_eq_true_eq, decide_eq_true_eq, hlt, hgt]
    exact ⟨fun h => ⟨h.1.le, h.2.le, fun _ => h⟩, fun h => h.inside (by omega)⟩

theorem decimalAt?_eq (half : HalfRule) (m : ℕ) (exponent power : ℤ) :
    decimalAt? half m exponent power =
      let scale := commonScale power exponent
      let value := 4 * m * scale.2
      if isClose m exponent power (value / scale.1) &&
          isClose m exponent power (value / scale.1 + 1) then
        some (half.round value scale.1)
      else if isClose m exponent power (value / scale.1) then some (value / scale.1)
      else if isClose m exponent power (value / scale.1 + 1) then some (value / scale.1 + 1)
      else none := rfl

-- The two multiples of the power of ten around the number.
theorem between_multiples (m : ℕ) (exponent power : ℤ) :
    ((4 * m * (commonScale power exponent).2 / (commonScale power exponent).1 : ℕ) : ℚ) *
        10 ^ power ≤ magnitude m exponent ∧
      magnitude m exponent <
        ((4 * m * (commonScale power exponent).2 / (commonScale power exponent).1 + 1 : ℕ) : ℚ) *
          10 ^ power := by
  obtain ⟨unit, hunit, ha, hb⟩ := commonScale_spec power exponent
  have hpos := commonScale_pos power exponent
  generalize commonScale power exponent = scale at *
  have hvalue : ((4 * m * scale.2 : ℕ) : ℚ) = magnitude m exponent * unit := by
    rw [magnitude, mul_assoc (m : ℚ), ← hb]
    push_cast
    ring
  have hmultiple (k : ℕ) : ((k * scale.1 : ℕ) : ℚ) = k * 10 ^ power * unit := by
    rw [Nat.cast_mul, ha, mul_assoc]
  constructor
  · rw [← mul_le_mul_iff_left₀ hunit, ← hvalue, ← hmultiple, Nat.cast_le]
    exact Nat.div_mul_le_self _ _
  · rw [← mul_lt_mul_iff_left₀ hunit, ← hvalue, ← hmultiple, Nat.cast_lt, Nat.add_mul,
      Nat.one_mul]
    exact Nat.lt_div_mul_add hpos

theorem Attracts.of_decimalAt? {half : HalfRule} {m : ℕ} {exponent power : ℤ} {d : ℕ}
    (hm : m ≠ 0) (h : decimalAt? half m exponent power = some d) :
    Attracts m exponent (d * 10 ^ power) := by
  rw [← isClose_iff hm]
  rw [decimalAt?_eq] at h
  dsimp only at h
  split at h
  · rename_i hboth
    rw [Bool.and_eq_true] at hboth
    obtain rfl := Option.some.inj h
    rcases half.round_eq_or (4 * m * (commonScale power exponent).2)
      (commonScale_pos power exponent) with hround | hround
    · rw [hround]
      exact hboth.1
    · rw [hround]
      exact hboth.2
  · split at h
    · rename_i hbelow
      obtain rfl := Option.some.inj h
      exact hbelow
    · split at h
      · rename_i habove
        obtain rfl := Option.some.inj h
        exact habove
      · exact absurd h (Option.some_ne_none d).symm

-- If any multiple of the power of ten is close enough, one of the two around the number is.
theorem Attracts.exists_decimalAt? (half : HalfRule) {m : ℕ} {exponent power : ℤ} {n : ℕ}
    (hm : m ≠ 0) (h : Attracts m exponent (n * 10 ^ power)) :
    ∃ d, decimalAt? half m exponent power = some d := by
  obtain ⟨hbelow, habove⟩ := between_multiples m exponent power
  rw [decimalAt?_eq]
  dsimp only
  generalize 4 * m * (commonScale power exponent).2 / (commonScale power exponent).1 = below at *
  have hten : (0 : ℚ) < 10 ^ power := by positivity
  have hclose : isClose m exponent power below = true ∨
      isClose m exponent power (below + 1) = true := by
    rw [isClose_iff hm, isClose_iff hm]
    rcases Nat.lt_or_ge below n with hn | hn
    · have hle : ((below + 1 : ℕ) : ℚ) * 10 ^ power ≤ n * 10 ^ power :=
        mul_le_mul_of_nonneg_right (by exact_mod_cast hn) hten.le
      exact Or.inr ((attracts_magnitude m exponent).of_between h habove.le hle)
    · have hle : (n : ℚ) * 10 ^ power ≤ below * 10 ^ power :=
        mul_le_mul_of_nonneg_right (by exact_mod_cast hn) hten.le
      exact Or.inl (h.of_between (attracts_magnitude m exponent) hle hbelow)
  split
  · exact ⟨_, rfl⟩
  · split
    · exact ⟨_, rfl⟩
    · rename_i hno
      rw [if_pos (hclose.resolve_left hno)]
      exact ⟨_, rfl⟩

/-- The search finds the first grid with a point, if one of those it tries has one. -/
theorem searchGrid_spec (half : HalfRule) {m : ℕ} {exponent : ℤ} {fuel : ℕ} {power : ℤ} {i n : ℕ}
    (hm : m ≠ 0) (hi : i < fuel) (h : Attracts m exponent (n * 10 ^ (power - i))) :
    Attracts m exponent (searchGrid half m exponent fuel power).value ∧
      ∀ k, (searchGrid half m exponent fuel power).exponent < k → k ≤ power →
        ∀ n' : ℕ, ¬ Attracts m exponent (n' * 10 ^ k) := by
  induction fuel generalizing power i with
  | zero => exact absurd hi (Nat.not_lt_zero i)
  | succ fuel ih =>
    unfold searchGrid
    split
    · rename_i d hd
      exact ⟨.of_decimalAt? hm hd, fun k hlt hle => absurd hlt hle.not_gt⟩
    · rename_i hnone
      have hfinest (n' : ℕ) : ¬ Attracts m exponent (n' * 10 ^ power) := by
        intro h'
        obtain ⟨d, hd⟩ := h'.exists_decimalAt? half hm
        exact absurd (hd.symm.trans hnone) (Option.some_ne_none d)
      obtain ⟨j, rfl⟩ : ∃ j, i = j + 1 := by
        refine Nat.exists_eq_succ_of_ne_zero fun hzero => ?_
        rw [hzero, Nat.cast_zero, sub_zero] at h
        exact hfinest n h
      have hnext : Attracts m exponent (n * 10 ^ (power - 1 - (j : ℤ))) := by
        rw [sub_sub, add_comm (1 : ℤ)]
        exact_mod_cast h
      obtain ⟨hnear, hshort⟩ := ih (Nat.lt_of_succ_lt_succ hi) hnext
      refine ⟨hnear, fun k hlt hle => ?_⟩
      rcases hle.eq_or_lt with rfl | hlt'
      · exact hfinest
      · exact hshort k hlt (by omega)

-- Nothing but the number zero is nearest to zero.
theorem not_attracts_zero {m : ℕ} (hm : m ≠ 0) (exponent : ℤ) : ¬ Attracts m exponent 0 := by
  intro h
  have hm1 : (1 : ℚ) ≤ m := by exact_mod_cast Nat.one_le_iff_ne_zero.mpr hm
  have hquarters := quartersBelow_le m exponent
  refine h.lower_le.not_gt (mul_pos ?_ (two_zpow_pos exponent))
  linarith

-- The multiples of a power of ten above the number are too far away.
theorem not_attracts_of_le {m : ℕ} {exponent k : ℤ} (hm : m ≠ 0)
    (h : (2 : ℚ) ^ ((m.log2 : ℤ) + 1 + exponent) ≤ 10 ^ k) {n : ℕ} :
    ¬ Attracts m exponent (n * 10 ^ (k + 1)) := by
  intro hnear
  have hn : n ≠ 0 := by
    rintro rfl
    rw [Nat.cast_zero, zero_mul] at hnear
    exact not_attracts_zero hm exponent hnear
  have hn1 : (1 : ℚ) ≤ n := by exact_mod_cast Nat.one_le_iff_ne_zero.mpr hn
  have hlog : (m : ℚ) + 1 ≤ 2 ^ ((m.log2 : ℤ) + 1) := by exact_mod_cast Nat.lt_log2_self
  have hpos := two_zpow_pos exponent
  have hlt : upperEnd m exponent < n * 10 ^ (k + 1) := by
    calc upperEnd m exponent < (m + 1) * 2 ^ exponent :=
          mul_lt_mul_of_pos_right (by linarith) hpos
      _ ≤ 2 ^ ((m.log2 : ℤ) + 1) * 2 ^ exponent := mul_le_mul_of_nonneg_right hlog hpos.le
      _ = 2 ^ ((m.log2 : ℤ) + 1 + exponent) := (zpow_add₀ (by norm_num) _ _).symm
      _ ≤ 10 ^ k := h
      _ ≤ 10 ^ (k + 1) := zpow_le_zpow_right₀ (by norm_num) (by omega)
      _ ≤ n * 10 ^ (k + 1) := le_mul_of_one_le_left (by positivity) hn1
  exact hnear.le_upper.not_gt hlt

-- A grid finer than half the distance to the next number has a point that is close enough.
theorem exists_attracts {m : ℕ} {exponent k : ℤ} (h : (10 : ℚ) ^ k ≤ 2 ^ (exponent - 2)) :
    ∃ n : ℕ, Attracts m exponent (n * 10 ^ k) := by
  obtain ⟨hbelow, habove⟩ := between_multiples m exponent k
  generalize 4 * m * (commonScale k exponent).2 / (commonScale k exponent).1 = below at *
  have hpos := two_zpow_pos exponent
  have hquarter : (2 : ℚ) ^ (exponent - 2) = 2 ^ exponent / 4 := by
    rw [zpow_sub₀ (by norm_num)]
    norm_num
  have hlt : ((below + 1 : ℕ) : ℚ) * 10 ^ k < upperEnd m exponent := by
    rw [Nat.cast_add, Nat.cast_one, add_mul, one_mul, upperEnd, add_mul]
    rw [magnitude] at hbelow
    linarith
  have hself := attracts_magnitude m exponent
  exact ⟨below + 1, hself.lower_le.trans habove.le, hlt.le,
    fun hodd => ⟨(hself.inside hodd).1.trans habove, hlt⟩⟩

/-- The shortest decimal of a number is nearest to it, and no multiple of a larger power of ten is. -/
theorem shortest_spec (half : HalfRule) {m : ℕ} {exponent : ℤ} (h : IsProper m exponent)
    (hm : m ≠ 0) :
    Attracts m exponent (shortest half m exponent).value ∧
      ∀ k, (shortest half m exponent).exponent < k →
        ∀ n : ℕ, ¬ Attracts m exponent (n * 10 ^ k) := by
  have hlog : m.log2 < 53 := (Nat.log2_lt hm).mpr h.mantissa_lt
  have hleast : -1074 ≤ exponent := h.least_le
  have hgreatest : exponent ≤ 971 := h.le_greatest
  unfold shortest
  dsimp only
  generalize hstart : ((m.log2 : ℤ) + 1 + exponent) * 30103 / 100000 + 2 = start
  obtain ⟨n, hn⟩ : ∃ n : ℕ, Attracts m exponent (n * 10 ^ (start - (23 : ℕ))) :=
    exists_attracts (ten_zpow_le_two_zpow (by push_cast; omega) (by push_cast; omega))
  obtain ⟨hnear, hshort⟩ := searchGrid_spec half hm (by decide : 23 < 24) hn
  refine ⟨hnear, fun k hk n' => ?_⟩
  rcases le_or_gt k start with hle | hlt
  · exact hshort k hk hle n'
  · have hcoarse : (2 : ℚ) ^ ((m.log2 : ℤ) + 1 + exponent) ≤ 10 ^ (k - 1) :=
      two_zpow_le_ten_zpow (by omega) (by omega)
    have hfar := not_attracts_of_le hm hcoarse (n := n')
    rwa [sub_add_cancel] at hfar

/-- The decimals of fifteen digits that are nearest to a number, unless it is one of the smallest,
lie on one grid only with that number. -/
theorem Attracts.eq_of_digits {m : ℕ} {e : ℤ} {c n : ℕ} {f : ℤ} (hm : 2 ^ 52 ≤ m) (hc : c < 10 ^ 15)
    (h : Attracts m e (c * 10 ^ f)) (h' : Attracts m e (n * 10 ^ f)) : n = c := by
  have hten : (0 : ℚ) < 10 ^ f := by positivity
  have hpos := two_zpow_pos e
  have hquarters := quartersBelow_le m e
  have hm' : (2 : ℚ) ^ 52 ≤ m := by exact_mod_cast hm
  have hc' : (c : ℚ) < 10 ^ 15 := by exact_mod_cast hc
  have hlow : ((m : ℚ) - 1 / 2) * 2 ^ e ≤ lowerEnd m e :=
    mul_le_mul_of_nonneg_right (by linarith) hpos.le
  -- Two of them would be closer to each other than the number to its neighbours.
  have hstep (hfine : (10 : ℚ) ^ f ≤ 2 ^ e) : False := by
    have hlarge : ((m : ℚ) - 1 / 2) * 2 ^ e ≤ c * 2 ^ e :=
      (hlow.trans h.lower_le).trans (mul_le_mul_of_nonneg_left hfine (Nat.cast_nonneg c))
    linarith [le_of_mul_le_mul_right hlarge hpos]
  have hwidth {a b : ℕ} (ha : Attracts m e (a * 10 ^ f)) (hb : Attracts m e (b * 10 ^ f))
      (hab : a < b) : (10 : ℚ) ^ f ≤ 2 ^ e := by
    have hab' : ((a : ℚ) + 1) * 10 ^ f ≤ b * 10 ^ f :=
      mul_le_mul_of_nonneg_right (by exact_mod_cast hab) hten.le
    have hup : (b : ℚ) * 10 ^ f ≤ (m + 1 / 2) * 2 ^ e := hb.le_upper
    linarith [hlow.trans ha.lower_le]
  rcases lt_trichotomy n c with hlt | heq | hlt
  · exact (hstep (hwidth h' h hlt)).elim
  · exact heq
  · exact (hstep (hwidth h h' hlt)).elim

end Binary64

end LinkedSheets
