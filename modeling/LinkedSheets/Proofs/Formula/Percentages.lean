import LinkedSheets.Proofs.Formula.Layout
import LinkedSheets.Proofs.Number.Layouts

/-!
# Percentages

A percentage is rendered as the shortest decimal of a rounded product. It is a hundred times the
literal if no other binary number than the product is nearest to that, and then only.
-/

namespace LinkedSheets

open Text Numeral

-- From the least number with a full mantissa on, no number with fewer digits is nearest.
theorem Binary64.Attracts.full_mantissa {m : ℕ} {e : ℤ} {q : ℚ} (h : Attracts m e q)
    (hm : IsProper m e) (hq : (2 : ℚ) ^ (-1022 : ℤ) ≤ q) : 2 ^ 52 ≤ m := by
  by_contra hlt
  have hleast : e = leastExponent := hm.leading.resolve_left hlt
  have hm' : (m : ℚ) + 1 ≤ 2 ^ (52 : ℤ) := by exact_mod_cast (by omega : m + 1 ≤ 2 ^ 52)
  have hend : upperEnd m e < 2 ^ (-1022 : ℤ) := by
    calc upperEnd m e < 2 ^ (52 : ℤ) * 2 ^ leastExponent := by
          rw [upperEnd, hleast]
          exact mul_lt_mul_of_pos_right (by linarith) (two_zpow_pos _)
      _ = 2 ^ (-1022 : ℤ) := (zpow_add₀ (by norm_num) _ _).symm
  exact (hq.trans h.le_upper).not_gt hend

theorem percentage?_of_read? {literal : String} {x : Binary64}
    (h : Binary64.read? (trim literal.toList) = some x) :
    percentage? literal = some (String.ofList (percentageLayout.write (x.scale 100)) ++ "%") := by
  rw [percentage?, h]
  rfl

namespace Numeral

/-- A hundred times the binary number that a numeral is read as. -/
def percent (n : Numeral) : Binary64 := n.rounded.scale 100

/-- The binary number nearest to a hundred times a numeral. -/
def nearestPercent (n : Numeral) : Binary64 :=
  .ofDecimal n.sign.isMinus ⟨100 * n.decimal.coefficient, n.decimal.exponent⟩

theorem roundsTo_nearestPercent (n : Numeral) :
    Binary64.RoundsTo n.sign.isMinus (100 * n.magnitude) n.nearestPercent := by
  have h := Binary64.roundsTo_ofDecimal n.sign.isMinus
    ⟨100 * n.decimal.coefficient, n.decimal.exponent⟩
  rw [Decimal.value, Nat.cast_mul, mul_assoc] at h
  rw [← value_decimal]
  exact h

/-- A literal that is a binary number itself is only rounded once. -/
theorem percent_eq_nearestPercent {n : Numeral} {m : ℕ} {e : ℤ} (hm : Binary64.IsProper m e)
    (h : Binary64.magnitude m e = n.magnitude) : n.percent = n.nearestPercent := by
  have hself := Binary64.attracts_magnitude m e
  have hproduct := Binary64.roundsTo_scale n.sign.isMinus m e 100
  rw [h] at hself hproduct
  rw [mul_comm] at hproduct
  rw [percent, rounded_eq hm hself]
  exact hproduct.unique n.roundsTo_nearestPercent

-- Below `10 ^ 15` neither the literal nor the product is too large.
theorem exists_percent_eq {n : Numeral} (h : n.magnitude < 10 ^ 15) :
    ∃ m e, Binary64.IsProper m e ∧ n.percent = .finite n.sign.isMinus m e := by
  have hround := n.roundsTo_rounded
  unfold percent
  generalize n.rounded = x at hround ⊢
  cases hround with
  | infinite hlarge =>
    exact absurd hlarge (Binary64.lt_overflowEnd (h.trans (by norm_num))).not_ge
  | @finite m e hm hnear =>
    have hproduct := Binary64.roundsTo_scale n.sign.isMinus m e 100
    have hlt : Binary64.magnitude m e * (100 : ℕ) < 2 ^ 64 := by
      have hone : (2 : ℚ) ^ e ≤ 1 := zpow_le_one_of_nonpos₀ (by norm_num) (hnear.exponent_neg hm h).le
      have hm' : (m : ℚ) ≤ 2 ^ 53 := by exact_mod_cast hm.mantissa_lt.le
      calc Binary64.magnitude m e * (100 : ℕ) ≤ 2 ^ 53 * 1 * (100 : ℕ) :=
            mul_le_mul_of_nonneg_right (mul_le_mul hm' hone (by positivity) (by positivity))
              (by positivity)
        _ < 2 ^ 64 := by norm_num
    generalize (Binary64.finite n.sign.isMinus m e).scale 100 = y at hproduct ⊢
    cases hproduct with
    | infinite hlarge => exact absurd hlarge (Binary64.lt_overflowEnd hlt).not_ge
    | @finite m' e' hm' _ => exact ⟨m', e', hm', rfl⟩

end Numeral

namespace Node

theorem render_percentage {literal text : String} (h : percentage? literal = some text) :
    (Node.tagged "percentage" [.leaf literal]).render = text := by
  have hrule : Rule.ofName? "percentage" = some .percentage := by decide
  have hlayout : layout "percentage" [.leaf literal] = percentLayout "percentage" literal := by
    unfold layout
    rw [hrule]
  rw [render, pieces_tagged, hlayout, pieces_percentLayout, h]
  simp [writePieces, Piece.write]

/-- A percentage of at most fifteen significant digits below `10 ^ 13` is rendered as a decimal in
full without superfluous zeros that denotes the rounded product. It is a hundred times the literal
only if no other number than the product is nearest to that; conversely it is then, unless that is
below all numbers with a full mantissa. -/
theorem render_percentage_eq {p : Numeral} {s : String} (h : p.IsWrittenIn s)
    (hdigits : (significant (p.whole ++ p.places)).length ≤ 15) (hvalue : |p.value| < 10 ^ 13) :
    ∃ r : Numeral, r.IsPlain ∧
      (Node.tagged "percentage" [.leaf s]).render = r.text ++ "%" ∧
      Binary64.read? r.chars = some p.percent ∧
      (r.value = 100 * p.value → p.percent = p.nearestPercent) ∧
      ((2 : ℚ) ^ (-1022 : ℤ) ≤ 100 * |p.value| → p.percent = p.nearestPercent →
        r.value = 100 * p.value) := by
  rw [abs_value] at hvalue ⊢
  obtain ⟨m, e, hm, hpercent⟩ := exists_percent_eq (hvalue.trans (by norm_num))
  obtain ⟨r, hsign, hchars, hnear, hgrid, hplain⟩ :=
    percentageLayout.exists_numeral_write p.sign.isMinus hm
  have hnearest := p.roundsTo_nearestPercent
  have hexact : r.value = 100 * p.value ↔ r.magnitude = 100 * p.magnitude := by
    rw [Numeral.value, Numeral.value, hsign, Sign.isMinus_ite]
    split
    · rw [mul_neg, neg_inj]
    · exact Iff.rfl
  refine ⟨r, hplain ⟨fun _ => rfl, rfl⟩, ?_, ?_, fun hr => ?_, fun hleast hrounded => ?_⟩
  · rw [render_percentage (percentage?_of_read? (Numeral.read?_of_isWrittenIn h)), Numeral.text,
      hchars, ← hpercent]
    rfl
  · rw [r.read?_chars, Numeral.rounded_eq hm hnear, hpercent, hsign, Sign.isMinus_ite]
  · rw [hexact.mp hr] at hnear
    rw [hpercent]
    exact (Binary64.RoundsTo.finite hm hnear).unique hnearest
  · rw [hexact]
    rw [← hrounded, hpercent] at hnearest
    cases hnearest with
    | finite _ hself =>
      obtain ⟨f, hf⟩ := p.exists_magnitude_eq
      have hhundred : 100 * p.magnitude =
          ofDigits (significant (p.whole ++ p.places)) * 10 ^ (f + 2) := by
        rw [hf, zpow_add₀ (by norm_num), mul_left_comm, mul_comm (100 : ℚ)]
        norm_num
      have hfull := hself.full_mantissa hm hleast
      rw [hhundred] at hself ⊢
      obtain ⟨k, hk⟩ := hgrid _ _ hself
      rw [hk] at hnear ⊢
      rw [hself.eq_of_digits hfull (ofDigits_significant_lt hdigits) hnear]

/-- The numeral `0.125`. -/
def eighth : Numeral where
  sign := .absent
  whole := ['0']
  fraction := some ['1', '2', '5']
  power := none
  isDigit_whole := List.all_eq_true.mp rfl
  isDigit_fraction := List.all_eq_true.mp rfl
  ne_nil := List.cons_ne_nil _ _

theorem render_percentage_eighth :
    eighth.IsWrittenIn "0.125" ∧ ∃ r : Numeral, r.IsPlain ∧
      (Node.tagged "percentage" [.leaf "0.125"]).render = r.text ++ "%" ∧
      r.value = 100 * eighth.value := by
  have hwritten : eighth.IsWrittenIn "0.125" :=
    ⟨[], [], List.forall_mem_nil _, List.forall_mem_nil _, by decide⟩
  have hmagnitude : eighth.magnitude = 1 / 8 := by
    have hwhole : ofDigits eighth.whole = 0 := by decide
    have hplaces : ofDigits eighth.places = 125 := by decide
    have hlength : eighth.places.length = 3 := rfl
    have hexponent : eighth.exponent = 0 := rfl
    rw [magnitude, hwhole, hplaces, hlength, hexponent]
    norm_num
  have hbinary : Binary64.magnitude (2 ^ 52) (-55) = eighth.magnitude := by
    rw [hmagnitude, Binary64.magnitude]
    norm_num
  have hrounded : eighth.percent = eighth.nearestPercent :=
    percent_eq_nearestPercent ⟨by norm_num, by decide, by decide, Or.inl (le_refl _)⟩ hbinary
  have hvalue : |eighth.value| = 1 / 8 := by rw [abs_value, hmagnitude]
  obtain ⟨r, hplain, hrender, -, -, hexact⟩ :=
    render_percentage_eq hwritten (by decide) (by rw [hvalue]; norm_num)
  refine ⟨hwritten, r, hplain, hrender, hexact ?_ hrounded⟩
  rw [hvalue]
  exact (zpow_le_one_of_nonpos₀ (by norm_num) (by decide)).trans (by norm_num)

/-- The numeral `0.07`. -/
def sevenHundredths : Numeral where
  sign := .absent
  whole := ['0']
  fraction := some ['0', '7']
  power := none
  isDigit_whole := List.all_eq_true.mp rfl
  isDigit_fraction := List.all_eq_true.mp rfl
  ne_nil := List.cons_ne_nil _ _

/-- The product of a hundred and the binary number nearest to `0.07` is not rounded to seven. -/
theorem render_percentage_sevenHundredths :
    sevenHundredths.IsWrittenIn "0.07" ∧ sevenHundredths.power = none ∧
      (significant (sevenHundredths.whole ++ sevenHundredths.places)).length ≤ 15 ∧
      sevenHundredths.value ≠ 0 ∧ |sevenHundredths.value| < 10 ^ 13 ∧
      (Node.tagged "percentage" [.leaf "0.07"]).render = "7.000000000000001%" ∧
      ¬ ∃ r : Numeral, (Node.tagged "percentage" [.leaf "0.07"]).render = r.text ++ "%" ∧
        r.value = 100 * sevenHundredths.value := by
  have hvalue : sevenHundredths.value = 7 / 100 := by
    have hwhole : ofDigits sevenHundredths.whole = 0 := by decide
    have hplaces : ofDigits sevenHundredths.places = 7 := by decide
    have hlength : sevenHundredths.places.length = 2 := rfl
    have hexponent : sevenHundredths.exponent = 0 := rfl
    have hminus : ¬ sevenHundredths.sign.isMinus = true := by decide
    rw [value, if_neg hminus, magnitude, hwhole, hplaces, hlength, hexponent]
    norm_num
  have hrender : (Node.tagged "percentage" [.leaf "0.07"]).render = "7.000000000000001%" :=
    render_percentage (by decide +kernel)
  refine ⟨⟨[], [], List.forall_mem_nil _, List.forall_mem_nil _, by decide⟩, rfl, by decide, ?_, ?_,
    hrender, ?_⟩
  · rw [hvalue]
    norm_num
  · rw [hvalue]
    norm_num [abs_of_pos]
  · rintro ⟨r, hr, hseven⟩
    have htext : r.text = "7.000000000000001" :=
      (String.append_left_inj "%").mp (hr.symm.trans hrender)
    have hread : Binary64.read? "7.000000000000001".toList =
        some (.finite false (7 * 2 ^ 50 + 1) (-50)) := by decide +kernel
    have hmagnitude : r.decimal.value = Decimal.value ⟨7, 0⟩ := by
      rw [value_decimal, ← abs_value, hseven, hvalue, Decimal.value]
      norm_num
    have hself (negative : Bool) : Binary64.ofDecimal negative ⟨7, 0⟩ =
        .finite negative (7 * 2 ^ 50) (-50) := by
      cases negative <;> decide +kernel
    rw [← htext, Numeral.text, String.toList_ofList, r.read?_chars, Numeral.rounded,
      Binary64.ofDecimal_congr hmagnitude, hself] at hread
    exact absurd (Option.some.inj hread) (by simp)

end Node

end LinkedSheets
