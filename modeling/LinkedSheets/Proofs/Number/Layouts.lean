import LinkedSheets.Number.Layout
import LinkedSheets.Proofs.Number.Numeral
import LinkedSheets.Proofs.Number.Shortest

/-!
# Written numbers

Every layout of a decimal is a numeral that denotes the decimal, so that every number that is
written is read back. A number in digits alone has no superfluous zero.
-/

namespace LinkedSheets

open Text CellRef

namespace Numeral

def withSign (sign : Sign) (n : Numeral) : Numeral := { n with sign := sign }

theorem chars_withSign (sign : Sign) {n : Numeral} (h : n.sign = .absent) :
    (n.withSign sign).chars = sign.chars ++ n.chars := by
  have hself : n.chars = n.unsigned := by
    rw [chars, h]
    rfl
  rw [hself]
  rfl

/-- A whole number with zeros behind its digits, and `.0` if a point is asked for. -/
def integral (pointZero : Bool) (coefficient zeros : ℕ) : Numeral where
  sign := .absent
  whole := digits coefficient ++ List.replicate zeros '0'
  fraction := if pointZero then some ['0'] else none
  power := none
  isDigit_whole := by
    intro c hc
    rcases List.mem_append.mp hc with hc | hc
    · exact isDigit_of_mem_digits hc
    · rw [List.eq_of_mem_replicate hc]
      decide
  isDigit_fraction := by
    cases pointZero with
    | false => exact fun c hc => absurd hc List.not_mem_nil
    | true => exact List.forall_mem_singleton.mpr rfl
  ne_nil := by
    rw [List.append_assoc]
    exact List.append_ne_nil_of_left_ne_nil (digits_ne_nil coefficient) _

/-- The digits of a number with a point before the last `places` of them, filled up with zeros so
that one digit at least stands before the point. -/
def fractional (coefficient places : ℕ) : Numeral where
  sign := .absent
  whole := (padded '0' (places + 1) (digits coefficient)).take
    ((padded '0' (places + 1) (digits coefficient)).length - places)
  fraction := some ((padded '0' (places + 1) (digits coefficient)).drop
    ((padded '0' (places + 1) (digits coefficient)).length - places))
  power := none
  isDigit_whole := fun _ hc =>
    isDigit_of_mem_padded (fun _ hd => isDigit_of_mem_digits hd) _ (List.mem_of_mem_take hc)
  isDigit_fraction := fun _ hc =>
    isDigit_of_mem_padded (fun _ hd => isDigit_of_mem_digits hd) _ (List.mem_of_mem_drop hc)
  ne_nil := by
    rw [Option.getD_some, List.take_append_drop]
    exact List.append_ne_nil_of_right_ne_nil _ (digits_ne_nil coefficient)

/-- One digit of a number before the point and the others after it, with the power of ten of the
first. -/
def scientific (coefficient : ℕ) (power : ℤ) : Numeral where
  sign := .absent
  whole := (digits coefficient).take 1
  fraction := if (digits coefficient).tail = [] then none else some (digits coefficient).tail
  power := some
    { capital := false
      sign := if power < 0 then .minus else .plus
      digits := digits power.natAbs
      isDigit := fun _ hc => isDigit_of_mem_digits hc
      ne_nil := digits_ne_nil power.natAbs }
  isDigit_whole := fun _ hc => isDigit_of_mem_digits (List.mem_of_mem_take hc)
  isDigit_fraction := by
    split
    · exact fun c hc => absurd hc List.not_mem_nil
    · exact fun c hc => isDigit_of_mem_digits (List.mem_of_mem_tail hc)
  ne_nil := by
    cases hdigits : digits coefficient with
    | nil => exact absurd hdigits (digits_ne_nil coefficient)
    | cons d more => exact List.cons_ne_nil d _

/-! ### What the layouts denote -/

theorem magnitude_integral (pointZero : Bool) (coefficient zeros : ℕ) :
    (integral pointZero coefficient zeros).magnitude = coefficient * 10 ^ (zeros : ℤ) := by
  have hwhole : ofDigits (integral pointZero coefficient zeros).whole = coefficient * 10 ^ zeros := by
    rw [integral, ofDigits_append, ofDigits_digits, List.length_replicate,
      ofDigits_replicate_zero, Nat.add_zero]
  have hplaces : ofDigits (integral pointZero coefficient zeros).places = 0 := by
    cases pointZero <;> rfl
  have hexponent : (integral pointZero coefficient zeros).exponent = 0 := rfl
  rw [magnitude, hwhole, hplaces, hexponent, Nat.cast_zero, zero_div, add_zero, zpow_zero, mul_one,
    zpow_natCast, Nat.cast_mul, Nat.cast_pow, Nat.cast_ofNat]

theorem magnitude_fractional (coefficient places : ℕ) :
    (fractional coefficient places).magnitude = coefficient * 10 ^ (-(places : ℤ)) := by
  apply magnitude_eq
  · show ofDigits (List.take _ _ ++ List.drop _ _) = coefficient
    rw [List.take_append_drop, ofDigits_padded, ofDigits_digits]
  · show (0 : ℤ) - (List.drop _ _).length = _
    rw [List.length_drop, length_padded]
    omega

theorem magnitude_scientific (coefficient : ℕ) (power : ℤ) :
    (scientific coefficient power).magnitude =
      coefficient * 10 ^ (power + 1 - (digits coefficient).length) := by
  have hplaces : (scientific coefficient power).places = (digits coefficient).tail := by
    unfold places scientific
    dsimp only
    split
    · rename_i h
      exact h.symm
    · rfl
  have hpower : (scientific coefficient power).exponent = power := by
    show PowerOfTen.value _ = power
    unfold PowerOfTen.value
    dsimp only
    rw [ofDigits_digits]
    split
    · rename_i h
      show -(power.natAbs : ℤ) = power
      omega
    · rename_i h
      show (power.natAbs : ℤ) = power
      omega
  apply magnitude_eq
  · rw [hplaces]
    show ofDigits ((digits coefficient).take 1 ++ (digits coefficient).tail) = coefficient
    rw [← List.drop_one, List.take_append_drop, ofDigits_digits]
  · have hpos := List.length_pos_of_ne_nil (digits_ne_nil coefficient)
    rw [hpower, hplaces, List.length_tail]
    omega

theorem chars_integral (pointZero : Bool) (coefficient zeros : ℕ) :
    (integral pointZero coefficient zeros).chars =
      NumberLayout.positional pointZero (digits coefficient) zeros := by
  rw [NumberLayout.positional, if_pos (Int.natCast_nonneg zeros), Int.toNat_natCast]
  cases pointZero <;> rfl

-- Zeros are filled in exactly where the digits do not reach past the point.
theorem chars_fractional (pointZero : Bool) (coefficient : ℕ) {places : ℕ} (h : 0 < places) :
    (fractional coefficient places).chars =
      NumberLayout.positional pointZero (digits coefficient) (-(places : ℤ)) := by
  have hself : (fractional coefficient places).chars =
      (fractional coefficient places).whole ++ '.' :: (fractional coefficient places).places := by
    show _ ++ ('.' :: _ ++ []) = _
    rw [List.append_nil]
    rfl
  rw [hself, NumberLayout.positional, if_neg (by omega), neg_neg, Int.toNat_natCast]
  unfold fractional Numeral.places
  dsimp only [Option.getD_some]
  split
  · rename_i hlt
    have hfill : padded '0' (places + 1) (digits coefficient) = digits coefficient := by
      rw [padded, Nat.sub_eq_zero_of_le hlt]
      rfl
    rw [hfill]
  · rename_i hge
    have hfill : padded '0' (places + 1) (digits coefficient) =
        '0' :: (List.replicate (places - (digits coefficient).length) '0' ++ digits coefficient) := by
      rw [padded, Nat.sub_add_comm (by omega), List.replicate_succ]
      rfl
    have hlength : (padded '0' (places + 1) (digits coefficient)).length - places = 1 := by
      rw [length_padded]
      omega
    rw [hlength, hfill]
    rfl

theorem chars_scientific (coefficient : ℕ) (power : ℤ) :
    (scientific coefficient power).chars =
      NumberLayout.scientific (digits coefficient) power := by
  have hself : (scientific coefficient power).chars =
      (digits coefficient).take 1 ++
        ((if (digits coefficient).tail = [] then none else some (digits coefficient).tail).elim []
            ('.' :: ·) ++
          'e' :: ((if power < 0 then Sign.minus else Sign.plus).chars ++ digits power.natAbs)) :=
    rfl
  have hsign : (if power < 0 then Sign.minus else Sign.plus).chars =
      [if power < 0 then '-' else '+'] := by
    split <;> rfl
  rw [hself, hsign]
  unfold NumberLayout.scientific
  cases hdigits : digits coefficient with
  | nil => exact absurd hdigits (digits_ne_nil coefficient)
  | cons d more =>
    cases more with
    | nil => rfl
    | cons d' more => rfl

/-- A numeral in digits alone, without plus sign and without a zero that could be left out. -/
structure IsPlain (n : Numeral) : Prop where
  sign_ne : n.sign ≠ .plus
  power_eq : n.power = none
  whole_ne : n.whole ≠ []
  leading : n.whole.head? = some '0' → n.whole = ['0']
  trailing : ∀ ds, n.fraction = some ds → ds ≠ [] ∧ ds.getLast? ≠ some '0'

theorem IsPlain.withSign {n : Numeral} (h : n.IsPlain) {sign : Sign} (hsign : sign ≠ .plus) :
    (n.withSign sign).IsPlain :=
  ⟨hsign, h.power_eq, h.whole_ne, h.leading, h.trailing⟩

theorem isPlain_integral {coefficient zeros : ℕ} (h : coefficient = 0 → zeros = 0) :
    (integral false coefficient zeros).IsPlain where
  sign_ne := Sign.noConfusion
  power_eq := rfl
  whole_ne := List.append_ne_nil_of_left_ne_nil (digits_ne_nil coefficient) _
  leading := by
    intro hhead
    unfold integral at hhead ⊢
    dsimp only at hhead ⊢
    rw [List.head?_append_of_ne_nil _ (digits_ne_nil coefficient)] at hhead
    have hzero : coefficient = 0 := by
      by_contra hne
      exact head?_digits hne hhead
    rw [hzero, h hzero, digits_of_lt (by decide)]
    rfl
  trailing := by
    intro ds hds
    exact absurd hds (Option.some_ne_none ds).symm

theorem isPlain_fractional {coefficient places : ℕ} (h : 0 < places) (hlast : coefficient % 10 ≠ 0) :
    (fractional coefficient places).IsPlain where
  sign_ne := Sign.noConfusion
  power_eq := rfl
  whole_ne := by
    apply List.ne_nil_of_length_pos
    unfold fractional
    dsimp only
    rw [List.length_take, length_padded]
    omega
  leading := by
    intro hhead
    unfold fractional at hhead ⊢
    dsimp only at hhead ⊢
    rcases Nat.lt_or_ge places (digits coefficient).length with hlt | hge
    · rw [padded, Nat.sub_eq_zero_of_le hlt, List.replicate_zero, List.nil_append,
        List.head?_take, if_neg (by omega)] at hhead
      refine absurd hhead (head?_digits ?_)
      rintro rfl
      exact hlast rfl
    · have hlength : (padded '0' (places + 1) (digits coefficient)).length - places = 1 := by
        rw [length_padded]
        omega
      rw [hlength, List.take_one] at hhead ⊢
      generalize (padded '0' (places + 1) (digits coefficient)).head? = first at hhead ⊢
      cases first with
      | none => exact absurd hhead (Option.some_ne_none '0').symm
      | some c =>
        obtain rfl : c = '0' := Option.some.inj hhead
        rfl
  trailing := by
    rintro ds ⟨rfl⟩
    have hrest : ¬ (padded '0' (places + 1) (digits coefficient)).length ≤
        (padded '0' (places + 1) (digits coefficient)).length - places := by
      rw [length_padded]
      omega
    refine ⟨List.ne_nil_of_length_pos ?_, ?_⟩
    · rw [List.length_drop]
      omega
    · rw [List.getLast?_drop, if_neg hrest, padded,
        List.getLast?_append_of_ne_nil _ (digits_ne_nil coefficient), getLast?_digits]
      exact fun heq => digitChar_ne_zero hlast (Option.some.inj heq)

end Numeral

/-! ### Numbers are read back -/

/-- A decimal that is zero in one way only and has no zero behind its last place. -/
structure Decimal.IsReduced (d : Decimal) : Prop where
  exponent_eq : d.coefficient = 0 → d.exponent = 0
  last_ne : d.exponent < 0 → d.coefficient % 10 ≠ 0

theorem Binary64.isReduced_shortest (half : HalfRule) {m : ℕ} {e : ℤ} (h : IsProper m e)
    (hm : m ≠ 0) : (shortest half m e).IsReduced := by
  obtain ⟨hnear, hshort⟩ := shortest_spec half h hm
  generalize shortest half m e = d at *
  constructor
  · intro hzero
    rw [Decimal.value, hzero, Nat.cast_zero, zero_mul] at hnear
    exact absurd hnear (not_attracts_zero hm e)
  · intro _ hlast
    refine hshort (d.exponent + 1) (lt_add_one _) (d.coefficient / 10) ?_
    have hself : d.coefficient = d.coefficient / 10 * 10 := by omega
    rw [Decimal.value, hself] at hnear
    push_cast at hnear
    rwa [zpow_add_one₀ (by norm_num), mul_comm (10 ^ d.exponent) (10 : ℚ), ← mul_assoc]

namespace NumberLayout

/-- Digits alone, with a point only where there are places. -/
structure IsPlain (layout : NumberLayout) : Prop where
  isPositional : ∀ power, layout.isPositional power = true
  pointZero : layout.pointZero = false

theorem exists_numeral (layout : NumberLayout) (d : Decimal) :
    ∃ n : Numeral, n.sign = .absent ∧ n.chars = layout.decimal d ∧ n.magnitude = d.value ∧
      (layout.IsPlain → d.IsReduced → n.IsPlain) := by
  obtain ⟨coefficient, exponent⟩ := d
  unfold decimal
  dsimp only
  split
  · rcases le_or_gt 0 exponent with hle | hlt
    · lift exponent to ℕ using hle
      refine ⟨.integral layout.pointZero coefficient exponent, rfl, Numeral.chars_integral _ _ _,
        Numeral.magnitude_integral _ _ _, fun hlayout hd => ?_⟩
      rw [hlayout.pointZero]
      exact Numeral.isPlain_integral fun hzero => Int.natCast_eq_zero.mp (hd.exponent_eq hzero)
    · obtain ⟨places, rfl⟩ : ∃ places : ℕ, exponent = -places := ⟨(-exponent).toNat, by omega⟩
      exact ⟨.fractional coefficient places, rfl, Numeral.chars_fractional _ _ (by omega),
        Numeral.magnitude_fractional _ _,
        fun _ hd => Numeral.isPlain_fractional (by omega) (hd.last_ne hlt)⟩
  · rename_i hscientific
    refine ⟨.scientific coefficient _, rfl, Numeral.chars_scientific _ _, ?_,
      fun hlayout => absurd (hlayout.isPositional _) hscientific⟩
    rw [Numeral.magnitude_scientific, Decimal.value]
    congr 2
    ring

/-- What is written for a number is nearest to it, on every decimal grid that has a point nearest to
it, and in a plain layout without superfluous zeros. -/
theorem exists_numeral_write (layout : NumberLayout) (negative : Bool) {m : ℕ} {e : ℤ}
    (h : Binary64.IsProper m e) :
    ∃ n : Numeral, n.sign = (if negative then .minus else .absent) ∧
      n.chars = layout.write (.finite negative m e) ∧ Binary64.Attracts m e n.magnitude ∧
      (∀ (c : ℕ) (f : ℤ), Binary64.Attracts m e (c * 10 ^ f) → ∃ k : ℕ, n.magnitude = k * 10 ^ f) ∧
      (layout.IsPlain → n.IsPlain) := by
  -- Zero, written with the coefficient and the exponent zero, is no special case.
  obtain ⟨d, hd, hnear, hgrid, hreduced⟩ : ∃ d : Decimal,
      layout.write (.finite negative m e) = signed negative (layout.decimal d) ∧
        Binary64.Attracts m e d.value ∧
        (∀ (c : ℕ) (f : ℤ), Binary64.Attracts m e (c * 10 ^ f) → ∃ k : ℕ, d.value = k * 10 ^ f) ∧
        d.IsReduced := by
    by_cases hm : m = 0
    · have hself := Binary64.attracts_magnitude m e
      have hzero : Decimal.value ⟨0, 0⟩ = 0 := by rw [Decimal.value, Nat.cast_zero, zero_mul]
      rw [Binary64.magnitude, hm, Nat.cast_zero, zero_mul] at hself
      refine ⟨⟨0, 0⟩, by rw [write, if_pos hm], ?_, fun _ _ _ => ⟨0, ?_⟩, fun _ => rfl, fun hlt => ?_⟩
      · rw [hm, hzero]
        exact hself
      · rw [hzero, Nat.cast_zero, zero_mul]
      · exact absurd hlt (lt_irrefl 0)
    · obtain ⟨hnear, hshort⟩ := Binary64.shortest_spec layout.half h hm
      refine ⟨_, by rw [write, if_neg hm], hnear, fun c f hc => ?_,
        Binary64.isReduced_shortest layout.half h hm⟩
      generalize Binary64.shortest layout.half m e = d at *
      have hle : f ≤ d.exponent := not_lt.mp fun hlt => hshort f hlt c hc
      refine ⟨d.coefficient * 10 ^ (d.exponent - f).toNat, ?_⟩
      rw [Decimal.value, Nat.cast_mul, Nat.cast_pow, Nat.cast_ofNat, mul_assoc, ← zpow_natCast,
        ← zpow_add₀ (by norm_num), Int.toNat_of_nonneg (by omega), sub_add_cancel]
  obtain ⟨n, hsign, hchars, hvalue, hplain⟩ := layout.exists_numeral d
  rw [← hvalue] at hnear
  refine ⟨n.withSign (if negative then .minus else .absent), rfl, ?_, hnear, ?_,
    fun hlayout => (hplain hlayout hreduced).withSign ?_⟩
  · rw [Numeral.chars_withSign _ hsign, hchars, hd]
    cases negative <;> rfl
  · intro c f hc
    obtain ⟨k, hk⟩ := hgrid c f hc
    exact ⟨k, hvalue.trans hk⟩
  · cases negative <;> decide

/-- Whatever its layout, a finite number is read back as itself. -/
theorem read?_write (layout : NumberLayout) (negative : Bool) {m : ℕ} {e : ℤ}
    (h : Binary64.IsProper m e) :
    Binary64.read? (trim (String.ofList (layout.write (.finite negative m e))).toList) =
      some (.finite negative m e) := by
  obtain ⟨n, hsign, hchars, hnear, -, -⟩ := layout.exists_numeral_write negative h
  rw [← hchars]
  have hread := Numeral.read?_of_isWrittenIn n.isWrittenIn_text
  rwa [Numeral.rounded_eq h hnear, hsign, Sign.isMinus_ite] at hread

end NumberLayout

end LinkedSheets
