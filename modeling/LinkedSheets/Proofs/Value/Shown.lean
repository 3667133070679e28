import LinkedSheets.Proofs.Number.Integers

/-!
# Shown numbers

The number that a page shows for a literal is the integer nearest to what the literal denotes, though
the literal is read as a binary number first. A shown number is shown again as it is, as is what
stands for a value that is no finite number.
-/

namespace LinkedSheets

open Text

theorem Binary64.isProper_of_read? {cs : List Char} {negative : Bool} {m : ℕ} {e : ℤ}
    (h : read? cs = some (.finite negative m e)) : IsProper m e := by
  have hunsigned {sign : Bool} {ds : List Char}
      (h : (if ds.map Char.toLower = "inf".toList ∨ ds.map Char.toLower = "infinity".toList then
          some (.infinite sign)
        else if ds.map Char.toLower = "nan".toList then some .nan
        else (Decimal.read? ds).map (ofDecimal sign)) = some (.finite negative m e)) :
      IsProper m e := by
    split at h
    · exact absurd (Option.some.inj h) Binary64.noConfusion
    · split at h
      · exact absurd (Option.some.inj h) Binary64.noConfusion
      · obtain ⟨d, -, hd⟩ := Option.map_eq_some_iff.mp h
        exact isProper_of_ofDecimal hd
  unfold read? at h
  split at h
  · exact hunsigned h
  · exact hunsigned h
  · exact hunsigned h

theorem Numeral.roundAway_value (n : Numeral) :
    roundAway n.value = if n.sign.isMinus then -round n.magnitude else round n.magnitude := by
  have hnonneg := n.magnitude_nonneg
  unfold roundAway value
  cases n.sign.isMinus with
  | false => rw [if_neg Bool.false_ne_true, if_neg hnonneg.not_gt, if_neg Bool.false_ne_true]
  | true =>
    rw [if_pos rfl, if_pos rfl, neg_neg]
    rcases hnonneg.eq_or_lt with hzero | hpos
    · rw [← hzero, neg_zero, if_neg (lt_irrefl 0), round_zero, neg_zero]
    · rw [if_pos (neg_neg_of_pos hpos)]

namespace CellValue

theorem shown_of_read? {s : String} {x : Binary64}
    (h : Binary64.read? (trim s.toList) = some x) :
    (⟨.number, s⟩ : CellValue).shown = x.roundedText := by
  simp only [shown, h]

theorem shown_of_read?_eq_none {s : String} (h : Binary64.read? (trim s.toList) = none) :
    (⟨.number, s⟩ : CellValue).shown = s := by
  simp only [shown, h]

/-- An integer that is a binary number is shown as it is written. -/
theorem shown_intText {m : ℕ} {e : ℤ} {i : ℤ} (hm : Binary64.IsProper m e)
    (h : Binary64.magnitude m e = i.natAbs) :
    (⟨.number, intText i⟩ : CellValue).shown = intText i := by
  have hnear := Binary64.attracts_magnitude m e
  rw [h, ← Numeral.magnitude_ofInt] at hnear
  have hread : Binary64.read? (trim (intText i).toList) =
      some (.finite (Numeral.ofInt i).sign.isMinus m e) := by
    rw [← Numeral.text_ofInt, Numeral.read?_of_isWrittenIn (Numeral.isWrittenIn_text _),
      Numeral.rounded_eq hm hnear]
  have hnearest : (Binary64.nearestInteger m e : ℤ) = i.natAbs := by
    rw [Binary64.nearestInteger_eq_round, h]
    exact round_natCast i.natAbs
  rw [shown_of_read? hread, Binary64.roundedText_finite, hnearest, Numeral.isMinus_ofInt]
  congr 1
  split
  · rename_i hneg
    rw [decide_eq_true_iff] at hneg
    omega
  · rename_i hneg
    rw [decide_eq_true_iff] at hneg
    omega

/-- What is shown for a number literal is shown for itself. -/
theorem shown_shown (s : String) :
    (⟨.number, (⟨.number, s⟩ : CellValue).shown⟩ : CellValue).shown =
      (⟨.number, s⟩ : CellValue).shown := by
  cases hread : Binary64.read? (trim s.toList) with
  | none => rw [shown_of_read?_eq_none hread, shown_of_read?_eq_none hread]
  | some x =>
    rw [shown_of_read? hread]
    cases x with
    | nan => exact shown_of_read?_eq_none (by decide)
    | infinite negative =>
      have hword : Binary64.read? (trim "#INF!".toList) = none := by decide
      exact shown_of_read?_eq_none hword
    | finite negative m e =>
      obtain ⟨m', e', hm', hvalue⟩ :=
        Binary64.exists_proper_nearestInteger (Binary64.isProper_of_read? hread)
      rw [Binary64.roundedText_finite]
      apply shown_intText hm'
      rw [hvalue]
      split
      · rw [Int.natAbs_neg, Int.natAbs_natCast]
      · rw [Int.natAbs_natCast]

/-- A literal of at most fifteen significant digits below `10 ^ 15` is shown as the integer nearest
to the number that is written, a half going away from zero. -/
theorem shown_eq_roundAway {n : Numeral} {s : String} (h : n.IsWrittenIn s)
    (hdigits : (significant (n.whole ++ n.places)).length ≤ 15) (hvalue : |n.value| < 10 ^ 15) :
    (⟨.number, s⟩ : CellValue).shown = intText (roundAway n.value) := by
  rw [n.abs_value] at hvalue
  have hread := Numeral.read?_of_isWrittenIn h
  have hround := n.roundsTo_rounded
  generalize n.rounded = x at hread hround
  cases hround with
  | infinite hlarge =>
    exact absurd hlarge (Binary64.lt_overflowEnd (hvalue.trans (by norm_num))).not_ge
  | @finite m e hm hnear =>
    obtain ⟨f, hf⟩ := n.exists_magnitude_eq
    have hnearest : (Binary64.nearestInteger m e : ℤ) = round n.magnitude := by
      rw [hf] at hnear hvalue ⊢
      rw [Binary64.nearestInteger_eq_round,
        hnear.round_eq hm (Numeral.ofDigits_significant_lt hdigits) hvalue]
    rw [shown_of_read? hread, Binary64.roundedText_finite, hnearest, n.roundAway_value]

/-- The numeral `-25E-1`. -/
def minusTwoAndAHalf : Numeral where
  sign := .minus
  whole := ['2', '5']
  fraction := none
  power := some ⟨true, .minus, ['1'], List.all_eq_true.mp rfl, List.cons_ne_nil _ _⟩
  isDigit_whole := List.all_eq_true.mp rfl
  isDigit_fraction := List.all_eq_true.mp rfl
  ne_nil := List.cons_ne_nil _ _

theorem shown_eq_roundAway_half :
    minusTwoAndAHalf.IsWrittenIn " -25E-1\n" ∧ roundAway minusTwoAndAHalf.value = -3 ∧
      (⟨.number, " -25E-1\n"⟩ : CellValue).shown = intText (roundAway minusTwoAndAHalf.value) := by
  have hwritten : minusTwoAndAHalf.IsWrittenIn " -25E-1\n" :=
    ⟨[' '], ['\n'], List.all_eq_true.mp rfl, List.all_eq_true.mp rfl, by decide⟩
  have hvalue : minusTwoAndAHalf.value = -(5 / 2) := by
    have hwhole : ofDigits minusTwoAndAHalf.whole = 25 := by decide
    have hplaces : ofDigits minusTwoAndAHalf.places = 0 := by decide
    have hexponent : minusTwoAndAHalf.exponent = -1 := by decide
    have hminus : minusTwoAndAHalf.sign.isMinus = true := rfl
    rw [Numeral.value, if_pos hminus, Numeral.magnitude, hwhole, hplaces, hexponent]
    norm_num
  refine ⟨hwritten, ?_, shown_eq_roundAway hwritten (by decide) ?_⟩
  · rw [hvalue, roundAway, if_pos (by norm_num), neg_neg, round_eq]
    norm_num
  · rw [hvalue]
    norm_num [abs_of_pos]

end CellValue

end LinkedSheets
