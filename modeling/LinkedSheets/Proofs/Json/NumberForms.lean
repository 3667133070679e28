import LinkedSheets.Proofs.Formula.Percentages
import LinkedSheets.Proofs.Json.Distinct
import LinkedSheets.Proofs.Value.Shown
import LinkedSheets.Workbook.Decoding

/-!
# Numbers and strings in JSON

A number in a document is a numeral, and the text that it is kept as is read as the same binary
number as the numeral itself. So nothing depends on whether a number is written as a JSON number or
as a string with the same characters.
-/

namespace LinkedSheets

open Text

namespace Json

/-! ### The numerals of a document -/

theorem readDigits_eq_ok {cs ds rest : List Char} (h : readDigits cs = .ok (ds, rest)) :
    cs = ds ++ rest ∧ (∀ c ∈ ds, c.isDigit = true) ∧ ds ≠ [] := by
  unfold readDigits at h
  split at h
  · cases h
  · rename_i c cs
    split at h
    · rename_i hdigit
      cases h
      refine ⟨List.takeWhile_append_dropWhile.symm, fun d hd => List.mem_takeWhile_imp hd, ?_⟩
      rw [List.takeWhile_cons_of_pos hdigit]
      exact List.cons_ne_nil _ _
    · cases h

theorem readWhole_eq_ok {cs ds rest : List Char} (h : readWhole cs = .ok (ds, rest)) :
    cs = ds ++ rest ∧ (∀ c ∈ ds, c.isDigit = true) ∧ ds ≠ [] := by
  unfold readWhole at h
  obtain ⟨⟨found, more⟩, hfound, h⟩ := bind_eq_ok_iff.mp h
  dsimp only at h
  split at h
  · cases h
  · cases h
    exact readDigits_eq_ok hfound

theorem readFraction_eq_ok {cs rest : List Char} {fraction : Option (List Char)}
    (h : readFraction cs = .ok (fraction, rest)) :
    cs = fraction.elim [] ('.' :: ·) ++ rest ∧ ∀ c ∈ fraction.getD [], c.isDigit = true := by
  unfold readFraction at h
  split at h
  · rename_i more
    obtain ⟨⟨ds, after⟩, hdigits, h⟩ := bind_eq_ok_iff.mp h
    cases h
    obtain ⟨hmore, hds, -⟩ := readDigits_eq_ok hdigits
    exact ⟨congrArg ('.' :: ·) hmore, hds⟩
  · cases h
    exact ⟨rfl, fun c hc => absurd hc List.not_mem_nil⟩

-- What follows the letter and the sign of a power of ten.
theorem readPower_eq_ok {cs rest ds : List Char} (capital : Bool) (sign : Sign)
    (h : readDigits cs = .ok (ds, rest)) :
    ∃ p : PowerOfTen, p.value = (if sign.isMinus then -(ofDigits ds : ℤ) else ofDigits ds) ∧
      (if capital then 'E' else 'e') :: (sign.chars ++ cs) = p.chars ++ rest := by
  obtain ⟨hcs, hdigits, hne⟩ := readDigits_eq_ok h
  refine ⟨⟨capital, sign, ds, hdigits, hne⟩, rfl, ?_⟩
  rw [hcs, PowerOfTen.chars, List.cons_append, List.append_assoc]
  rfl

theorem readScale_eq_ok {cs rest : List Char} {scale : Option ℤ}
    (h : readScale cs = .ok (scale, rest)) :
    ∃ power : Option PowerOfTen, scale = power.map PowerOfTen.value ∧
      cs = power.elim [] PowerOfTen.chars ++ rest := by
  unfold readScale at h
  split at h
  · cases h
    exact ⟨none, rfl, rfl⟩
  rename_i c more
  split at h
  · rename_i hletter
    obtain ⟨capital, rfl⟩ : ∃ capital : Bool, c = if capital then 'E' else 'e' :=
      hletter.elim (fun he => ⟨false, he⟩) fun he => ⟨true, he⟩
    split at h
    all_goals
      rw [bind_eq_ok_iff] at h
      obtain ⟨⟨ds, after⟩, hdigits, h⟩ := h
      cases h
    · obtain ⟨p, hvalue, hchars⟩ := readPower_eq_ok capital .minus hdigits
      exact ⟨some p, congrArg some hvalue.symm, hchars⟩
    · obtain ⟨p, hvalue, hchars⟩ := readPower_eq_ok capital .plus hdigits
      exact ⟨some p, congrArg some hvalue.symm, hchars⟩
    · obtain ⟨p, hvalue, hchars⟩ := readPower_eq_ok capital .absent hdigits
      exact ⟨some p, congrArg some hvalue.symm, hchars⟩
  · cases h
    exact ⟨none, rfl, rfl⟩

theorem readNumber_eq_ok {negative : Bool} {cs rest : List Char} {n : JsonNumber}
    (h : readNumber negative cs = .ok (n, rest)) :
    ∃ r : Numeral, r.sign = .absent ∧ cs = r.unsigned ++ rest ∧
      JsonNumber.ofLiteral? negative r.whole r.fraction (r.power.map PowerOfTen.value) = some n := by
  rw [readNumber, bind_eq_ok_iff] at h
  obtain ⟨⟨whole, afterWhole⟩, hwhole, h⟩ := h
  rw [bind_eq_ok_iff] at h
  obtain ⟨⟨fraction, afterFraction⟩, hfraction, h⟩ := h
  rw [bind_eq_ok_iff] at h
  obtain ⟨⟨scale, afterScale⟩, hscale, h⟩ := h
  dsimp only at hfraction hscale h
  obtain ⟨rfl, hdigits, hne⟩ := readWhole_eq_ok hwhole
  obtain ⟨rfl, hplaces⟩ := readFraction_eq_ok hfraction
  obtain ⟨power, rfl, rfl⟩ := readScale_eq_ok hscale
  split at h
  · rename_i found hliteral
    cases h
    refine ⟨⟨.absent, whole, fraction, power, hdigits, hplaces,
      List.append_ne_nil_of_left_ne_nil hne _⟩, rfl, ?_, hliteral⟩
    rw [Numeral.unsigned, Numeral.tail, List.append_assoc, List.append_assoc]
  · cases h

theorem isBlank_of_isSpace {c : Char} (h : isSpace c = true) : isBlank c = true := by
  simp only [isSpace, Bool.or_eq_true, decide_eq_true_eq] at h
  rcases h with ((rfl | rfl) | rfl) | rfl <;> rfl

-- A number begins with its sign or its first digit.
theorem readScalar_eq_ok {cs rest : List Char} {n : JsonNumber}
    (h : readScalar cs = .ok (.number n, rest)) :
    ∃ r : Numeral, cs = r.chars ++ rest ∧
      JsonNumber.ofLiteral? r.sign.isMinus r.whole r.fraction (r.power.map PowerOfTen.value) =
        some n := by
  unfold readScalar at h
  split at h
  · cases h
  rename_i c more
  split_ifs at h with hnull htrue hfalse hquote hminus hdigit
  all_goals obtain ⟨⟨found, after⟩, hread, hfound⟩ := map_eq_ok_iff.mp h
  · cases hfound
  · cases hfound
  · cases hfound
  · cases hfound
  · cases hfound
    obtain ⟨r, hsign, rfl, hliteral⟩ := readNumber_eq_ok hread
    refine ⟨r.withSign .minus, ?_, hliteral⟩
    rw [hminus]
    rfl
  · cases hfound
    obtain ⟨r, hsign, hcs, hliteral⟩ := readNumber_eq_ok hread
    refine ⟨r, ?_, ?_⟩
    · rw [hcs, Numeral.chars, hsign]
      rfl
    · rw [hsign]
      exact hliteral

theorem skipSpace_eq (cs : List Char) :
    ∃ before, (∀ c ∈ before, isBlank c = true) ∧ cs = before ++ skipSpace cs :=
  ⟨cs.takeWhile isSpace, fun _ hc => isBlank_of_isSpace (List.mem_takeWhile_imp hc),
    List.takeWhile_append_dropWhile.symm⟩

theorem readValue_eq_ok {fuel depth : ℕ} {cs rest : List Char} {n : JsonNumber}
    (h : readValue fuel depth cs = .ok (.number n, rest)) :
    readScalar (skipSpace cs) = .ok (.number n, rest) := by
  cases fuel with
  | zero =>
    rw [readValue] at h
    cases h
  | succ fuel =>
    rw [readValue] at h
    split at h
    · split at h
      · cases h
      · obtain ⟨found, -, hfound⟩ := map_eq_ok_iff.mp h
        cases hfound
    · split at h
      · cases h
      · obtain ⟨found, -, hfound⟩ := map_eq_ok_iff.mp h
        cases hfound
    · exact h

/-- A number that is read is a numeral with nothing but blanks around it. -/
theorem exists_numeral_of_read {t : String} {n : JsonNumber} (h : read t = .ok (.number n)) :
    ∃ r : Numeral, r.IsWrittenIn t ∧
      JsonNumber.ofLiteral? r.sign.isMinus r.whole r.fraction (r.power.map PowerOfTen.value) =
        some n := by
  rw [read, readWithin, atEnd, bind_eq_ok_iff] at h
  obtain ⟨⟨found, after⟩, hread, h⟩ := h
  dsimp only at h
  split at h
  · rename_i hend
    cases h
    obtain ⟨r, hchars, hliteral⟩ := readScalar_eq_ok (readValue_eq_ok hread)
    obtain ⟨before, hbefore, hcs⟩ := skipSpace_eq t.toList
    obtain ⟨blanks, hblanks, hafter⟩ := skipSpace_eq after
    rw [List.isEmpty_iff.mp hend, List.append_nil] at hafter
    refine ⟨r, ⟨before, after, hbefore, hafter ▸ hblanks, ?_⟩, hliteral⟩
    rw [hcs, hchars, List.append_assoc]
  · cases h

end Json

namespace JsonNumber

/-- A literal is kept as an integer or rounded to a binary number. -/
theorem of_ofLiteral?_eq_some {negative : Bool} {whole : List Char} {fraction : Option (List Char)}
    {scale : Option ℤ} {n : JsonNumber} (h : ofLiteral? negative whole fraction scale = some n) :
    (fraction = none ∧ scale = none ∧ (negative = true → ofDigits whole ≠ 0) ∧
      n = .integer (if negative then -(ofDigits whole : ℤ) else ofDigits whole)) ∨
    ∃ sign m e, n = .float (.finite sign m e) ∧
      .ofDecimal negative (.ofParts whole (fraction.getD []) (scale.getD 0)) =
        Binary64.finite sign m e := by
  unfold ofLiteral? at h
  extract_lets float whole' at h
  have hfloat (h : float = some n) : ∃ sign m e, n = .float (.finite sign m e) ∧
      .ofDecimal negative (.ofParts whole (fraction.getD []) (scale.getD 0)) =
        Binary64.finite sign m e := by
    unfold float at h
    split at h
    · rename_i sign m e hx
      exact ⟨sign, m, e, (Option.some.inj h).symm, hx⟩
    · cases h
  by_cases hparts : (fraction.isSome || scale.isSome) = true
  · rw [if_pos hparts] at h
    exact Or.inr (hfloat h)
  rw [if_neg hparts] at h
  simp only [Bool.or_eq_true, Option.isSome_iff_ne_none, not_or, not_not] at hparts
  split_ifs at h with hnegative hleast hgreatest
  · cases h
    exact Or.inl ⟨hparts.1, hparts.2, fun _ => hleast.1, by rw [if_pos hnegative]⟩
  · exact Or.inr (hfloat h)
  · cases h
    exact Or.inl ⟨hparts.1, hparts.2, fun h => absurd h hnegative, by rw [if_neg hnegative]⟩
  · exact Or.inr (hfloat h)

/-- The text of a number is read as the same binary number as the numeral that it was read from. -/
theorem read?_text {r : Numeral} {n : JsonNumber}
    (h : ofLiteral? r.sign.isMinus r.whole r.fraction (r.power.map PowerOfTen.value) = some n) :
    Binary64.read? (trim n.text.toList) = some r.rounded := by
  rcases of_ofLiteral?_eq_some h with ⟨hfraction, hpower, hzero, rfl⟩ | ⟨sign, m, e, rfl, hfloat⟩
  · generalize hi : (if r.sign.isMinus then -(ofDigits r.whole : ℤ) else ofDigits r.whole) = i
    have hvalue : (Numeral.ofInt i).decimal.value = r.decimal.value := by
      have hexponent : r.exponent = 0 := by
        rw [Numeral.exponent, Option.map_eq_none_iff.mp hpower]
        rfl
      have hplaces : r.places = [] := by
        rw [Numeral.places, hfraction]
        rfl
      have habs : i.natAbs = ofDigits r.whole := by
        split at hi <;> omega
      rw [Numeral.value_decimal, Numeral.value_decimal, Numeral.magnitude_ofInt, habs,
        Numeral.magnitude, hexponent, hplaces, zpow_zero, mul_one]
      exact (add_zero _).symm.trans (congrArg _ (zero_div _).symm)
    have hminus : (Numeral.ofInt i).sign.isMinus = r.sign.isMinus := by
      rw [Numeral.isMinus_ofInt]
      split at hi
      · rename_i hnegative
        have := hzero hnegative
        rw [hnegative, decide_eq_true_iff]
        omega
      · rename_i hnegative
        rw [eq_false_of_ne_true hnegative, decide_eq_false_iff_not]
        omega
    show Binary64.read? (trim (intText i).toList) = _
    rw [← Numeral.text_ofInt, Numeral.read?_of_isWrittenIn (Numeral.isWrittenIn_text _),
      Numeral.rounded, hminus, Binary64.ofDecimal_congr hvalue]
    rfl
  · have hdecimal : r.decimal =
        .ofParts r.whole (r.fraction.getD []) ((r.power.map PowerOfTen.value).getD 0) := by
      rw [Numeral.decimal, Numeral.exponent]
      cases r.power <;> rfl
    rw [Numeral.rounded, hdecimal, hfloat]
    exact layout.read?_write sign (Binary64.isProper_of_ofDecimal hfloat)

end JsonNumber

/-- A number is shown and rendered the same as the string with its characters. -/
theorem Json.number_and_string_agree {t : String} {n : JsonNumber}
    (h : read t = .ok (.number n)) :
    (∃ v w, CellValue.ofJson? (.array [.string "number", .number n]) = some v ∧
      CellValue.ofJson? (.array [.string "number", .string t]) = some w ∧ v.shown = w.shown) ∧
    ∃ f g, Node.ofJson? (.array [.string "percentage", .number n]) = some f ∧
      Node.ofJson? (.array [.string "percentage", .string t]) = some g ∧ f.render = g.render := by
  obtain ⟨r, hwritten, hliteral⟩ := exists_numeral_of_read h
  have hnumber := JsonNumber.read?_text hliteral
  have hstring := Numeral.read?_of_isWrittenIn hwritten
  refine ⟨⟨⟨.number, n.text⟩, ⟨.number, t⟩, rfl, rfl, ?_⟩,
    .tagged "percentage" [.leaf n.text], .tagged "percentage" [.leaf t], rfl, rfl, ?_⟩
  · rw [CellValue.shown_of_read? hnumber, CellValue.shown_of_read? hstring]
  · rw [Node.render_percentage (percentage?_of_read? hnumber),
      Node.render_percentage (percentage?_of_read? hstring)]

/-- Minus zero is a number with a place after the point. -/
theorem Json.number_and_string_agree_minusZero :
    read "-0" = .ok (.number (.float (.zero true))) ∧
    (∃ v w, CellValue.ofJson? (.array [.string "number", .number (.float (.zero true))]) = some v ∧
      CellValue.ofJson? (.array [.string "number", .string "-0"]) = some w ∧ v.shown = w.shown) ∧
    ∃ f g, Node.ofJson? (.array [.string "percentage", .number (.float (.zero true))]) = some f ∧
      Node.ofJson? (.array [.string "percentage", .string "-0"]) = some g ∧ f.render = g.render := by
  have hread : read "-0" = .ok (.number (.float (.zero true))) := rfl
  exact ⟨hread, number_and_string_agree hread⟩

end LinkedSheets
