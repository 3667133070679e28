import LinkedSheets.Proofs.Cell.Spelling

/-!
# Canonical spellings

Of all spellings of a cell its text is the one in capitals and without leading zeros. So a reference
that only loses its dollar signs becomes the text of its cell exactly if it has no blanks, no small
letters and no leading zero.
-/

namespace LinkedSheets

namespace Text

theorem digitChar_digitValue {c : Char} (h : c.isDigit = true) :
    digitChar (digitValue c) = c ∧ digitValue c < 10 := by
  have hcode := toNat_of_isDigit h
  have hbase : '0'.toNat = 48 := rfl
  have hvalue : digitValue c = c.toNat - 48 := by rw [digitValue, hbase]
  have hsmall : digitValue c < 10 := by omega
  refine ⟨?_, hsmall⟩
  rw [digitChar, hbase, Nat.mod_eq_of_lt hsmall, hvalue, Nat.add_sub_cancel' hcode.1,
    Char.ofNat_toNat]

theorem ofDigits_append_singleton (cs : List Char) (c : Char) :
    ofDigits (cs ++ [c]) = ofDigits cs * 10 + digitValue c := by
  unfold ofDigits ofDigitsFrom
  rw [List.foldl_append]
  rfl

theorem digits_of_lt {n : Nat} (h : n < 10) : digits n = [digitChar n] := by
  rw [digits, if_pos h]

theorem digits_append_digit {n d : Nat} (hn : n ≠ 0) (hd : d < 10) :
    digits (n * 10 + d) = digits n ++ [digitChar d] := by
  have hdiv : (n * 10 + d) / 10 = n := by omega
  have hmod : (n * 10 + d) % 10 = d % 10 := by omega
  rw [digits, if_neg (by omega), hdiv, digitChar, hmod, digitChar]

-- Digits are those of the number that they write if none of them is a leading zero.
theorem digits_ofDigits {cs : List Char} (h : ∀ c ∈ cs, c.isDigit = true) (hne : cs ≠ [])
    (hzero : cs.head? ≠ some '0') : digits (ofDigits cs) = cs := by
  induction cs using List.reverseRecOn with
  | nil => exact absurd rfl hne
  | append_singleton rest c ih =>
    simp only [List.forall_mem_append, List.forall_mem_singleton] at h
    obtain ⟨hchar, hsmall⟩ := digitChar_digitValue h.2
    by_cases hrest : rest = []
    · have hnone : ofDigits [] = 0 := rfl
      rw [hrest, ofDigits_append_singleton, hnone, Nat.zero_mul, Nat.zero_add, digits_of_lt hsmall,
        hchar, List.nil_append]
    · rw [List.head?_append_of_ne_nil _ hrest] at hzero
      have hdigits := ih h.1 hrest hzero
      have hn : ofDigits rest ≠ 0 := by
        intro hn
        rw [hn, digits_of_lt (by decide)] at hdigits
        rw [← hdigits] at hzero
        exact hzero rfl
      rw [ofDigits_append_singleton, digits_append_digit hn hsmall, hdigits, hchar]

theorem head?_digits {n : Nat} (h : n ≠ 0) : (digits n).head? ≠ some '0' := by
  induction n using Nat.strongRecOn with
  | ind n ih =>
    rw [digits]
    split
    · rename_i hsmall
      rw [List.head?_singleton, ne_eq, Option.some.injEq]
      intro hzero
      have hvalue := digitValue_digitChar n
      rw [hzero, Nat.mod_eq_of_lt hsmall] at hvalue
      exact h hvalue.symm
    · rw [List.head?_append_of_ne_nil _ (CellRef.digits_ne_nil _)]
      exact ih (n / 10) (by omega) (by omega)

end Text

namespace CellRef

open Text

/-- A reference without blanks and small letters whose number has no leading zero. -/
structure IsCanonical (reference : String) : Prop where
  blank : ∀ x ∈ reference.toList, isBlank x = false
  lower : ∀ x ∈ reference.toList, x.isLower = false
  zero : (reference.toList.filter Char.isDigit).head? ≠ some '0'

theorem filter_isDigit {letters numerals : List Char} (hl : ∀ x ∈ letters, x.isAlpha = true)
    (hn : ∀ x ∈ numerals, x.isDigit = true) :
    (letters ++ numerals).filter Char.isDigit = numerals := by
  have hnone : letters.filter Char.isDigit = [] := by
    rw [List.filter_eq_nil_iff]
    intro x hx hdigit
    have halpha := isAlpha_of_isDigit hdigit
    rw [hl x hx] at halpha
    exact Bool.false_ne_true halpha.symm
  rw [List.filter_append, hnone, List.filter_eq_self.mpr hn, List.nil_append]

theorem filter_isDigit_dollarless (cs : List Char) :
    (dollarless cs).filter Char.isDigit = cs.filter Char.isDigit := by
  rw [dollarless, List.filter_filter]
  congr 1
  funext x
  by_cases hx : x = '$'
  · rw [hx]
    rfl
  · simp [hx]

theorem isLower_of_mem_text {c : CellRef} {x : Char} (h : x ∈ c.text.toList) :
    x.isLower = false := by
  rw [toList_text, List.mem_append] at h
  rw [← Bool.not_eq_true]
  intro hlower
  rcases h with hletter | hdigit
  · have hupper := (Column.mem_lettersOf hletter).2
    rw [← hupper, Char.isLower_toUpper_eq_false] at hlower
    exact Bool.false_ne_true hlower
  · have halpha := isAlpha_of_isDigit (isDigit_of_mem_digits hdigit)
    rw [Char.isAlpha, hlower, Bool.or_true] at halpha
    exact Bool.false_ne_true halpha.symm

-- If dollar signs are all that a reference has besides a text, that is all there is in it.
theorem mem_text_of_stripAbsolute {reference : String} {d : CellRef}
    (h : stripAbsolute reference = d.text) {x : Char} (hx : x ∈ reference.toList) :
    x = '$' ∨ x ∈ d.text.toList := by
  by_cases hdollar : x = '$'
  · exact Or.inl hdollar
  · rw [← h, toList_stripAbsolute]
    exact Or.inr (mem_dollarless hx hdollar)

theorem isBlank_of_stripAbsolute {reference : String} {d : CellRef}
    (h : stripAbsolute reference = d.text) : ∀ x ∈ reference.toList, isBlank x = false := by
  intro x hx
  rcases mem_text_of_stripAbsolute h hx with rfl | hx
  · exact isBlank_dollar
  · exact isBlank_of_mem_text hx

-- A reference without its dollar signs is no text but that of its cell.
theorem eq_of_stripAbsolute_eq_text {reference : String} {c d : CellRef}
    (h : parse reference = .ok c) (hd : d.IsProper) (htext : stripAbsolute reference = d.text) :
    d = c := by
  have hbody : body reference = d.text.toList := by
    rw [body, trim_eq_self (isBlank_of_stripAbsolute htext), ← htext, toList_stripAbsolute]
  have hparse : parse reference = .ok d := by
    rw [parse_eq_ok_iff, hbody]
    exact spells_text hd
  exact Except.ok.inj (hparse.symm.trans h)

-- Without its dollar signs a reference is the text of its cell just if it is canonical.
theorem stripAbsolute_eq_text_iff {reference : String} {c : CellRef}
    (h : parse reference = .ok c) : stripAbsolute reference = c.text ↔ IsCanonical reference := by
  obtain ⟨letters, numerals, hbody, hl, hn, hal, hdn, hcol, hrow, hzero⟩ := parse_eq_ok_iff.mp h
  have hrow0 : c.row.toNat ≠ 0 := Nat.ne_of_gt (toNat_pos_of_ne_zero hzero)
  constructor
  · intro htext
    refine ⟨isBlank_of_stripAbsolute htext, fun x hx => ?_, ?_⟩
    · rcases mem_text_of_stripAbsolute htext hx with rfl | hx
      · rfl
      · exact isLower_of_mem_text hx
    · rw [← filter_isDigit_dollarless, ← toList_stripAbsolute, htext, toList_text,
        filter_isDigit (fun x hx => (Column.mem_lettersOf hx).1)
          fun x hx => isDigit_of_mem_digits hx]
      exact head?_digits hrow0
  · rintro ⟨hblank, hlower, hhead⟩
    have hself : dollarless reference.toList = letters ++ numerals := by
      rw [← hbody, body, trim_eq_self hblank]
    have hmem {x : Char} (hx : x ∈ letters ++ numerals) : x ∈ reference.toList := by
      rw [← hself] at hx
      exact List.mem_of_mem_filter hx
    have hupper : ∀ x ∈ letters, x.isUpper = true := by
      intro x hx
      have halpha := hal x hx
      rw [Char.isAlpha, hlower x (hmem (List.mem_append_left _ hx)), Bool.or_false] at halpha
      exact halpha
    rw [← filter_isDigit_dollarless, hself, filter_isDigit hal hdn] at hhead
    rw [← String.toList_inj, toList_stripAbsolute, toList_text, hself, ← hcol, ← hrow,
      Column.lettersOf_value hupper, digits_ofDigits hdn hn hhead]

end CellRef

end LinkedSheets
