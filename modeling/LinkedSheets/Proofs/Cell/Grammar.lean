import LinkedSheets.Proofs.Cell.Spelling

/-!
# References and what is wrong with other texts

What counts of a reference has two parts, letters and digits. The numbers that they write decide how
it is read: as a cell, or with one of two errors. Each text is read in just one of these ways.
-/

namespace LinkedSheets

namespace Column

-- Letters are too many as soon as those read so far write too large a number.
theorem numberFrom_of_bound_le {whole : String} {acc : Nat} {cs : List Char} (hacc : acc < bound)
    (hletters : ∀ c ∈ cs, c.isAlpha = true) (hlarge : bound ≤ valueFrom acc cs) :
    numberFrom whole acc cs = .error (.outOfRange whole) := by
  induction cs generalizing acc with
  | nil => exact absurd hlarge (Nat.not_le.mpr hacc)
  | cons c rest ih =>
    rw [List.forall_mem_cons] at hletters
    rw [numberFrom, if_pos hletters.1]
    by_cases hnext : acc * 26 + letterValue c < bound
    · simp only [if_pos hnext]
      exact ih hnext hletters.2 hlarge
    · simp only [if_neg hnext]

theorem number_of_bound_le {text : String} (hne : text.toList ≠ [])
    (hletters : ∀ c ∈ text.toList, c.isAlpha = true) (hlarge : bound ≤ value text.toList) :
    number text = .error (.outOfRange text) := by
  have ht : text.isEmpty = false := by
    rw [Bool.eq_false_iff, ne_eq, String.isEmpty_iff]
    exact fun he => hne (String.toList_eq_nil_iff.mpr he)
  rw [number, ht, if_neg Bool.false_ne_true]
  exact numberFrom_of_bound_le (by decide) hletters hlarge

end Column

namespace CellRef

open Text

/-- Letters followed by digits, one at least of each. -/
structure Parts (cs : List Char) where
  letters : List Char
  numerals : List Char
  text : letters ++ numerals = cs
  letters_ne_nil : letters ≠ []
  numerals_ne_nil : numerals ≠ []
  isAlpha : ∀ x ∈ letters, x.isAlpha = true
  isDigit : ∀ x ∈ numerals, x.isDigit = true

namespace Parts

variable {cs : List Char}

/-- The number of the column, however large. -/
def column (p : Parts cs) : Nat := Column.value p.letters

/-- The number of the row, however large. -/
def row (p : Parts cs) : Nat := ofDigits p.numerals

/-- The cell in this column and row, if they have 32 bits. -/
def cell (p : Parts cs) : CellRef := ⟨UInt32.ofNat p.row, UInt32.ofNat p.column⟩

/-- The letters as capitals. -/
def capitals (p : Parts cs) : String := String.ofList (p.letters.map Char.toUpper)

theorem takeWhile_isAlpha (p : Parts cs) : cs.takeWhile Char.isAlpha = p.letters := by
  have h := (takeWhile_letters p.isAlpha p.isDigit).1
  rwa [p.text] at h

theorem dropWhile_isAlpha (p : Parts cs) : cs.dropWhile Char.isAlpha = p.numerals := by
  have h := (takeWhile_letters p.isAlpha p.isDigit).2
  rwa [p.text] at h

theorem toList_capitals_ne_nil (p : Parts cs) : p.capitals.toList ≠ [] := by
  rw [capitals, String.toList_ofList, ne_eq, List.map_eq_nil_iff]
  exact p.letters_ne_nil

theorem isAlpha_of_mem_capitals (p : Parts cs) {x : Char} (h : x ∈ p.capitals.toList) :
    x.isAlpha = true := by
  rw [capitals, String.toList_ofList] at h
  obtain ⟨y, hy, rfl⟩ := List.mem_map.mp h
  rw [Char.isAlpha_toUpper_eq_isAlpha, p.isAlpha y hy]

theorem value_capitals (p : Parts cs) : Column.value p.capitals.toList = p.column := by
  rw [capitals, String.toList_ofList, Column.value_map_toUpper, column]

/-- Parts spell a cell if they write its row and its column. -/
theorem spells (p : Parts cs) {c : CellRef} (hpos : p.row ≠ 0) (hrow : p.row = c.row.toNat)
    (hcol : p.column = c.col.toNat) : Spells cs c := by
  refine ⟨p.letters, p.numerals, p.text.symm, p.letters_ne_nil, p.numerals_ne_nil, p.isAlpha,
    p.isDigit, hcol, hrow, fun hzero => hpos ?_⟩
  rw [hrow, hzero]
  rfl

end Parts

theorem split_of_isEmpty {reference : String} (h : IsEmpty (Parts (body reference))) :
    split reference = .error (.invalid reference) := by
  unfold split
  rw [toList_body]
  apply if_pos
  -- If the test went well, there would be parts.
  by_contra hshape
  simp only [Bool.or_eq_true, List.isEmpty_iff, Bool.not_eq_true', not_or, Bool.not_eq_false,
    List.all_eq_true] at hshape
  exact h.false
    { letters := (body reference).takeWhile Char.isAlpha
      numerals := (body reference).dropWhile Char.isAlpha
      text := List.takeWhile_append_dropWhile
      letters_ne_nil := hshape.1.1
      numerals_ne_nil := hshape.1.2
      isAlpha := fun x hx => List.mem_takeWhile_imp hx
      isDigit := hshape.2 }

-- The row is looked at before the column, and whether it is too large before whether it is zero.
theorem split_of_parts {reference : String} (p : Parts (body reference)) :
    split reference =
      if 2 ^ 32 ≤ p.row then .error (.outOfRange reference)
      else if p.row = 0 then .error (.invalid reference)
      else .ok (p.capitals, UInt32.ofNat p.row) := by
  unfold split
  simp only [toList_body, p.takeWhile_isAlpha, p.dropWhile_isAlpha]
  rw [if_neg]
  · rfl
  · simp only [Bool.or_eq_true, List.isEmpty_iff, Bool.not_eq_true', not_or, Bool.not_eq_false,
      List.all_eq_true]
    exact ⟨⟨p.letters_ne_nil, p.numerals_ne_nil⟩, p.isDigit⟩

theorem parse_of_split_eq_error {reference : String} {e : RefError}
    (h : split reference = .error e) : parse reference = .error e := by
  rw [parse, h]
  rfl

/-- How a reference is read, by the parts of what counts of it. -/
inductive Outcome (reference : String) : Except RefError CellRef → Prop where
  | shapeless (h : IsEmpty (Parts (body reference))) :
      Outcome reference (.error (.invalid reference))
  | rowZero (p : Parts (body reference)) (h : p.row = 0) :
      Outcome reference (.error (.invalid reference))
  | rowTooLarge (p : Parts (body reference)) (h : 2 ^ 32 ≤ p.row) :
      Outcome reference (.error (.outOfRange reference))
  | columnTooLarge (p : Parts (body reference)) (hpos : p.row ≠ 0) (hrow : p.row < 2 ^ 32)
      (h : 2 ^ 32 ≤ p.column) : Outcome reference (.error (.outOfRange p.capitals))
  | cell (p : Parts (body reference)) {c : CellRef} (hpos : p.row ≠ 0)
      (hrow : p.row = c.row.toNat) (hcol : p.column = c.col.toNat) : Outcome reference (.ok c)

theorem Outcome.parse_eq {reference : String} {r : Except RefError CellRef}
    (h : Outcome reference r) : parse reference = r := by
  cases h with
  | shapeless h => exact parse_of_split_eq_error (split_of_isEmpty h)
  | rowZero p h =>
    apply parse_of_split_eq_error
    rw [split_of_parts p, h]
    rfl
  | rowTooLarge p h =>
    apply parse_of_split_eq_error
    rw [split_of_parts p, if_pos h]
  | columnTooLarge p hpos hrow h =>
    have hnumber : Column.number p.capitals = .error (.outOfRange p.capitals) := by
      apply Column.number_of_bound_le p.toList_capitals_ne_nil fun x => p.isAlpha_of_mem_capitals
      rw [p.value_capitals]
      exact h
    rw [parse, split_of_parts p, if_neg (Nat.not_le.mpr hrow), if_neg hpos]
    show (Column.number p.capitals >>= _) = _
    rw [hnumber]
    rfl
  | cell p hpos hrow hcol => exact parse_eq_ok_iff.mpr (p.spells hpos hrow hcol)

theorem Outcome.of_lt {reference : String} (p : Parts (body reference)) (hpos : p.row ≠ 0)
    (hrow : p.row < 2 ^ 32) (hcol : p.column < 2 ^ 32) : Outcome reference (.ok p.cell) :=
  .cell p hpos (UInt32.toNat_ofNat_of_lt' hrow).symm (UInt32.toNat_ofNat_of_lt' hcol).symm

theorem exists_outcome (reference : String) : ∃ r, Outcome reference r := by
  rcases isEmpty_or_nonempty (Parts (body reference)) with hnone | ⟨⟨p⟩⟩
  · exact ⟨_, .shapeless hnone⟩
  · by_cases hzero : p.row = 0
    · exact ⟨_, .rowZero p hzero⟩
    · rcases Nat.lt_or_ge p.row (2 ^ 32) with hrow | hrow
      · rcases Nat.lt_or_ge p.column (2 ^ 32) with hcol | hcol
        · exact ⟨_, .of_lt p hzero hrow hcol⟩
        · exact ⟨_, .columnTooLarge p hzero hrow hcol⟩
      · exact ⟨_, .rowTooLarge p hrow⟩

/-- A reference is read in one of these ways, and in no other. -/
theorem parse_eq_iff_outcome {reference : String} {r : Except RefError CellRef} :
    parse reference = r ↔ Outcome reference r := by
  constructor
  · rintro rfl
    obtain ⟨r, h⟩ := exists_outcome reference
    rw [h.parse_eq]
    exact h
  · exact Outcome.parse_eq

theorem exists_parse_eq_ok_iff {reference : String} :
    (∃ c, parse reference = .ok c) ↔
      ∃ p : Parts (body reference), 1 ≤ p.row ∧ p.row < 2 ^ 32 ∧ p.column < 2 ^ 32 := by
  constructor
  · rintro ⟨c, hc⟩
    cases parse_eq_iff_outcome.mp hc with
    | cell p hpos hrow hcol =>
      have hrow' := c.row.toNat_lt
      have hcol' := c.col.toNat_lt
      exact ⟨p, Nat.one_le_iff_ne_zero.mpr hpos, by omega, by omega⟩
  · rintro ⟨p, hpos, hrow, hcol⟩
    exact ⟨p.cell, (Outcome.of_lt p (Nat.one_le_iff_ne_zero.mp hpos) hrow hcol).parse_eq⟩

theorem parse_eq_ok_iff_parts {reference : String} {c : CellRef} :
    parse reference = .ok c ↔
      ∃ p : Parts (body reference), 1 ≤ p.row ∧ p.row = c.row.toNat ∧ p.column = c.col.toNat := by
  rw [parse_eq_iff_outcome]
  constructor
  · intro h
    cases h with
    | cell p hpos hrow hcol => exact ⟨p, Nat.one_le_iff_ne_zero.mpr hpos, hrow, hcol⟩
  · rintro ⟨p, hpos, hrow, hcol⟩
    exact .cell p (Nat.one_le_iff_ne_zero.mp hpos) hrow hcol

theorem parse_eq_invalid_iff {reference text : String} :
    parse reference = .error (.invalid text) ↔
      text = reference ∧ (IsEmpty (Parts (body reference)) ∨
        ∃ p : Parts (body reference), p.row = 0) := by
  rw [parse_eq_iff_outcome]
  constructor
  · intro h
    cases h with
    | shapeless h => exact ⟨rfl, Or.inl h⟩
    | rowZero p h => exact ⟨rfl, Or.inr ⟨p, h⟩⟩
  · rintro ⟨rfl, h | ⟨p, h⟩⟩
    · exact .shapeless h
    · exact .rowZero p h

theorem parse_eq_outOfRange_iff {reference text : String} :
    parse reference = .error (.outOfRange text) ↔
      ∃ p : Parts (body reference), p.row ≠ 0 ∧
        (2 ^ 32 ≤ p.row ∧ text = reference ∨
          p.row < 2 ^ 32 ∧ 2 ^ 32 ≤ p.column ∧ text = p.capitals) := by
  rw [parse_eq_iff_outcome]
  constructor
  · intro h
    cases h with
    | rowTooLarge p h => exact ⟨p, by omega, Or.inl ⟨h, rfl⟩⟩
    | columnTooLarge p hpos hrow h => exact ⟨p, hpos, Or.inr ⟨hrow, h, rfl⟩⟩
  · rintro ⟨p, hpos, ⟨h, rfl⟩ | ⟨hrow, h, rfl⟩⟩
    · exact .rowTooLarge p h
    · exact .columnTooLarge p hpos hrow h

/-- Texts that are read as cells are those whose letters and digits write numbers of 32 bits, of
which that of the row is not zero, and these are the numbers of the cell. A text without such parts,
or with the row zero, is invalid, and any other text is out of range. The text of a cell is read as
that cell, and different cells have different texts. -/
theorem parse_grammar :
    (∀ reference : String,
      ((∃ c, parse reference = .ok c) ↔
        ∃ p : Parts (body reference), 1 ≤ p.row ∧ p.row < 2 ^ 32 ∧ p.column < 2 ^ 32) ∧
      (∀ c, parse reference = .ok c ↔
        ∃ p : Parts (body reference),
          1 ≤ p.row ∧ p.row = c.row.toNat ∧ p.column = c.col.toNat) ∧
      (∀ text, parse reference = .error (.invalid text) ↔
        text = reference ∧ (IsEmpty (Parts (body reference)) ∨
          ∃ p : Parts (body reference), p.row = 0)) ∧
      ∀ text, parse reference = .error (.outOfRange text) ↔
        ∃ p : Parts (body reference), p.row ≠ 0 ∧
          (2 ^ 32 ≤ p.row ∧ text = reference ∨
            p.row < 2 ^ 32 ∧ 2 ^ 32 ≤ p.column ∧ text = p.capitals)) ∧
    ∀ c : CellRef, c.IsProper →
      parse c.text = .ok c ∧ ∀ d : CellRef, d.IsProper → c.text = d.text → c = d := by
  constructor
  · exact fun reference => ⟨exists_parse_eq_ok_iff, fun c => parse_eq_ok_iff_parts,
      fun text => parse_eq_invalid_iff, fun text => parse_eq_outOfRange_iff⟩
  · exact fun c hc => ⟨parse_text hc, fun d hd => text_injective hc hd⟩

/-- Column and row of the last cell that has 32 bits for each. -/
def lastParts : Parts (body " $mwlqKwu$04294967295\n") where
  letters := "mwlqKwu".toList
  numerals := "04294967295".toList
  text := by decide
  letters_ne_nil := by decide
  numerals_ne_nil := by decide
  isAlpha := List.all_eq_true.mp (by decide)
  isDigit := List.all_eq_true.mp (by decide)

theorem parse_grammar_last :
    (∃ c, parse " $mwlqKwu$04294967295\n" = .ok c) ∧
      (⟨4294967295, 4294967295⟩ : CellRef).IsProper ∧ (⟨4294967295, 1⟩ : CellRef).IsProper ∧
      parse (text ⟨4294967295, 4294967295⟩) = .ok ⟨4294967295, 4294967295⟩ ∧
      text ⟨4294967295, 4294967295⟩ ≠ text ⟨4294967295, 1⟩ := by
  have hlast : (⟨4294967295, 4294967295⟩ : CellRef).IsProper := by decide +kernel
  have hfirst : (⟨4294967295, 1⟩ : CellRef).IsProper := by decide +kernel
  have hread := parse_grammar.2 ⟨4294967295, 4294967295⟩ hlast
  refine ⟨(parse_grammar.1 _).1.mpr ⟨lastParts, by decide⟩, hlast, hfirst, hread.1, fun h => ?_⟩
  exact absurd (hread.2 _ hfirst h) (by decide)

end CellRef

end LinkedSheets
