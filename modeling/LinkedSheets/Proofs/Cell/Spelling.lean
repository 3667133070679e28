import LinkedSheets.Proofs.Cell.Numeration
import LinkedSheets.Proofs.Text.Trimming

/-!
# Spellings of cells

What is left of a reference without surrounding blanks and dollar signs spells a cell: letters, then
digits. `parse` accepts the spellings of a cell and nothing else, and the canonical text of a cell
is one of them.
-/

namespace LinkedSheets.CellRef

open Text

/-- What counts of a reference. -/
def body (reference : String) : List Char := dollarless (trim reference.toList)

/-- Letters of a column followed by digits of a row, which is not zero. -/
def Spells (cs : List Char) (c : CellRef) : Prop :=
  ∃ letters numerals, cs = letters ++ numerals ∧ letters ≠ [] ∧ numerals ≠ [] ∧
    (∀ x ∈ letters, x.isAlpha = true) ∧ (∀ x ∈ numerals, x.isDigit = true) ∧
    Column.value letters = c.col.toNat ∧ ofDigits numerals = c.row.toNat ∧ c.row ≠ 0

/-- Rows and columns count from 1. -/
def IsProper (c : CellRef) : Prop := 1 ≤ c.row.toNat ∧ 1 ≤ c.col.toNat

instance (c : CellRef) : Decidable c.IsProper := inferInstanceAs (Decidable (_ ∧ _))

theorem toNat_pos_of_ne_zero {n : UInt32} (h : n ≠ 0) : 1 ≤ n.toNat := by
  have hn : n.toNat ≠ 0 := fun he => h (UInt32.toNat_inj.mp he)
  omega

theorem Spells.isProper {cs : List Char} {c : CellRef} (h : Spells cs c) : c.IsProper := by
  obtain ⟨letters, numerals, -, hl, -, -, -, hcol, -, hrow⟩ := h
  have hpos := Column.value_pos hl
  exact ⟨toNat_pos_of_ne_zero hrow, by omega⟩

theorem Spells.isBlank {cs : List Char} {c : CellRef} (h : Spells cs c) :
    ∀ x ∈ cs, isBlank x = false := by
  obtain ⟨letters, numerals, rfl, -, -, hl, hn, -⟩ := h
  intro x hx
  rcases List.mem_append.mp hx with hx | hx
  · exact isBlank_of_isAlpha (hl x hx)
  · exact isBlank_of_isDigit (hn x hx)

theorem Spells.isAlphanum {cs : List Char} {c : CellRef} (h : Spells cs c) :
    ∀ x ∈ cs, x.isAlphanum = true := by
  obtain ⟨letters, numerals, rfl, -, -, hl, hn, -⟩ := h
  intro x hx
  rw [Char.isAlphanum, Bool.or_eq_true]
  exact (List.mem_append.mp hx).imp (hl x) (hn x)

-- Of a reference that spells a cell, only blanks and dollar signs do not count.
theorem Spells.isAlphanum_of_mem {reference : String} {c : CellRef}
    (h : Spells (body reference) c) {x : Char} (hx : x ∈ reference.toList)
    (hblank : Text.isBlank x = false) (hdollar : x ≠ '$') : x.isAlphanum = true :=
  h.isAlphanum x (mem_dollarless (mem_trim hx hblank) hdollar)

theorem takeWhile_letters {letters numerals : List Char} (hl : ∀ x ∈ letters, x.isAlpha = true)
    (hn : ∀ x ∈ numerals, x.isDigit = true) :
    (letters ++ numerals).takeWhile Char.isAlpha = letters ∧
      (letters ++ numerals).dropWhile Char.isAlpha = numerals := by
  rw [List.takeWhile_append_of_pos hl, List.dropWhile_append_of_pos hl]
  cases numerals with
  | nil => exact ⟨List.append_nil _, rfl⟩
  | cons d rest =>
    have hd : ¬ d.isAlpha = true := by
      rw [isAlpha_of_isDigit (hn d List.mem_cons_self)]
      exact Bool.false_ne_true
    exact ⟨by rw [List.takeWhile_cons_of_neg hd, List.append_nil], List.dropWhile_cons_of_neg hd⟩

theorem toList_body (reference : String) :
    (stripAbsolute (trimmed reference)).toList = body reference := by
  rw [toList_stripAbsolute, toList_trimmed, body]

-- A reference is split into letters, which come back as capitals, and digits.
theorem split_eq_ok_iff {reference word : String} {row : UInt32} :
    split reference = .ok (word, row) ↔
      ∃ letters numerals, body reference = letters ++ numerals ∧ letters ≠ [] ∧ numerals ≠ [] ∧
        (∀ x ∈ letters, x.isAlpha = true) ∧ (∀ x ∈ numerals, x.isDigit = true) ∧
        word = String.ofList (letters.map Char.toUpper) ∧ ofDigits numerals = row.toNat ∧
        row ≠ 0 := by
  unfold split
  rw [toList_body]
  constructor
  · intro h
    simp only at h
    -- The checks come in the order of the code: the shape, the size of the row, the row zero.
    split at h
    · exact absurd h (by simp)
    · rename_i hshape
      simp only [Bool.or_eq_true, List.isEmpty_iff, Bool.not_eq_true', not_or,
        Bool.not_eq_false, List.all_eq_true] at hshape
      split at h
      · exact absurd h (by simp)
      · rename_i hbound
        have hofNat := UInt32.toNat_ofNat_of_lt' (Nat.lt_of_not_le hbound)
        split at h
        · exact absurd h (by simp)
        · rename_i hzero
          simp only [Except.ok.injEq, Prod.mk.injEq] at h
          refine ⟨_, _, List.takeWhile_append_dropWhile.symm, hshape.1.1, hshape.1.2,
            fun x hx => ?_, hshape.2, h.1.symm, by rw [← h.2, hofNat], ?_⟩
          · exact List.mem_takeWhile_imp hx
          · intro he
            rw [← h.2] at he
            rw [he] at hofNat
            exact hzero hofNat.symm
  · rintro ⟨letters, numerals, hbody, hl, hn, hal, hdn, rfl, hrow, hzero⟩
    have htake := takeWhile_letters hal hdn
    have hlt : ¬ Column.bound ≤ row.toNat := Nat.not_le.mpr row.toNat_lt
    have hpos := toNat_pos_of_ne_zero hzero
    simp only [hbody, htake.1, htake.2, hrow]
    rw [if_neg, if_neg hlt, if_neg (by omega), UInt32.ofNat_toNat]
    simp only [Bool.or_eq_true, List.isEmpty_iff, Bool.not_eq_true', not_or, Bool.not_eq_false,
      List.all_eq_true]
    exact ⟨⟨hl, hn⟩, hdn⟩

theorem parse_eq_ok_iff_exists {reference : String} {c : CellRef} :
    parse reference = .ok c ↔
      ∃ word, split reference = .ok (word, c.row) ∧ Column.number word = .ok c.col := by
  unfold parse
  cases hs : split reference with
  | error e => simp [bind, Except.bind]
  | ok p =>
    obtain ⟨word, row⟩ := p
    cases hn : Column.number word with
    | error e =>
      simp only [bind, Except.bind, hn, reduceCtorEq, Except.ok.injEq, Prod.mk.injEq, false_iff]
      rintro ⟨w, ⟨rfl, -⟩, hw⟩
      rw [hn] at hw
      exact absurd hw (by simp)
    | ok col =>
      simp only [bind, Except.bind, hn, pure, Except.pure, Except.ok.injEq, Prod.mk.injEq]
      constructor
      · rintro rfl
        exact ⟨word, ⟨rfl, rfl⟩, hn⟩
      · rintro ⟨w, ⟨rfl, rfl⟩, hw⟩
        rw [hn, Except.ok.injEq] at hw
        rw [hw]

-- A reference is read as a cell if what counts of it spells the cell.
theorem parse_eq_ok_iff {reference : String} {c : CellRef} :
    parse reference = .ok c ↔ Spells (body reference) c := by
  rw [parse_eq_ok_iff_exists]
  constructor
  · rintro ⟨word, hsplit, hnumber⟩
    obtain ⟨letters, numerals, hbody, hl, hn, hal, hdn, rfl, hrow, hzero⟩ :=
      split_eq_ok_iff.mp hsplit
    have hcol := (Column.number_eq_ok_iff.mp hnumber).2.2
    rw [String.toList_ofList, Column.value_map_toUpper] at hcol
    exact ⟨letters, numerals, hbody, hl, hn, hal, hdn, hcol, hrow, hzero⟩
  · rintro ⟨letters, numerals, hbody, hl, hn, hal, hdn, hcol, hrow, hzero⟩
    have hsplit := split_eq_ok_iff.mpr
      ⟨letters, numerals, hbody, hl, hn, hal, hdn, rfl, hrow, hzero⟩
    -- The column is read from the capitals of the letters, which have the same value.
    refine ⟨_, hsplit, Column.number_eq_ok_iff.mpr ?_⟩
    rw [String.toList_ofList, Column.value_map_toUpper]
    refine ⟨by simpa using hl, fun x hx => ?_, hcol⟩
    obtain ⟨y, hy, rfl⟩ := List.mem_map.mp hx
    rw [Char.isAlpha_toUpper_eq_isAlpha, hal y hy]

theorem spells_map_toUpper {cs : List Char} {c : CellRef} :
    Spells (cs.map Char.toUpper) c ↔ Spells cs c := by
  constructor
  · rintro ⟨letters, numerals, hcs, hl, hn, hal, hdn, hcol, hrow, hzero⟩
    obtain ⟨ls, ns, rfl, rfl, rfl⟩ := List.map_eq_append_iff.mp hcs
    have hdn' : ∀ x ∈ ns, x.isDigit = true := fun x hx => by
      rw [← isDigit_toUpper]
      exact hdn _ (List.mem_map_of_mem hx)
    have hns : ns.map Char.toUpper = ns :=
      (List.map_congr_left fun x hx => toUpper_of_isDigit (hdn' x hx)).trans (List.map_id ns)
    refine ⟨ls, ns, rfl, by simpa using hl, by simpa using hn, fun x hx => ?_, hdn',
      by rw [← hcol, Column.value_map_toUpper], by rw [← hrow, hns], hzero⟩
    rw [← Char.isAlpha_toUpper_eq_isAlpha]
    exact hal _ (List.mem_map_of_mem hx)
  · rintro ⟨letters, numerals, rfl, hl, hn, hal, hdn, hcol, hrow, hzero⟩
    -- Digits have no capitals of their own.
    have hns : numerals.map Char.toUpper = numerals :=
      (List.map_congr_left fun x hx => toUpper_of_isDigit (hdn x hx)).trans (List.map_id numerals)
    refine ⟨letters.map Char.toUpper, numerals, by rw [List.map_append, hns], by simpa using hl, hn,
      fun x hx => ?_, hdn, by rw [Column.value_map_toUpper, hcol], hrow, hzero⟩
    obtain ⟨y, hy, rfl⟩ := List.mem_map.mp hx
    rw [Char.isAlpha_toUpper_eq_isAlpha, hal y hy]

theorem isDigit_digitChar (d : Nat) : (digitChar d).isDigit = true := by
  have h : d % 10 < 10 := Nat.mod_lt _ (by decide)
  unfold digitChar
  generalize d % 10 = r at h
  revert r
  decide

theorem isDigit_of_mem_digits {n : Nat} {c : Char} (h : c ∈ digits n) : c.isDigit = true := by
  induction n using Nat.strongRecOn with
  | ind n ih =>
    rw [digits] at h
    split at h
    · rw [List.mem_singleton.mp h]
      exact isDigit_digitChar n
    · rcases List.mem_append.mp h with h | h
      · exact ih (n / 10) (by omega) h
      · rw [List.mem_singleton.mp h]
        exact isDigit_digitChar n

theorem digits_ne_nil (n : Nat) : digits n ≠ [] := by
  rw [digits]
  split
  · exact List.cons_ne_nil _ _
  · exact List.append_ne_nil_of_right_ne_nil _ (List.cons_ne_nil _ _)

theorem toList_text (c : CellRef) :
    c.text.toList = Column.lettersOf c.col.toNat ++ digits c.row.toNat := by
  simp only [text, columnLetters, Column.letters, natText, String.toList_append,
    String.toList_ofList]

-- The text of a cell consists of capitals and digits.
theorem mem_toList_text {c : CellRef} {x : Char} (h : x ∈ c.text.toList) :
    x.isAlpha = true ∨ x.isDigit = true := by
  rw [toList_text] at h
  rcases List.mem_append.mp h with h | h
  · exact Or.inl (Column.mem_lettersOf h).1
  · exact Or.inr (isDigit_of_mem_digits h)

theorem isBlank_of_mem_text {c : CellRef} {x : Char} (h : x ∈ c.text.toList) :
    Text.isBlank x = false := by
  rcases mem_toList_text h with h | h
  · exact isBlank_of_isAlpha h
  · exact isBlank_of_isDigit h

theorem spells_text {c : CellRef} (h : c.IsProper) : Spells c.text.toList c := by
  refine ⟨_, _, toList_text c, Column.lettersOf_ne_nil h.2, digits_ne_nil _,
    fun x hx => (Column.mem_lettersOf hx).1, fun x hx => isDigit_of_mem_digits hx,
    Column.value_lettersOf _, ofDigits_digits _, fun he => ?_⟩
  have hrow := h.1
  rw [he] at hrow
  exact absurd hrow (by decide)

theorem body_text (c : CellRef) : body c.text = c.text.toList := by
  rw [body, trim_eq_self fun x hx => isBlank_of_mem_text hx]
  apply dollarless_eq_self
  intro x hx he
  rcases mem_toList_text hx with h | h
  · rw [he] at h
    exact absurd h (by decide)
  · rw [he] at h
    exact absurd h (by decide)

-- The canonical text of a cell is read as that cell.
theorem parse_text {c : CellRef} (h : c.IsProper) : parse c.text = .ok c := by
  rw [parse_eq_ok_iff, body_text]
  exact spells_text h

theorem text_injective {c d : CellRef} (hc : c.IsProper) (hd : d.IsProper)
    (h : c.text = d.text) : c = d := by
  have hp := parse_text hc
  rw [h, parse_text hd, Except.ok.injEq] at hp
  exact hp.symm

theorem isProper_of_parse {reference : String} {c : CellRef} (h : parse reference = .ok c) :
    c.IsProper :=
  (parse_eq_ok_iff.mp h).isProper

end LinkedSheets.CellRef
