import LinkedSheets.Proofs.Cell.Grammar

/-!
# Columns and their letters

Letters are a numeral without a zero: each one stands for its place in the alphabet, times a power
of 26. Every column but the zeroth has one numeral in capitals, and every numeral is the one of some
column, up to capitals. Only those whose value has more than 32 bits are refused.
-/

namespace LinkedSheets.Column

def alphabet : List Char := "ABCDEFGHIJKLMNOPQRSTUVWXYZ".toList

/-- The place of a letter in the alphabet, counted from 1. Small letters stand where capitals do. -/
def place (c : Char) : Nat := alphabet.idxOf c.toUpper + 1

/-- The value of a numeral in which the digits of base 26 go from 1 to 26. -/
def numeralValue : List Char → Nat
  | [] => 0
  | c :: rest => place c * 26 ^ rest.length + numeralValue rest

theorem mem_alphabet_letter {i : Nat} (h : i < 26) : letter i ∈ alphabet := by
  revert i
  decide

theorem idxOf_letter {i : Nat} (h : i < 26) : alphabet.idxOf (letter i) = i := by
  revert i
  decide

theorem isUpper_toUpper {c : Char} (h : c.isAlpha = true) : c.toUpper.isUpper = true := by
  have halpha : c.toUpper.isAlpha = true := by rw [Char.isAlpha_toUpper_eq_isAlpha, h]
  rw [Char.isAlpha, Char.isLower_toUpper_eq_false, Bool.or_false] at halpha
  exact halpha

theorem place_eq {c : Char} (h : c.isAlpha = true) : place c = letterValue c := by
  obtain ⟨i, hi, hvalue, hletter⟩ := letter_letterValue (isUpper_toUpper h)
  rw [place, ← hletter, idxOf_letter hi, ← letterValue_toUpper, hvalue]

-- Reading on makes the number read so far count once more for each letter.
theorem valueFrom_eq {acc : Nat} {cs : List Char} (h : ∀ c ∈ cs, c.isAlpha = true) :
    valueFrom acc cs = acc * 26 ^ cs.length + numeralValue cs := by
  induction cs generalizing acc with
  | nil =>
    show acc = acc * 1 + 0
    omega
  | cons c rest ih =>
    rw [List.forall_mem_cons] at h
    rw [valueFrom_cons, ih h.2, numeralValue, place_eq h.1, List.length_cons, pow_succ]
    ring

theorem value_eq_numeralValue {cs : List Char} (h : ∀ c ∈ cs, c.isAlpha = true) :
    value cs = numeralValue cs := by
  rw [value_eq, valueFrom_eq h, Nat.zero_mul, Nat.zero_add]

theorem toList_letters (n : UInt32) : (letters n).toList = lettersOf n.toNat := by
  rw [letters, String.toList_ofList]

theorem mem_alphabet_of_mem_lettersOf {n : Nat} {c : Char} (h : c ∈ lettersOf n) :
    c ∈ alphabet := by
  obtain ⟨halpha, hupper⟩ := mem_lettersOf h
  have hcapital := isUpper_toUpper halpha
  rw [hupper] at hcapital
  obtain ⟨i, hi, -, hletter⟩ := letter_letterValue hcapital
  rw [← hletter]
  exact mem_alphabet_letter hi

theorem number_letters {n : UInt32} (h : 1 ≤ n.toNat) : number (letters n) = .ok n := by
  rw [number_eq_ok_iff, toList_letters]
  exact ⟨lettersOf_ne_nil h, fun c hc => (mem_lettersOf hc).1, value_lettersOf n.toNat⟩

-- The letters of the column that was read are the word itself in capitals.
theorem letters_of_number {word : String} {n : UInt32} (h : number word = .ok n) :
    letters n = String.ofList (word.toList.map Char.toUpper) := by
  obtain ⟨-, halpha, hvalue⟩ := number_eq_ok_iff.mp h
  have hupper : ∀ c ∈ word.toList.map Char.toUpper, c.isUpper = true := by
    intro c hc
    obtain ⟨d, hd, rfl⟩ := List.mem_map.mp hc
    exact isUpper_toUpper (halpha d hd)
  rw [letters, ← hvalue, ← value_map_toUpper, lettersOf_value hupper]

theorem number_of_lt {word : String} (hne : word.toList ≠ [])
    (h : ∀ c ∈ word.toList, c.isAlpha = true) (hlt : numeralValue word.toList < bound) :
    number word = .ok (UInt32.ofNat (numeralValue word.toList)) := by
  rw [number_eq_ok_iff, value_eq_numeralValue h]
  exact ⟨hne, h, (UInt32.toNat_ofNat_of_lt' hlt).symm⟩

theorem number_of_le {word : String} (hne : word.toList ≠ [])
    (h : ∀ c ∈ word.toList, c.isAlpha = true) (hle : bound ≤ numeralValue word.toList) :
    number word = .error (.outOfRange word) := by
  apply number_of_bound_le hne h
  rwa [value_eq_numeralValue h]

theorem number_eq_error_iff {word : String} {e : RefError} (hne : word.toList ≠ [])
    (h : ∀ c ∈ word.toList, c.isAlpha = true) :
    number word = .error e ↔ 2 ^ 32 - 1 < numeralValue word.toList ∧ e = .outOfRange word := by
  have hbound : bound = 2 ^ 32 := rfl
  by_cases hlt : numeralValue word.toList < bound
  · rw [number_of_lt hne h hlt]
    simp only [reduceCtorEq, false_iff]
    omega
  · rw [number_of_le hne h (by omega), Except.error.injEq]
    constructor
    · intro he
      exact ⟨by omega, he.symm⟩
    · intro he
      exact he.2.symm

/-- Columns from 1 on are written in capitals, at least one, and read back from them. A word that is
read as a column is that column's letters, up to capitals, and its number is the value of the word.
A word of letters alone is out of range exactly if that value is larger than any column. -/
theorem number_inverts_letters :
    (∀ n : UInt32, 1 ≤ n.toNat →
      letters n ≠ "" ∧ (∀ c ∈ (letters n).toList, c ∈ alphabet) ∧ number (letters n) = .ok n) ∧
    (∀ (word : String) (n : UInt32), number word = .ok n →
      1 ≤ n.toNat ∧ letters n = String.ofList (word.toList.map Char.toUpper) ∧
        n.toNat = numeralValue word.toList) ∧
    ∀ word : String, word ≠ "" → (∀ c ∈ word.toList, c.isAlpha = true) →
      ((∃ e, number word = .error e) ↔ 2 ^ 32 - 1 < numeralValue word.toList) ∧
        ∀ e, number word = .error e → e = .outOfRange word := by
  refine ⟨fun n hn => ?_, fun word n h => ?_, fun word hword halpha => ?_⟩
  · refine ⟨fun hempty => ?_, fun c hc => ?_, number_letters hn⟩
    · have htoList := toList_letters n
      rw [hempty] at htoList
      exact lettersOf_ne_nil hn htoList.symm
    · rw [toList_letters] at hc
      exact mem_alphabet_of_mem_lettersOf hc
  · obtain ⟨hne, halpha, hvalue⟩ := number_eq_ok_iff.mp h
    have hpos := value_pos hne
    rw [← hvalue]
    exact ⟨hpos, letters_of_number h, value_eq_numeralValue halpha⟩
  · have hne : word.toList ≠ [] := fun he => hword (String.toList_eq_nil_iff.mp he)
    have herror (e : RefError) := number_eq_error_iff (e := e) hne halpha
    constructor
    · constructor
      · rintro ⟨e, he⟩
        exact ((herror e).mp he).1
      · intro hlarge
        exact ⟨_, (herror _).mpr ⟨hlarge, rfl⟩⟩
    · intro e he
      exact ((herror e).mp he).2

/-- The last column, a word for it in mixed letters, and the first word beyond it. -/
theorem number_inverts_letters_last :
    number (letters 4294967295) = .ok 4294967295 ∧ letters 4294967295 = "MWLQKWU" ∧
      numeralValue "MWLQKWV".toList = 2 ^ 32 ∧ ∃ e, number "MWLQKWV" = .error e := by
  have hread : number "mwlqKwu" = .ok 4294967295 := by decide +kernel
  have hvalue : numeralValue "MWLQKWV".toList = 2 ^ 32 := by decide +kernel
  refine ⟨(number_inverts_letters.1 4294967295 (by decide)).2.2, ?_, hvalue, ?_⟩
  · exact (number_inverts_letters.2.1 "mwlqKwu" 4294967295 hread).2.1
  · apply (number_inverts_letters.2.2 "MWLQKWV" (by decide)
      (List.all_eq_true.mp (by decide))).1.mpr
    rw [hvalue]
    decide

end LinkedSheets.Column
