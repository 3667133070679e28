import LinkedSheets.Proofs.Number.Operations
import LinkedSheets.Proofs.Text.Digits
import LinkedSheets.Proofs.Text.Lines

/-!
# Numerals

Decimal numbers as they are written, with the number that each denotes. A numeral is read as the
binary number nearest to it, also with blanks around it.
-/

namespace LinkedSheets

open Text

/-- A sign, which need not be written. -/
inductive Sign where
  | absent
  | plus
  | minus
deriving DecidableEq

namespace Sign

def chars : Sign → List Char
  | .absent => []
  | .plus => ['+']
  | .minus => ['-']

def isMinus : Sign → Bool
  | .minus => true
  | _ => false

theorem isMinus_ite (negative : Bool) :
    (if negative then minus else absent).isMinus = negative := by
  cases negative <;> rfl

end Sign

/-- A power of ten behind a number: a letter, a sign and digits. -/
structure PowerOfTen where
  capital : Bool
  sign : Sign
  digits : List Char
  isDigit : ∀ c ∈ digits, c.isDigit = true
  ne_nil : digits ≠ []

namespace PowerOfTen

def letter (p : PowerOfTen) : Char := if p.capital then 'E' else 'e'

def chars (p : PowerOfTen) : List Char := p.letter :: (p.sign.chars ++ p.digits)

def value (p : PowerOfTen) : ℤ := if p.sign.isMinus then -(ofDigits p.digits : ℤ) else ofDigits p.digits

end PowerOfTen

/-- A decimal number as it is written: a sign, digits with an optional fraction, and an optional
power of ten. -/
structure Numeral where
  sign : Sign
  whole : List Char
  fraction : Option (List Char)
  power : Option PowerOfTen
  isDigit_whole : ∀ c ∈ whole, c.isDigit = true
  isDigit_fraction : ∀ c ∈ fraction.getD [], c.isDigit = true
  ne_nil : whole ++ fraction.getD [] ≠ []

namespace Numeral

def places (n : Numeral) : List Char := n.fraction.getD []

def exponent (n : Numeral) : ℤ := n.power.elim 0 PowerOfTen.value

/-- What follows the digits of the whole part. -/
def tail (n : Numeral) : List Char :=
  n.fraction.elim [] ('.' :: ·) ++ n.power.elim [] PowerOfTen.chars

def unsigned (n : Numeral) : List Char := n.whole ++ n.tail

def chars (n : Numeral) : List Char := n.sign.chars ++ n.unsigned

def text (n : Numeral) : String := String.ofList n.chars

def magnitude (n : Numeral) : ℚ :=
  (ofDigits n.whole + ofDigits n.places / 10 ^ n.places.length) * 10 ^ n.exponent

/-- The number that is written. -/
def value (n : Numeral) : ℚ := if n.sign.isMinus then -n.magnitude else n.magnitude

def decimal (n : Numeral) : Decimal := .ofParts n.whole n.places n.exponent

theorem value_decimal (n : Numeral) : n.decimal.value = n.magnitude := by
  rw [Decimal.value, decimal, Decimal.ofParts, ofDigits_append, zpow_sub₀ (by norm_num),
    zpow_natCast, magnitude]
  push_cast
  have hpos : (10 : ℚ) ^ n.places.length ≠ 0 := by positivity
  field_simp

-- The digits in a row denote the number but for the power of ten of the last one.
theorem magnitude_eq {n : Numeral} {coefficient : ℕ} {exponent : ℤ}
    (hdigits : ofDigits (n.whole ++ n.places) = coefficient)
    (hexponent : n.exponent - n.places.length = exponent) :
    n.magnitude = coefficient * 10 ^ exponent := by
  rw [← value_decimal, Decimal.value, decimal, Decimal.ofParts, hdigits, hexponent]

/-- A numeral denotes its significant digits times a power of ten. -/
theorem exists_magnitude_eq (n : Numeral) :
    ∃ f : ℤ, n.magnitude = ofDigits (significant (n.whole ++ n.places)) * 10 ^ f := by
  obtain ⟨k, hk⟩ := exists_ofDigits_eq_significant (n.whole ++ n.places)
  refine ⟨k + (n.exponent - n.places.length), ?_⟩
  rw [magnitude_eq hk rfl, zpow_add₀ (by norm_num), zpow_natCast]
  push_cast
  ring

theorem ofDigits_significant_lt {n : Numeral} {k : ℕ}
    (h : (significant (n.whole ++ n.places)).length ≤ k) :
    ofDigits (significant (n.whole ++ n.places)) < 10 ^ k := by
  have hdigits : ∀ c ∈ n.whole ++ n.places, c.isDigit = true :=
    List.forall_mem_append.mpr ⟨n.isDigit_whole, n.isDigit_fraction⟩
  exact (ofDigits_lt (isDigit_of_mem_significant hdigits)).trans_le
    (Nat.pow_le_pow_right (by decide) h)

theorem magnitude_nonneg (n : Numeral) : 0 ≤ n.magnitude := by
  unfold magnitude
  positivity

theorem abs_value (n : Numeral) : |n.value| = n.magnitude := by
  unfold value
  split
  · rw [abs_neg, abs_of_nonneg n.magnitude_nonneg]
  · exact abs_of_nonneg n.magnitude_nonneg

/-- The binary number that a numeral is read as. -/
def rounded (n : Numeral) : Binary64 := .ofDecimal n.sign.isMinus n.decimal

theorem roundsTo_rounded (n : Numeral) :
    Binary64.RoundsTo n.sign.isMinus n.magnitude n.rounded := by
  rw [← value_decimal]
  exact Binary64.roundsTo_ofDecimal n.sign.isMinus n.decimal

theorem rounded_eq {n : Numeral} {m : ℕ} {e : ℤ} (hm : Binary64.IsProper m e)
    (h : Binary64.Attracts m e n.magnitude) : n.rounded = .finite n.sign.isMinus m e :=
  n.roundsTo_rounded.unique (.finite hm h)

/-! ### Reading numerals -/

theorem readScale?_chars (p : PowerOfTen) :
    Decimal.readScale? (p.sign.chars ++ p.digits) = some p.value := by
  have hdigits : (p.digits.isEmpty || !p.digits.all Char.isDigit) = false := by
    rw [List.isEmpty_eq_false_iff.mpr p.ne_nil, List.all_eq_true.mpr p.isDigit]
    rfl
  unfold Decimal.readScale? PowerOfTen.value
  cases hsign : p.sign with
  | absent =>
    have hhead : ∀ c, p.digits.head? = some c → c.isDigit = true :=
      fun c hc => p.isDigit c (List.mem_of_head? hc)
    -- A digit is none of the signs.
    split
    · rename_i ds hds
      exact absurd (hhead '-' (by rw [← List.nil_append p.digits]; exact congrArg List.head? hds))
        (by decide)
    · rename_i ds hds
      exact absurd (hhead '+' (by rw [← List.nil_append p.digits]; exact congrArg List.head? hds))
        (by decide)
    · simp only [Sign.chars, List.nil_append, hdigits]
      rfl
  | plus =>
    simp only [Sign.chars, List.singleton_append, hdigits]
    rfl
  | minus =>
    simp only [Sign.chars, List.singleton_append, hdigits]
    rfl

theorem head?_powerChars (p : Option PowerOfTen) :
    ∀ c, (p.elim [] PowerOfTen.chars).head? = some c → c.isDigit = false ∧ c ≠ '.' := by
  intro c h
  cases p with
  | none => exact absurd h (by simp)
  | some p =>
    obtain rfl : p.letter = c := Option.some.inj h
    unfold PowerOfTen.letter
    cases p.capital <;> decide

theorem head?_tail (n : Numeral) : ∀ c, n.tail.head? = some c → c.isDigit = false := by
  intro c h
  unfold tail at h
  cases hfraction : n.fraction with
  | none =>
    rw [hfraction] at h
    exact (head?_powerChars n.power c h).1
  | some ds =>
    rw [hfraction] at h
    obtain rfl : '.' = c := Option.some.inj h
    decide

theorem letter_eq_or (p : PowerOfTen) : p.letter = 'e' ∨ p.letter = 'E' := by
  unfold PowerOfTen.letter
  cases p.capital
  · exact Or.inl rfl
  · exact Or.inr rfl

theorem read?_unsigned (n : Numeral) : Decimal.read? n.unsigned = some n.decimal := by
  obtain ⟨htake, hdrop⟩ := span_digits n.isDigit_whole n.head?_tail
  have hne := n.ne_nil
  have hdigits := n.isDigit_fraction
  unfold Decimal.read? unsigned decimal exponent
  rw [htake, hdrop]
  unfold tail places
  cases hfraction : n.fraction with
  | none =>
    rw [hfraction, Option.getD_none, List.append_nil] at hne
    have hwhole : n.whole.isEmpty = false := List.isEmpty_eq_false_iff.mpr hne
    cases n.power with
    | none => simp [hwhole]
    | some p =>
      have hread := readScale?_chars p
      rcases letter_eq_or p with h | h <;> simp [PowerOfTen.chars, h, hwhole, hread]
  | some ds =>
    rw [hfraction, Option.getD_some] at hne hdigits
    have hsome : (n.whole.isEmpty && ds.isEmpty) = false := by
      rw [← Bool.not_eq_true, Bool.and_eq_true, List.isEmpty_iff, List.isEmpty_iff]
      exact fun h => hne (List.append_eq_nil_iff.mpr h)
    obtain ⟨htake, hdrop⟩ := span_digits hdigits fun c hc => (head?_powerChars n.power c hc).1
    simp only [Option.elim_some, List.cons_append, Option.getD_some, htake, hdrop, hsome]
    cases n.power with
    | none => rfl
    | some p =>
      have hread := readScale?_chars p
      rcases letter_eq_or p with h | h <;> simp [PowerOfTen.chars, h, hread]

-- A numeral does not begin like a word or, after its sign, like a sign.
theorem head_unsigned (n : Numeral) :
    ∃ c rest, n.unsigned = c :: rest ∧ c.toLower ≠ 'i' ∧ c.toLower ≠ 'n' ∧ c ≠ '-' ∧ c ≠ '+' := by
  unfold unsigned tail
  cases hwhole : n.whole with
  | nil =>
    cases hfraction : n.fraction with
    | none => exact absurd (by rw [hwhole, hfraction]; rfl) n.ne_nil
    | some ds => exact ⟨'.', _, rfl, by decide⟩
  | cons c rest =>
    have hdigit := n.isDigit_whole c (hwhole ▸ List.mem_cons_self)
    have hcode := toNat_of_isDigit hdigit
    have hlower : c.toLower = c := by
      apply Char.toLower_eq_of_not_isUpper
      intro hupper
      have hcode' : 65 ≤ c.toNat ∧ c.toNat ≤ 90 := by
        simpa [Char.isUpper, UInt32.le_iff_toNat_le] using hupper
      omega
    have hne {d : Char} (hd : d.isDigit = false) : c ≠ d := by
      rintro rfl
      exact Bool.false_ne_true (hd.symm.trans hdigit)
    refine ⟨c, _, rfl, ?_⟩
    rw [hlower]
    exact ⟨hne rfl, hne rfl, hne rfl, hne rfl⟩

/-- A numeral is read as the number nearest to it. -/
theorem read?_chars (n : Numeral) :
    Binary64.read? n.chars = some n.rounded := by
  obtain ⟨c, rest, hunsigned, hi, hn, hminus, hplus⟩ := n.head_unsigned
  have hinf : ¬ (n.unsigned.map Char.toLower = "inf".toList ∨
      n.unsigned.map Char.toLower = "infinity".toList) := by
    rw [hunsigned, List.map_cons]
    rintro (h | h) <;> exact hi (List.cons.inj h).1
  have hnan : ¬ n.unsigned.map Char.toLower = "nan".toList := by
    rw [hunsigned, List.map_cons]
    exact fun h => hn (List.cons.inj h).1
  have hread (negative : Bool) :
      (if n.unsigned.map Char.toLower = "inf".toList ∨
          n.unsigned.map Char.toLower = "infinity".toList then some (.infinite negative)
        else if n.unsigned.map Char.toLower = "nan".toList then some .nan
        else (Decimal.read? n.unsigned).map (Binary64.ofDecimal negative)) =
        some (.ofDecimal negative n.decimal) := by
    rw [if_neg hinf, if_neg hnan, read?_unsigned, Option.map_some]
  unfold Binary64.read? chars rounded
  cases n.sign with
  | absent =>
    rw [Sign.chars, List.nil_append]
    split
    · rename_i hcons
      exact absurd (List.cons.inj (hunsigned.symm.trans hcons)).1 hminus
    · rename_i hcons
      exact absurd (List.cons.inj (hunsigned.symm.trans hcons)).1 hplus
    · exact hread false
  | plus => exact hread false
  | minus => exact hread true

theorem isBlank_of_mem_sign {sign : Sign} {c : Char} (h : c ∈ sign.chars) :
    isBlank c = false := by
  cases sign with
  | absent => exact absurd h List.not_mem_nil
  | plus => rw [List.mem_singleton.mp h]; rfl
  | minus => rw [List.mem_singleton.mp h]; rfl

theorem isBlank_of_mem_chars (n : Numeral) : ∀ c ∈ n.chars, isBlank c = false := by
  intro c hc
  rw [chars, unsigned, tail, List.mem_append, List.mem_append, List.mem_append] at hc
  rcases hc with hc | hc | hc | hc
  · exact isBlank_of_mem_sign hc
  · exact isBlank_of_isDigit (n.isDigit_whole c hc)
  · have hdigits := n.isDigit_fraction
    cases hfraction : n.fraction with
    | none =>
      rw [hfraction] at hc
      exact absurd hc List.not_mem_nil
    | some ds =>
      rw [hfraction] at hc hdigits
      rcases List.mem_cons.mp hc with rfl | hc
      · rfl
      · exact isBlank_of_isDigit (hdigits c hc)
  · cases hpower : n.power with
    | none =>
      rw [hpower] at hc
      exact absurd hc List.not_mem_nil
    | some p =>
      rw [hpower] at hc
      rcases List.mem_cons.mp hc with rfl | hc
      · unfold PowerOfTen.letter
        cases p.capital <;> rfl
      · rcases List.mem_append.mp hc with hc | hc
        · exact isBlank_of_mem_sign hc
        · exact isBlank_of_isDigit (p.isDigit c hc)

/-- A text with the numeral and nothing but blanks around it. -/
def IsWrittenIn (n : Numeral) (s : String) : Prop :=
  ∃ before after, (∀ c ∈ before, isBlank c = true) ∧ (∀ c ∈ after, isBlank c = true) ∧
    s.toList = before ++ n.chars ++ after

theorem isWrittenIn_text (n : Numeral) : n.IsWrittenIn n.text :=
  ⟨[], [], List.forall_mem_nil _, List.forall_mem_nil _,
    String.toList_ofList.trans (List.append_nil _).symm⟩

theorem read?_of_isWrittenIn {n : Numeral} {s : String} (h : n.IsWrittenIn s) :
    Binary64.read? (trim s.toList) = some n.rounded := by
  obtain ⟨before, after, hbefore, hafter, hs⟩ := h
  rw [hs, trim_surrounded hbefore hafter n.isBlank_of_mem_chars, read?_chars]

end Numeral

end LinkedSheets
