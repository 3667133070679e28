import LinkedSheets.Cell.Column
import Mathlib

/-!
# Column letters as numbers

The letters of a column write its number: `value` undoes `lettersOf`, and reading letters gives
their value if it has 32 bits. Everything here is about numbers of any size; the bound of 32 bits
comes in with `numberFrom`.
-/

namespace LinkedSheets.Column

theorem letterValue_letter {i : Nat} (h : i < 26) : letterValue (letter i) = i + 1 := by
  revert i
  decide

theorem isAlpha_letter {i : Nat} (h : i < 26) : (letter i).isAlpha = true := by
  revert i
  decide

theorem toUpper_letter {i : Nat} (h : i < 26) : (letter i).toUpper = letter i := by
  revert i
  decide

theorem letterValue_toUpper (c : Char) : letterValue c.toUpper = letterValue c := by
  unfold letterValue
  rw [Char.toUpper_toUpper_eq_toUpper]

theorem letterValue_pos (c : Char) : 0 < letterValue c := by
  unfold letterValue
  omega

/-- The number that letters write after others with the value `acc`. -/
def valueFrom (acc : Nat) (cs : List Char) : Nat :=
  cs.foldl (fun n c => n * 26 + letterValue c) acc

theorem value_eq (cs : List Char) : value cs = valueFrom 0 cs := rfl

theorem valueFrom_cons (acc : Nat) (c : Char) (cs : List Char) :
    valueFrom acc (c :: cs) = valueFrom (acc * 26 + letterValue c) cs := rfl

theorem le_valueFrom (acc : Nat) (cs : List Char) : acc ≤ valueFrom acc cs := by
  induction cs generalizing acc with
  | nil => exact Nat.le_refl acc
  | cons c rest ih =>
    have h := ih (acc * 26 + letterValue c)
    rw [valueFrom_cons]
    omega

theorem value_append_singleton (cs : List Char) (c : Char) :
    value (cs ++ [c]) = value cs * 26 + letterValue c := by
  unfold value
  rw [List.foldl_append]
  rfl

theorem value_map_toUpper (cs : List Char) : value (cs.map Char.toUpper) = value cs := by
  unfold value
  rw [List.foldl_map]
  simp only [letterValue_toUpper]

theorem value_pos {cs : List Char} (h : cs ≠ []) : 0 < value cs := by
  cases cs with
  | nil => exact absurd rfl h
  | cons c rest =>
    have hc := letterValue_pos c
    have hle := le_valueFrom (0 * 26 + letterValue c) rest
    rw [value_eq, valueFrom_cons]
    omega

theorem lettersOf_succ (n : Nat) :
    lettersOf (n + 1) = lettersOf (n / 26) ++ [letter (n % 26)] := by
  rw [lettersOf]

theorem value_lettersOf (n : Nat) : value (lettersOf n) = n := by
  induction n using Nat.strongRecOn with
  | ind n ih =>
    cases n with
    | zero => rw [lettersOf]; rfl
    | succ n =>
      -- The last letter stands for the remainder, the ones before it for the quotient.
      have hmod : n % 26 < 26 := Nat.mod_lt n (by decide)
      rw [lettersOf_succ, value_append_singleton, ih (n / 26) (by omega),
        letterValue_letter hmod]
      omega

theorem lettersOf_ne_nil {n : Nat} (h : 0 < n) : lettersOf n ≠ [] := by
  cases n with
  | zero => omega
  | succ n =>
    rw [lettersOf_succ]
    exact List.append_ne_nil_of_right_ne_nil _ (List.cons_ne_nil _ _)

-- All letters of a column are capitals.
theorem mem_lettersOf {n : Nat} {c : Char} (h : c ∈ lettersOf n) :
    c.isAlpha = true ∧ c.toUpper = c := by
  induction n using Nat.strongRecOn with
  | ind n ih =>
    cases n with
    | zero => rw [lettersOf] at h; exact absurd h List.not_mem_nil
    | succ n =>
      have hmod : n % 26 < 26 := Nat.mod_lt n (by decide)
      rw [lettersOf_succ, List.mem_append, List.mem_singleton] at h
      rcases h with h | h
      · exact ih (n / 26) (by omega) h
      · rw [h]
        exact ⟨isAlpha_letter hmod, toUpper_letter hmod⟩

theorem letter_letterValue {c : Char} (h : c.isUpper = true) :
    ∃ i < 26, letterValue c = i + 1 ∧ letter i = c := by
  have hcode : 65 ≤ c.toNat ∧ c.toNat ≤ 90 := by
    simpa [Char.isUpper, UInt32.le_iff_toNat_le] using h
  have hupper : c.toUpper = c := by
    apply Char.toUpper_eq_of_not_isLower
    intro hlower
    have hcode' : 97 ≤ c.toNat ∧ c.toNat ≤ 122 := by
      simpa [Char.isLower, UInt32.le_iff_toNat_le] using hlower
    omega
  have hbase : 'A'.toNat = 65 := rfl
  refine ⟨c.toNat - 65, by omega, by rw [letterValue, hupper, hbase], ?_⟩
  rw [letter, hbase, Nat.add_sub_cancel' hcode.1, Char.ofNat_toNat]

-- Capitals are the letters of the number that they write.
theorem lettersOf_value {cs : List Char} (h : ∀ c ∈ cs, c.isUpper = true) :
    lettersOf (value cs) = cs := by
  induction cs using List.reverseRecOn with
  | nil => exact lettersOf.eq_1
  | append_singleton rest c ih =>
    simp only [List.forall_mem_append, List.forall_mem_singleton] at h
    obtain ⟨i, hi, hvalue, hletter⟩ := letter_letterValue h.2
    have hdiv : (value rest * 26 + i) / 26 = value rest := by omega
    have hmod : (value rest * 26 + i) % 26 = i := by omega
    rw [value_append_singleton, hvalue, ← Nat.add_assoc, lettersOf_succ, hdiv, hmod, ih h.1,
      hletter]

-- Reading goes well as long as there are only letters and the number they write has 32 bits.
theorem numberFrom_eq_ok_iff {whole : String} {acc : Nat} {cs : List Char} {col : UInt32}
    (hacc : acc < bound) :
    numberFrom whole acc cs = .ok col ↔
      (∀ c ∈ cs, c.isAlpha = true) ∧ valueFrom acc cs = col.toNat := by
  induction cs generalizing acc with
  | nil =>
    have hofNat : (UInt32.ofNat acc).toNat = acc := UInt32.toNat_ofNat_of_lt' hacc
    simp only [numberFrom, valueFrom, List.foldl_nil, Except.ok.injEq, List.not_mem_nil,
      false_implies, implies_true, true_and]
    constructor
    · intro h
      rw [← h, hofNat]
    · intro h
      rw [h, UInt32.ofNat_toNat]
  | cons c rest ih =>
    rw [numberFrom, List.forall_mem_cons, valueFrom_cons]
    by_cases hc : c.isAlpha = true
    · by_cases hnext : acc * 26 + letterValue c < bound
      · simp only [hc, if_true, hnext, true_and]
        exact ih hnext
      -- More letters never make the number smaller, so it stays too large.
      · have hle := le_valueFrom (acc * 26 + letterValue c) rest
        have hcol : col.toNat < bound := col.toNat_lt
        simp only [hc, if_true, hnext, if_false, true_and, reduceCtorEq, false_iff, not_and]
        omega
    · simp only [hc, Bool.false_eq_true, if_false, false_and, reduceCtorEq]

/-- A column number is read from letters alone, one at least, and it is the number that they
write. -/
theorem number_eq_ok_iff {text : String} {col : UInt32} :
    number text = .ok col ↔
      text.toList ≠ [] ∧ (∀ c ∈ text.toList, c.isAlpha = true) ∧
        value text.toList = col.toNat := by
  unfold number
  by_cases h : text.toList = []
  · have ht : text.isEmpty = true := by
      rw [String.isEmpty_iff]
      exact String.toList_eq_nil_iff.mp h
    simp only [ht, if_true, h, ne_eq, not_true_eq_false, false_and, reduceCtorEq]
  · have ht : text.isEmpty = false := by
      rw [Bool.eq_false_iff, ne_eq, String.isEmpty_iff]
      exact fun he => h (String.toList_eq_nil_iff.mpr he)
    rw [ht, if_neg Bool.false_ne_true, numberFrom_eq_ok_iff (by decide), ← value_eq]
    simp only [ne_eq, h, not_false_eq_true, true_and]

end LinkedSheets.Column
