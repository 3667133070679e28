import LinkedSheets.Proofs.Cell.Canonical
import Mathlib.Data.List.Basic
import Mathlib.Data.List.Induction
import Mathlib.Tactic.Ring

/-!
# Values of digits

What digits denote together with others, filled up with zeros, and without the zeros that do not
count.
-/

namespace LinkedSheets.Text

open CellRef

theorem ofDigits_append (cs ds : List Char) :
    ofDigits (cs ++ ds) = ofDigits cs * 10 ^ ds.length + ofDigits ds := by
  induction ds using List.reverseRecOn with
  | nil =>
    rw [List.append_nil, List.length_nil, pow_zero, mul_one]
    rfl
  | append_singleton ds c ih =>
    rw [← List.append_assoc, ofDigits_append_singleton, ih, ofDigits_append_singleton,
      List.length_append, List.length_singleton, pow_succ]
    ring

theorem ofDigits_replicate_zero (n : ℕ) : ofDigits (List.replicate n '0') = 0 := by
  induction n with
  | zero => rfl
  | succ n ih =>
    rw [List.replicate_succ', ofDigits_append_singleton, ih]
    rfl

theorem ofDigits_lt {ds : List Char} (h : ∀ c ∈ ds, c.isDigit = true) :
    ofDigits ds < 10 ^ ds.length := by
  induction ds using List.reverseRecOn with
  | nil => decide
  | append_singleton ds c ih =>
    simp only [List.forall_mem_append, List.forall_mem_singleton] at h
    have hc := (digitChar_digitValue h.2).2
    have hds := ih h.1
    rw [ofDigits_append_singleton, List.length_append, List.length_singleton, pow_succ]
    omega

theorem getLast?_digits (n : ℕ) : (digits n).getLast? = some (digitChar n) := by
  rw [digits]
  split
  · rfl
  · exact List.getLast?_concat

theorem digitChar_ne_zero {n : ℕ} (h : n % 10 ≠ 0) : digitChar n ≠ '0' := by
  intro heq
  apply h
  rw [← digitValue_digitChar, heq]
  rfl

theorem ofDigits_padded (width : ℕ) (cs : List Char) :
    ofDigits (padded '0' width cs) = ofDigits cs := by
  rw [padded, ofDigits_append, ofDigits_replicate_zero, Nat.zero_mul, Nat.zero_add]

theorem isDigit_of_mem_padded {width : ℕ} {cs : List Char}
    (h : ∀ c ∈ cs, c.isDigit = true) : ∀ c ∈ padded '0' width cs, c.isDigit = true := by
  intro c hc
  rcases List.mem_append.mp hc with hc | hc
  · rw [List.eq_of_mem_replicate hc]
    decide
  · exact h c hc

theorem length_padded (width : ℕ) (cs : List Char) :
    (padded '0' width cs).length = max width cs.length := by
  rw [padded, List.length_append, List.length_replicate]
  omega

-- Digits are taken up to the first character that is none.
theorem span_digits {ds rest : List Char} (h : ∀ c ∈ ds, c.isDigit = true)
    (hrest : ∀ c, rest.head? = some c → c.isDigit = false) :
    (ds ++ rest).takeWhile Char.isDigit = ds ∧ (ds ++ rest).dropWhile Char.isDigit = rest := by
  rw [List.takeWhile_append_of_pos h, List.dropWhile_append_of_pos h]
  cases rest with
  | nil => exact ⟨List.append_nil ds, rfl⟩
  | cons c rest =>
    have hc : ¬ c.isDigit = true := by
      rw [hrest c rfl]
      exact Bool.false_ne_true
    rw [List.takeWhile_cons_of_neg hc, List.dropWhile_cons_of_neg hc, List.append_nil]
    exact ⟨rfl, rfl⟩

/-- Digits without the zeros before the first other one and after the last other one. -/
def significant (ds : List Char) : List Char :=
  ((ds.dropWhile (· = '0')).reverse.dropWhile (· = '0')).reverse

theorem ofDigits_eq_zero_of_forall {ds : List Char} (h : ∀ c ∈ ds, c = '0') : ofDigits ds = 0 := by
  rw [List.eq_replicate_of_mem h]
  exact ofDigits_replicate_zero _

-- Zeros in front do not count, and each one at the end is a factor of ten.
theorem exists_ofDigits_eq_significant (ds : List Char) :
    ∃ k, ofDigits ds = ofDigits (significant ds) * 10 ^ k := by
  have hzero {cs : List Char} : ∀ c ∈ cs.takeWhile (· = '0'), c = '0' := by
    intro c hc
    simpa using List.mem_takeWhile_imp hc
  have hfront : ofDigits ds = ofDigits (ds.dropWhile (· = '0')) := by
    conv_lhs => rw [← List.takeWhile_append_dropWhile (p := (· = '0')) (l := ds), ofDigits_append,
      ofDigits_eq_zero_of_forall hzero, Nat.zero_mul, Nat.zero_add]
  generalize hrest : ds.dropWhile (· = '0') = rest at *
  have hback := List.takeWhile_append_dropWhile (p := (· = '0')) (l := rest.reverse)
  refine ⟨(rest.reverse.takeWhile (· = '0')).reverse.length, ?_⟩
  rw [hfront, significant, hrest]
  conv_lhs => rw [← List.reverse_reverse rest, ← hback, List.reverse_append, ofDigits_append,
    ofDigits_eq_zero_of_forall (fun c hc => hzero c (List.mem_reverse.mp hc)), Nat.add_zero]

theorem isDigit_of_mem_significant {ds : List Char} (h : ∀ c ∈ ds, c.isDigit = true) :
    ∀ c ∈ significant ds, c.isDigit = true := by
  intro c hc
  have hmem := (List.dropWhile_sublist _).subset (List.mem_reverse.mp hc)
  exact h c ((List.dropWhile_sublist _).subset (List.mem_reverse.mp hmem))

end LinkedSheets.Text
