import LinkedSheets.Cell.Reference
import Mathlib

/-!
# Trimming and dollar signs

References are trimmed first and lose their dollar signs after that. Done the other way round,
trimming also takes the blanks that stood behind dollar signs, and doing both again changes nothing
more.
-/

namespace LinkedSheets.Text

/-- A text without its dollar signs, as characters. -/
def dollarless (cs : List Char) : List Char := cs.filter (· ≠ '$')

theorem toList_stripAbsolute (s : String) : (stripAbsolute s).toList = dollarless s.toList := by
  rw [stripAbsolute, String.toList_ofList, dollarless]

theorem isBlank_dollar : isBlank '$' = false := by decide

theorem dollarless_cons_of_isBlank {c : Char} (h : isBlank c = true) (cs : List Char) :
    dollarless (c :: cs) = c :: dollarless cs := by
  have hne : c ≠ '$' := by
    intro he
    rw [he, isBlank_dollar] at h
    exact Bool.false_ne_true h
  exact List.filter_cons_of_pos (by simpa using hne)

theorem dollarless_reverse (cs : List Char) :
    dollarless cs.reverse = (dollarless cs).reverse :=
  List.filter_reverse

theorem dollarless_eq_self {cs : List Char} (h : ∀ c ∈ cs, c ≠ '$') : dollarless cs = cs :=
  List.filter_eq_self.mpr (by simpa using h)

theorem ne_dollar_of_mem_dollarless {cs : List Char} {c : Char} (h : c ∈ dollarless cs) :
    c ≠ '$' := by
  simpa using List.of_mem_filter h

theorem mem_dollarless {cs : List Char} {c : Char} (h : c ∈ cs) (hc : c ≠ '$') :
    c ∈ dollarless cs :=
  List.mem_filter.mpr ⟨h, decide_eq_true hc⟩

theorem trimStart_cons_of_isBlank {c : Char} (h : isBlank c = true) (cs : List Char) :
    trimStart (c :: cs) = trimStart cs :=
  List.dropWhile_cons_of_pos h

theorem trimStart_cons_of_not_isBlank {c : Char} (h : isBlank c = false) (cs : List Char) :
    trimStart (c :: cs) = c :: cs :=
  List.dropWhile_cons_of_neg (by rw [h]; exact Bool.false_ne_true)

theorem trimEnd_eq (cs : List Char) : trimEnd cs = (trimStart cs.reverse).reverse := rfl

theorem trimEnd_cons (c : Char) (cs : List Char) :
    trimEnd (c :: cs) =
      if trimEnd cs = [] ∧ isBlank c = true then [] else c :: trimEnd cs := by
  unfold trimEnd
  rw [List.reverse_cons, List.dropWhile_append]
  by_cases he : cs.reverse.dropWhile isBlank = []
  · by_cases hc : isBlank c = true
    · simp [he, hc]
    · simp [he, hc]
  · have hne : (cs.reverse.dropWhile isBlank).isEmpty = false := by
      rw [Bool.eq_false_iff, ne_eq, List.isEmpty_iff]
      exact he
    rw [hne, if_neg Bool.false_ne_true, List.reverse_append, List.reverse_singleton,
      if_neg (fun h => he (List.reverse_eq_nil_iff.mp h.1))]
    rfl

theorem trimEnd_trimStart (cs : List Char) : trimEnd (trimStart cs) = trimStart (trimEnd cs) := by
  induction cs with
  | nil => rfl
  | cons c rest ih =>
    by_cases hc : isBlank c = true
    -- A blank at the start is dropped by both, also when nothing but blanks follows.
    · rw [trimStart_cons_of_isBlank hc, ih, trimEnd_cons]
      by_cases he : trimEnd rest = []
      · rw [if_pos ⟨he, hc⟩, he]
      · rw [if_neg (fun h => he h.1), trimStart_cons_of_isBlank hc]
    · rw [Bool.not_eq_true] at hc
      rw [trimStart_cons_of_not_isBlank hc, trimEnd_cons,
        if_neg (by rw [hc]; exact fun h => Bool.false_ne_true h.2),
        trimStart_cons_of_not_isBlank hc]

theorem trim_eq_self {cs : List Char} (h : ∀ c ∈ cs, isBlank c = false) : trim cs = cs := by
  have hstart (ds : List Char) (hd : ∀ c ∈ ds, isBlank c = false) : trimStart ds = ds := by
    cases ds with
    | nil => rfl
    | cons c rest => exact trimStart_cons_of_not_isBlank (hd c List.mem_cons_self) rest
  rw [trim, hstart cs h, trimEnd_eq, hstart cs.reverse (fun c hc => h c (List.mem_reverse.mp hc)),
    List.reverse_reverse]

theorem mem_of_mem_trim {cs : List Char} {c : Char} (h : c ∈ trim cs) : c ∈ cs := by
  have hstart {ds : List Char} (hd : c ∈ trimStart ds) : c ∈ ds :=
    (List.dropWhile_sublist isBlank).subset hd
  rw [trim, trimEnd_eq, List.mem_reverse] at h
  exact hstart (List.mem_reverse.mp (hstart h))

-- Only blanks are taken by trimming, and it takes all that it can.
theorem mem_trim {cs : List Char} {c : Char} (h : c ∈ cs) (hc : isBlank c = false) :
    c ∈ trim cs := by
  have hstart {ds : List Char} (hd : c ∈ ds) : c ∈ trimStart ds := by
    rw [← List.takeWhile_append_dropWhile (p := isBlank) (l := ds), List.mem_append] at hd
    rcases hd with hd | hd
    · rw [List.mem_takeWhile_imp hd] at hc
      exact absurd hc.symm Bool.false_ne_true
    · exact hd
  rw [trim, trimEnd_eq, List.mem_reverse]
  exact hstart (List.mem_reverse.mpr (hstart h))

theorem trimStart_trimStart (cs : List Char) : trimStart (trimStart cs) = trimStart cs :=
  List.dropWhile_idempotent isBlank cs

theorem trimEnd_trimEnd (cs : List Char) : trimEnd (trimEnd cs) = trimEnd cs := by
  rw [trimEnd_eq cs, trimEnd_eq, List.reverse_reverse, trimStart_trimStart]

theorem trim_trimStart (cs : List Char) : trim (trimStart cs) = trim cs := by
  rw [trim, trimStart_trimStart, trim]

theorem trim_trimEnd (cs : List Char) : trim (trimEnd cs) = trim cs := by
  rw [trim, trimEnd_trimStart, trimEnd_trimEnd, ← trimEnd_trimStart, trim]

theorem trim_trim (cs : List Char) : trim (trim cs) = trim cs :=
  (trim_trimEnd (trimStart cs)).trans (trim_trimStart cs)

-- A character that is no blank keeps what is before it from what is behind it.
theorem trimStart_append_cons {c : Char} (h : isBlank c = false) (before after : List Char) :
    trimStart (before ++ c :: after) = trimStart before ++ c :: after := by
  induction before with
  | nil => exact trimStart_cons_of_not_isBlank h after
  | cons d rest ih =>
    by_cases hd : isBlank d = true
    · rw [List.cons_append, trimStart_cons_of_isBlank hd, trimStart_cons_of_isBlank hd, ih]
    · rw [Bool.not_eq_true] at hd
      rw [List.cons_append, trimStart_cons_of_not_isBlank hd, trimStart_cons_of_not_isBlank hd,
        List.cons_append]

theorem trim_append_cons {c : Char} (h : isBlank c = false) (before after : List Char) :
    trim (before ++ c :: after) = trimStart before ++ c :: trimEnd after := by
  have hreverse := trimStart_append_cons h after.reverse (trimStart before).reverse
  rw [trim, trimStart_append_cons h, trimEnd_eq, List.reverse_append, List.reverse_cons,
    List.append_assoc, List.singleton_append, hreverse, List.reverse_append, List.reverse_cons,
    List.reverse_reverse, List.append_assoc, List.singleton_append, trimEnd_eq]

-- Blanks that trimming would take at the start are taken after the dollar signs as well.
theorem trimStart_dollarless_trimStart (cs : List Char) :
    trimStart (dollarless (trimStart cs)) = trimStart (dollarless cs) := by
  induction cs with
  | nil => rfl
  | cons c rest ih =>
    by_cases hc : isBlank c = true
    · rw [trimStart_cons_of_isBlank hc, ih, dollarless_cons_of_isBlank hc,
        trimStart_cons_of_isBlank hc]
    · rw [Bool.not_eq_true] at hc
      rw [trimStart_cons_of_not_isBlank hc]

theorem trimEnd_dollarless_trimEnd (cs : List Char) :
    trimEnd (dollarless (trimEnd cs)) = trimEnd (dollarless cs) := by
  -- Trimming the end is trimming the start of the reversed text.
  have h := trimStart_dollarless_trimStart cs.reverse
  rw [trimEnd_eq cs, dollarless_reverse, trimEnd_eq, List.reverse_reverse, h, trimEnd_eq,
    dollarless_reverse]

theorem trim_dollarless_trim (cs : List Char) :
    trim (dollarless (trim cs)) = trim (dollarless cs) := by
  calc trim (dollarless (trim cs))
      = trimStart (trimEnd (dollarless (trimEnd (trimStart cs)))) := trimEnd_trimStart _
    _ = trimStart (trimEnd (dollarless (trimStart cs))) := by rw [trimEnd_dollarless_trimEnd]
    _ = trimEnd (trimStart (dollarless (trimStart cs))) := (trimEnd_trimStart _).symm
    _ = trim (dollarless cs) := by rw [trimStart_dollarless_trimStart, trim]

theorem dollarless_trim_dollarless (cs : List Char) :
    dollarless (trim (dollarless cs)) = trim (dollarless cs) :=
  dollarless_eq_self fun _ hc => ne_dollar_of_mem_dollarless (mem_of_mem_trim hc)

theorem isBlank_of_visible {c : Char} (hlo : 0x20 < c.toNat) (hhi : c.toNat < 0x7F) :
    isBlank c = false := by
  simp only [isBlank, Bool.or_eq_false_iff, Bool.and_eq_false_iff, beq_eq_false_iff_ne,
    decide_eq_false_iff_not]
  omega

theorem toNat_of_isAlpha {c : Char} (h : c.isAlpha = true) : 65 ≤ c.toNat ∧ c.toNat ≤ 122 := by
  simp only [Char.isAlpha, Char.isUpper, Char.isLower, Bool.or_eq_true, Bool.and_eq_true,
    decide_eq_true_eq, UInt32.le_iff_toNat_le, ge_iff_le] at h
  change (65 ≤ c.toNat ∧ c.toNat ≤ 90) ∨ (97 ≤ c.toNat ∧ c.toNat ≤ 122) at h
  omega

theorem toNat_of_isDigit {c : Char} (h : c.isDigit = true) : 48 ≤ c.toNat ∧ c.toNat ≤ 57 :=
  Char.isDigit_iff_toNat.mp h

theorem isBlank_of_isAlpha {c : Char} (h : c.isAlpha = true) : isBlank c = false := by
  have hn := toNat_of_isAlpha h
  exact isBlank_of_visible (by omega) (by omega)

theorem isBlank_of_isDigit {c : Char} (h : c.isDigit = true) : isBlank c = false := by
  have hn := toNat_of_isDigit h
  exact isBlank_of_visible (by omega) (by omega)

theorem isAlpha_of_isDigit {c : Char} (h : c.isDigit = true) : c.isAlpha = false := by
  rw [← Bool.not_eq_true]
  intro ha
  have hn := toNat_of_isAlpha ha
  have hd := toNat_of_isDigit h
  omega

-- Capitals are letters, and only letters change into them.
theorem toUpper_of_forall_isAlpha {p : Char → Bool} (hp : ∀ c, c.isAlpha = true → p c = false)
    (c : Char) : p c.toUpper = p c := by
  by_cases h : c.isAlpha = true
  · rw [hp c h, hp c.toUpper (by rw [Char.isAlpha_toUpper_eq_isAlpha, h])]
  · have hl : ¬ c.isLower = true := by
      intro hl
      exact h (by unfold Char.isAlpha; rw [hl, Bool.or_true])
    rw [Char.toUpper_eq_of_not_isLower hl]

theorem toUpper_of_isDigit {c : Char} (h : c.isDigit = true) : c.toUpper = c := by
  apply Char.toUpper_eq_of_not_isLower
  intro hl
  have ha : c.isAlpha = true := by unfold Char.isAlpha; rw [hl, Bool.or_true]
  rw [isAlpha_of_isDigit h] at ha
  exact Bool.false_ne_true ha

theorem isBlank_toUpper (c : Char) : isBlank c.toUpper = isBlank c :=
  toUpper_of_forall_isAlpha (fun _ => isBlank_of_isAlpha) c

theorem isDigit_toUpper (c : Char) : c.toUpper.isDigit = c.isDigit := by
  apply toUpper_of_forall_isAlpha (p := Char.isDigit)
  intro d hd
  rw [← Bool.not_eq_true]
  intro h
  rw [isAlpha_of_isDigit h] at hd
  exact Bool.false_ne_true hd

theorem dollarless_map_toUpper (cs : List Char) :
    dollarless (cs.map Char.toUpper) = (dollarless cs).map Char.toUpper := by
  have hp : (fun c : Char => decide (c ≠ '$')) ∘ Char.toUpper = fun c => decide (c ≠ '$') := by
    funext c
    -- No letter is a dollar sign, so taking capitals makes and removes none.
    have h := toUpper_of_forall_isAlpha (p := fun c => decide (c = '$'))
      (fun d hd => by
        rw [decide_eq_false_iff_not]
        intro he
        rw [he] at hd
        exact absurd hd (by decide)) c
    simp only [Function.comp_apply, ne_eq, decide_not, h]
  unfold dollarless
  rw [List.filter_map, hp]

theorem trim_map_toUpper (cs : List Char) :
    trim (cs.map Char.toUpper) = (trim cs).map Char.toUpper := by
  have hp : isBlank ∘ Char.toUpper = isBlank := funext isBlank_toUpper
  have hstart (ds : List Char) :
      trimStart (ds.map Char.toUpper) = (trimStart ds).map Char.toUpper := by
    unfold trimStart
    rw [List.dropWhile_map, hp]
  rw [trim, trim, hstart, trimEnd_eq, trimEnd_eq, ← List.map_reverse, hstart, List.map_reverse]

end LinkedSheets.Text
