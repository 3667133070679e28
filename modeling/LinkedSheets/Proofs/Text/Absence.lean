import Mathlib.Data.List.Infix

/-!
# Texts without a given text

A text is free of another one if that one does not begin anywhere in it, not even if more text
follows. So what is put together from texts that are free of it is free of it too.
-/

namespace LinkedSheets.Text

/-- The texts differ in some place that both have. -/
def differ : List Char → List Char → Bool
  | a :: as, b :: bs => a != b || differ as bs
  | _, _ => false

/-- The first text does not begin in the second one, whatever follows that. -/
def isFreeOf (tag : List Char) : List Char → Bool
  | [] => true
  | c :: rest => differ tag (c :: rest) && isFreeOf tag rest

theorem differ_append {as bs : List Char} (h : differ as bs = true) (cs : List Char) :
    differ as (bs ++ cs) = true := by
  induction as generalizing bs with
  | nil => exact absurd h (by simp [differ])
  | cons a rest ih =>
    cases bs with
    | nil => exact absurd h (by simp [differ])
    | cons b more =>
      rw [differ, Bool.or_eq_true] at h
      rw [List.cons_append, differ, Bool.or_eq_true]
      exact h.imp_right ih

theorem isFreeOf_append {tag cs ds : List Char} (hc : isFreeOf tag cs = true)
    (hd : isFreeOf tag ds = true) : isFreeOf tag (cs ++ ds) = true := by
  induction cs with
  | nil => exact hd
  | cons c rest ih =>
    rw [isFreeOf, Bool.and_eq_true] at hc
    rw [List.cons_append, isFreeOf, Bool.and_eq_true]
    exact ⟨differ_append hc.1 ds, ih hc.2⟩

theorem differ_cons_of_ne {a b : Char} (h : a ≠ b) (as bs : List Char) :
    differ (a :: as) (b :: bs) = true := by
  rw [differ, bne_iff_ne.mpr h, Bool.true_or]

theorem isFreeOf_of_not_mem {a : Char} {cs : List Char} (h : a ∉ cs) (as : List Char) :
    isFreeOf (a :: as) cs = true := by
  induction cs with
  | nil => rfl
  | cons c rest ih =>
    rw [List.mem_cons, not_or] at h
    rw [isFreeOf, differ_cons_of_ne h.1, ih h.2, Bool.and_self]

theorem not_differ_of_prefix (cs after : List Char) : differ cs (cs ++ after) = false := by
  induction cs with
  | nil => rfl
  | cons c rest ih => rw [List.cons_append, differ, ih, bne_self_eq_false, Bool.or_self]

-- A text that begins with a character is not where that character is missing.
theorem infix_of_infix_append {a : Char} {as cs ds : List Char} (h : a ∉ cs)
    (hin : a :: as <:+: cs ++ ds) : a :: as <:+: ds := by
  induction cs with
  | nil => exact hin
  | cons c rest ih =>
    rw [List.mem_cons, not_or] at h
    rw [List.cons_append, List.infix_cons_iff] at hin
    rcases hin with hprefix | hin
    · exact absurd (List.cons_prefix_cons.mp hprefix).1 h.1
    · exact ih h.2 hin

-- A text does not reach across a character that it does not have.
theorem infix_append_cons_iff {a : Char} {tag cs ds : List Char} (h : a ∉ tag) :
    tag <:+: cs ++ a :: ds ↔ tag <:+: cs ∨ tag <:+: ds := by
  constructor
  · rintro ⟨before, after, heq⟩
    rcases List.append_eq_append_iff.mp heq with ⟨more, hcs, -⟩ | ⟨more, htag, hafter⟩
    · exact Or.inl ⟨before, more, hcs.symm⟩
    · cases more with
      | nil =>
        rw [List.append_nil] at htag
        exact Or.inl ⟨before, [], by rw [htag, List.append_nil]⟩
      | cons b more =>
        obtain ⟨rfl, hds⟩ := List.cons.inj hafter
        rcases List.append_eq_append_iff.mp htag with ⟨gap, -, hmore⟩ | ⟨gap, -, hmore⟩
        · rw [hmore] at h
          exact absurd (List.mem_append_right gap List.mem_cons_self) h
        · cases gap with
          | nil =>
            rw [List.nil_append] at hmore
            rw [← hmore] at h
            exact absurd List.mem_cons_self h
          | cons b gap =>
            obtain ⟨-, rfl⟩ := List.cons.inj hmore
            exact Or.inr ⟨gap, after, hds.symm⟩
  · rintro (hin | hin)
    · exact hin.trans (List.prefix_append cs _).isInfix
    · exact hin.trans ((List.suffix_cons a ds).trans (List.suffix_append cs _)).isInfix

theorem not_isInfix_of_isFreeOf {a : Char} {as cs : List Char}
    (h : isFreeOf (a :: as) cs = true) : ¬ (a :: as) <:+: cs := by
  induction cs with
  | nil => exact fun hin => absurd (List.eq_nil_of_infix_nil hin) (List.cons_ne_nil a as)
  | cons c rest ih =>
    rw [isFreeOf, Bool.and_eq_true] at h
    rw [List.infix_cons_iff, not_or]
    refine ⟨?_, ih h.2⟩
    rintro ⟨after, hafter⟩
    have hnot := not_differ_of_prefix (a :: as) after
    rw [hafter, h.1] at hnot
    exact Bool.false_ne_true hnot.symm

end LinkedSheets.Text
