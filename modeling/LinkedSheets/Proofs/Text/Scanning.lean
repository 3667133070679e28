import LinkedSheets.Proofs.Text.Absence
import LinkedSheets.Text.Lines

/-!
# Scanning

A text is read from left to right: cut at the first place where it has a given text, or searched for
all that a scanner reads off it. What is free of the text looked for is passed over.
-/

namespace LinkedSheets.Text

theorem dropPrefix?_eq_some_iff_append {cs before after : List Char} :
    cs.dropPrefix? before = some after ↔ cs = before ++ after := by
  rw [List.dropPrefix?_eq_some_iff]
  constructor
  · rintro ⟨before', rfl, h⟩
    rw [beq_iff_eq.mp h]
  · rintro rfl
    exact ⟨before, rfl, beq_self_eq_true before⟩

theorem not_prefix_of_differ {tag cs : List Char} (h : differ tag cs = true) : ¬ tag <+: cs := by
  rintro ⟨after, rfl⟩
  have hnot := not_differ_of_prefix tag after
  rw [hnot] at h
  exact Bool.false_ne_true h

-- A text is cut where its first separator is.
theorem splitOnce_append {sep : Char} {before : List Char} (h : sep ∉ before) (after : List Char) :
    splitOnce sep (before ++ sep :: after) = some (before, after) := by
  induction before with
  | nil => rw [List.nil_append, splitOnce, if_pos rfl]
  | cons c rest ih =>
    rw [List.mem_cons, not_or] at h
    rw [List.cons_append, splitOnce, if_neg (Ne.symm h.1), ih h.2]
    rfl

/-- What stands before and after the first place where a text has `tag`. -/
def cut? (tag : List Char) : List Char → Option (List Char × List Char)
  | [] => none
  | c :: rest =>
      match (c :: rest).dropPrefix? tag with
      | some after => some ([], after)
      | none => (cut? tag rest).map fun (before, after) => (c :: before, after)

theorem cut?_eq_some {tag cs before after : List Char} (h : cut? tag cs = some (before, after)) :
    cs = before ++ tag ++ after := by
  induction cs generalizing before with
  | nil => cases h
  | cons c rest ih =>
    rw [cut?] at h
    split at h
    · rename_i after' hdrop
      cases h
      exact dropPrefix?_eq_some_iff_append.mp hdrop
    · obtain ⟨⟨before', after'⟩, hrest, heq⟩ := Option.map_eq_some_iff.mp h
      cases heq
      rw [List.cons_append, List.cons_append, ih hrest]

-- The first place is behind a text that is free of the tag.
theorem cut?_append {tag before : List Char} (htag : tag ≠ [])
    (h : isFreeOf tag before = true) (after : List Char) :
    cut? tag (before ++ (tag ++ after)) = some (before, after) := by
  induction before with
  | nil =>
    have hdrop := dropPrefix?_eq_some_iff_append.mpr (Eq.refl (tag ++ after))
    have hne : tag ++ after ≠ [] := List.append_ne_nil_of_left_ne_nil htag after
    obtain ⟨c, rest, hcons⟩ := List.exists_cons_of_ne_nil hne
    rw [List.nil_append]
    rw [hcons] at hdrop ⊢
    rw [cut?, hdrop]
  | cons c rest ih =>
    rw [isFreeOf, Bool.and_eq_true] at h
    have hdrop : (c :: (rest ++ (tag ++ after))).dropPrefix? tag = none := by
      rw [Option.eq_none_iff_forall_ne_some]
      intro after' hsome
      have hprefix := dropPrefix?_eq_some_iff_append.mp hsome
      exact not_prefix_of_differ (differ_append h.1 _) ⟨after', hprefix.symm⟩
    rw [List.cons_append, cut?, hdrop, ih h.2]
    rfl

/-- Reads something off the beginning of a text, which is shorter after that. -/
structure Scanner (α : Type) where
  read? : List Char → Option (α × List Char)
  shorter : ∀ {cs a after}, read? cs = some (a, after) → after.length < cs.length

namespace Scanner

variable {α : Type} {s : Scanner α}

/-- All that is read off a text. Where nothing is read, one character is skipped. -/
def all (s : Scanner α) (cs : List Char) : List α :=
  match _h : s.read? cs with
  | some (a, after) => a :: s.all after
  | none =>
      match cs with
      | [] => []
      | _ :: rest => s.all rest
termination_by cs.length
decreasing_by
  · exact s.shorter _h
  · exact Nat.lt_succ_self _

/-- What is read begins with `tag`. -/
def BeginsWith (s : Scanner α) (tag : List Char) : Prop :=
  ∀ cs a after, s.read? cs = some (a, after) → tag <+: cs

theorem all_of_read?_eq_some {cs after : List Char} {a : α} (h : s.read? cs = some (a, after)) :
    s.all cs = a :: s.all after := by
  rw [all]
  split
  · rename_i a' after' h'
    rw [h, Option.some.injEq, Prod.mk.injEq] at h'
    rw [h'.1, h'.2]
  · rename_i h'
    rw [h] at h'
    exact absurd h' (by simp)

theorem all_cons_of_read?_eq_none {c : Char} {rest : List Char} (h : s.read? (c :: rest) = none) :
    s.all (c :: rest) = s.all rest := by
  rw [all]
  split
  · rename_i a' after' h'
    rw [h] at h'
    exact absurd h' (by simp)
  · rfl

theorem all_nil : s.all [] = [] := by
  rw [all]
  split
  · rename_i a after h
    exact absurd (s.shorter h) (Nat.not_lt_zero _)
  · rfl

-- Text in which nothing begins that could be read is passed over.
theorem all_append {tag cs : List Char} (hs : s.BeginsWith tag) (h : isFreeOf tag cs = true)
    (rest : List Char) : s.all (cs ++ rest) = s.all rest := by
  induction cs with
  | nil => rfl
  | cons c more ih =>
    rw [isFreeOf, Bool.and_eq_true] at h
    have hnone : s.read? (c :: (more ++ rest)) = none := by
      rw [Option.eq_none_iff_forall_ne_some]
      rintro ⟨a, after⟩ hsome
      exact not_prefix_of_differ (differ_append h.1 rest) (hs _ a after hsome)
    rw [List.cons_append, all_cons_of_read?_eq_none hnone, ih h.2]

theorem all_eq_nil {tag cs : List Char} (hs : s.BeginsWith tag) (h : isFreeOf tag cs = true) :
    s.all cs = [] := by
  rw [← List.append_nil cs, all_append hs h, all_nil]

end Scanner

end LinkedSheets.Text
