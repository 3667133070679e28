import LinkedSheets.Markup.Escape
import LinkedSheets.Proofs.Text.Beginnings
import Mathlib

/-!
# What escaping leaves

Escaped text has none of the characters that delimit tags and attributes, and an ampersand in it
begins an entity. It is read back by putting the character in place of each entity.
-/

namespace LinkedSheets.Markup

open Text

/-- The characters that delimit tags and the values of attributes. -/
def isMark (c : Char) : Bool := c = '<' || c = '>' || c = '\'' || c = '"'

/-- The marks of a text, in their order. -/
def marks (cs : List Char) : List Char := cs.filter isMark

/-- The entities for characters that cannot stand for themselves. -/
def characterEntities : List String := ["&amp;", "&lt;", "&gt;", "&quot;", "&#39;"]

/-- Puts the character in place of each entity, from left to right. -/
def unescapeFrom : List Char → List Char
  | [] => []
  | '&' :: 'a' :: 'm' :: 'p' :: ';' :: rest => '&' :: unescapeFrom rest
  | '&' :: 'l' :: 't' :: ';' :: rest => '<' :: unescapeFrom rest
  | '&' :: 'g' :: 't' :: ';' :: rest => '>' :: unescapeFrom rest
  | '&' :: 'q' :: 'u' :: 'o' :: 't' :: ';' :: rest => '"' :: unescapeFrom rest
  | '&' :: '#' :: '3' :: '9' :: ';' :: rest => '\'' :: unescapeFrom rest
  | c :: rest => c :: unescapeFrom rest

def unescape (cs : List Char) : String := String.ofList (unescapeFrom cs)

/-- Every ampersand begins one of some entities. -/
def AmpersandsBegin (entities : List String) (cs : List Char) : Prop :=
  ∀ rest, '&' :: rest <:+ cs → ∃ e ∈ entities, e.toList <+: '&' :: rest

theorem unescapeFrom_cons {c : Char} (h : c ≠ '&') (rest : List Char) :
    unescapeFrom (c :: rest) = c :: unescapeFrom rest := by
  conv_lhs => unfold unescapeFrom
  split <;> simp_all

-- A character is written as itself if it is no mark and no ampersand.
theorem escapeChar_eq_or (c : Char) :
    c = '&' ∨ c = '<' ∨ c = '>' ∨ c = '"' ∨ c = '\'' ∨
      c ≠ '&' ∧ isMark c = false ∧ escapeChar c = [c] := by
  by_cases hamp : c = '&'
  · exact Or.inl hamp
  by_cases hlt : c = '<'
  · exact Or.inr (Or.inl hlt)
  by_cases hgt : c = '>'
  · exact Or.inr (Or.inr (Or.inl hgt))
  by_cases hquot : c = '"'
  · exact Or.inr (Or.inr (Or.inr (Or.inl hquot)))
  by_cases hapos : c = '\''
  · exact Or.inr (Or.inr (Or.inr (Or.inr (Or.inl hapos))))
  · refine Or.inr (Or.inr (Or.inr (Or.inr (Or.inr ⟨hamp, ?_, ?_⟩))))
    · simp only [isMark, hlt, hgt, hquot, hapos, decide_false, Bool.or_self]
    · simp only [escapeChar, hamp, hlt, hgt, hquot, hapos, if_false]

theorem unescapeFrom_escapeChar (c : Char) (rest : List Char) :
    unescapeFrom (escapeChar c ++ rest) = c :: unescapeFrom rest := by
  rcases escapeChar_eq_or c with rfl | rfl | rfl | rfl | rfl | ⟨hamp, -, hself⟩
  · rfl
  · rfl
  · rfl
  · rfl
  · rfl
  · rw [hself, List.singleton_append, unescapeFrom_cons hamp]

theorem unescapeFrom_flatMap_escapeChar (cs : List Char) :
    unescapeFrom (cs.flatMap escapeChar) = cs := by
  induction cs with
  | nil => rfl
  | cons c rest ih => rw [List.flatMap_cons, unescapeFrom_escapeChar, ih]

theorem unescape_escape (s : String) : unescape (escape s).toList = s := by
  rw [toList_escape, unescape, unescapeFrom_flatMap_escapeChar, String.ofList_toList]

-- What is taken off a text is an entity, or a character where none begins.
theorem unescapeFrom_cons_cases (c : Char) (rest : List Char) :
    (∃ e ∈ characterEntities, ∃ d after, c :: rest = e.toList ++ after ∧
        unescapeFrom (c :: rest) = d :: unescapeFrom after) ∨
      (unescapeFrom (c :: rest) = c :: unescapeFrom rest ∧
        ∀ e ∈ characterEntities, ¬ e.toList <+: c :: rest) := by
  by_cases h : ∃ e ∈ characterEntities, e.toList <+: c :: rest
  · obtain ⟨e, he, after, hafter⟩ := h
    refine Or.inl ⟨e, he, ?_⟩
    rw [← hafter]
    simp only [characterEntities, List.mem_cons, List.not_mem_nil, or_false] at he
    rcases he with rfl | rfl | rfl | rfl | rfl
    · exact ⟨'&', after, rfl, rfl⟩
    · exact ⟨'<', after, rfl, rfl⟩
    · exact ⟨'>', after, rfl, rfl⟩
    · exact ⟨'"', after, rfl, rfl⟩
    · exact ⟨'\'', after, rfl, rfl⟩
  · refine Or.inr ⟨?_, fun e he hprefix => h ⟨e, he, hprefix⟩⟩
    have hnot (e : String) (he : e ∈ characterEntities) (after : List Char) :
        c :: rest ≠ e.toList ++ after :=
      fun heq => h ⟨e, he, after, heq.symm⟩
    generalize hcs : c :: rest = cs
    conv_lhs => unfold unescapeFrom
    split
    · cases hcs
    · exact absurd hcs (hnot "&amp;" (by decide) _)
    · exact absurd hcs (hnot "&lt;" (by decide) _)
    · exact absurd hcs (hnot "&gt;" (by decide) _)
    · exact absurd hcs (hnot "&quot;" (by decide) _)
    · exact absurd hcs (hnot "&#39;" (by decide) _)
    · obtain ⟨rfl, rfl⟩ := List.cons.inj hcs
      rfl

theorem length_lt_of_entity {e : String} {cs after : List Char} (he : e ∈ characterEntities)
    (h : cs = e.toList ++ after) : after.length + 1 < cs.length := by
  have hlong : ∀ e ∈ characterEntities, 1 < e.toList.length := by decide
  have hentity := hlong e he
  rw [h, List.length_append]
  omega

theorem length_unescapeFrom_le (cs : List Char) : (unescapeFrom cs).length ≤ cs.length := by
  induction hlength : cs.length using Nat.strongRecOn generalizing cs with
  | ind n ih =>
    subst hlength
    cases cs with
    | nil => exact Nat.le_refl 0
    | cons c rest =>
      obtain ⟨e, he, d, after, hcs, heq⟩ | ⟨heq, -⟩ := unescapeFrom_cons_cases c rest
      · have hlt := length_lt_of_entity he hcs
        have hafter := ih after.length (by omega) after rfl
        rw [heq, List.length_cons]
        omega
      · have hrest := ih rest.length (Nat.lt_succ_self _) rest rfl
        rw [heq, List.length_cons, List.length_cons]
        omega

-- A text stands for itself exactly if there is no entity in it.
theorem unescapeFrom_eq_self_iff {cs : List Char} :
    unescapeFrom cs = cs ↔ ∀ e ∈ characterEntities, ¬ e.toList <:+: cs := by
  induction cs with
  | nil =>
    have hnone : ∀ e ∈ characterEntities, ¬ e.toList <:+: [] := by decide
    exact iff_of_true rfl hnone
  | cons c rest ih =>
    obtain ⟨e, he, d, after, hcs, heq⟩ | ⟨heq, hnot⟩ := unescapeFrom_cons_cases c rest
    · -- An entity makes a text shorter.
      have hne : unescapeFrom (c :: rest) ≠ c :: rest := by
        intro hself
        have hlt := length_lt_of_entity he hcs
        have hle := length_unescapeFrom_le after
        rw [← hself, heq, List.length_cons] at hlt
        omega
      refine iff_of_false hne fun hfree => hfree e he ?_
      rw [hcs]
      exact (List.prefix_append _ _).isInfix
    · rw [heq, List.cons.injEq, and_iff_right rfl, ih]
      refine forall_congr' fun e => forall_congr' fun he => ?_
      rw [List.infix_cons_iff, or_iff_right (hnot e he)]

theorem marks_escapeChar (d : Char) : marks (escapeChar d) = [] := by
  rcases escapeChar_eq_or d with rfl | rfl | rfl | rfl | rfl | ⟨-, hmark, hself⟩
  · rfl
  · rfl
  · rfl
  · rfl
  · rfl
  · rw [hself, marks, List.filter_cons_of_neg (by rw [hmark]; exact Bool.false_ne_true),
      List.filter_nil]

theorem marks_escape (s : String) : marks (escape s).toList = [] := by
  rw [toList_escape, marks, List.filter_flatMap, List.flatMap_eq_nil_iff]
  intro c _
  exact marks_escapeChar c

theorem marks_eq_nil_iff {cs : List Char} : marks cs = [] ↔ ∀ c ∈ cs, isMark c = false := by
  simp only [marks, List.filter_eq_nil_iff, Bool.not_eq_true]

theorem marks_append (cs ds : List Char) : marks (cs ++ ds) = marks cs ++ marks ds :=
  List.filter_append ..

theorem ampersandsBegin_iff_eachBegins {entities : List String} {cs : List Char} :
    AmpersandsBegin entities cs ↔ EachBegins '&' (fun ds => ∃ e ∈ entities, e.toList <+: ds) cs :=
  Iff.rfl

theorem ampersandsBegin_of_not_mem {entities : List String} {cs : List Char} (h : '&' ∉ cs) :
    AmpersandsBegin entities cs :=
  ampersandsBegin_iff_eachBegins.mpr (eachBegins_of_not_mem h)

theorem exists_entity_append {entities : List String} (cs ds : List Char)
    (h : ∃ e ∈ entities, e.toList <+: cs) : ∃ e ∈ entities, e.toList <+: cs ++ ds := by
  obtain ⟨e, he, hprefix⟩ := h
  exact ⟨e, he, hprefix.trans (List.prefix_append cs ds)⟩

theorem ampersandsBegin_append {entities : List String} {cs ds : List Char}
    (hc : AmpersandsBegin entities cs) (hd : AmpersandsBegin entities ds) :
    AmpersandsBegin entities (cs ++ ds) := by
  rw [ampersandsBegin_iff_eachBegins] at hc hd ⊢
  exact eachBegins_append exists_entity_append hc hd

theorem ampersandsBegin_flatMap {α : Type} {entities : List String} {f : α → List Char}
    {xs : List α} (h : ∀ x ∈ xs, AmpersandsBegin entities (f x)) :
    AmpersandsBegin entities (xs.flatMap f) := by
  rw [ampersandsBegin_iff_eachBegins]
  exact eachBegins_flatMap exists_entity_append h

-- On a text at hand it is checked suffix by suffix.
theorem ampersandsBegin_iff_tails {entities : List String} {cs : List Char} :
    AmpersandsBegin entities cs ↔
      ∀ t ∈ cs.tails, t.head? = some '&' → ∃ e ∈ entities, e.toList <+: t := by
  constructor
  · intro h t ht hhead
    obtain ⟨rest, rfl⟩ := List.head?_eq_some_iff.mp hhead
    exact h rest ((List.mem_tails _ cs).mp ht)
  · intro h rest hsuffix
    exact h _ ((List.mem_tails _ cs).mpr hsuffix) rfl

instance (entities : List String) (cs : List Char) : Decidable (AmpersandsBegin entities cs) :=
  decidable_of_iff _ ampersandsBegin_iff_tails.symm

theorem AmpersandsBegin.mono {entities more : List String} (hsub : entities ⊆ more)
    {cs : List Char} (h : AmpersandsBegin entities cs) : AmpersandsBegin more cs := by
  intro rest hsuffix
  obtain ⟨e, he, hprefix⟩ := h rest hsuffix
  exact ⟨e, hsub he, hprefix⟩

theorem ampersandsBegin_escape (s : String) :
    AmpersandsBegin characterEntities (escape s).toList := by
  rw [toList_escape]
  apply ampersandsBegin_flatMap
  intro c _
  rcases escapeChar_eq_or c with rfl | rfl | rfl | rfl | rfl | ⟨hamp, -, hself⟩
  · decide
  · decide
  · decide
  · decide
  · decide
  · rw [hself]
    exact ampersandsBegin_of_not_mem fun h => hamp (List.mem_singleton.mp h).symm

end LinkedSheets.Markup
