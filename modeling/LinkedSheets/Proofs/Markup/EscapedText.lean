import LinkedSheets.Proofs.Markup.Escaping
import Mathlib

/-!
# Escaping inverted

Escaped texts are those without marks in which every ampersand begins an entity. Each is what one
text only is written as, also if there were entities in that text: they are escaped again, and read
back as they were.
-/

namespace LinkedSheets.Markup

/-- What a text looks like in which all characters are written as they have to be. -/
structure IsEscaped (cs : List Char) : Prop where
  marks_eq_nil : marks cs = []
  ampersands : AmpersandsBegin characterEntities cs

theorem isEscaped_escape (s : String) : IsEscaped (escape s).toList where
  marks_eq_nil := marks_escape s
  ampersands := ampersandsBegin_escape s

theorem IsEscaped.of_append {cs ds : List Char} (h : IsEscaped (cs ++ ds)) : IsEscaped ds where
  marks_eq_nil := by
    have hmarks := h.marks_eq_nil
    rw [marks_append, List.append_eq_nil_iff] at hmarks
    exact hmarks.2
  ampersands := fun rest hsuffix =>
    h.ampersands rest (hsuffix.trans (List.suffix_append cs ds))

theorem IsEscaped.isMark_head {c : Char} {rest : List Char} (h : IsEscaped (c :: rest)) :
    isMark c = false :=
  marks_eq_nil_iff.mp h.marks_eq_nil c List.mem_cons_self

-- The entities are what the characters are written as that cannot stand for themselves.
theorem map_toList_characterEntities :
    characterEntities.map String.toList = "&<>\"'".toList.map escapeChar := rfl

theorem exists_escapeChar_of_entity {e : String} (he : e ∈ characterEntities) :
    ∃ d, escapeChar d = e.toList := by
  have hmem : e.toList ∈ characterEntities.map String.toList := List.mem_map_of_mem he
  rw [map_toList_characterEntities] at hmem
  obtain ⟨d, -, hd⟩ := List.mem_map.mp hmem
  exact ⟨d, hd⟩

theorem escapeChar_eq_self {c : Char} (hamp : c ≠ '&') (hmark : isMark c = false) :
    escapeChar c = [c] := by
  rcases escapeChar_eq_or c with rfl | rfl | rfl | rfl | rfl | ⟨-, -, hself⟩
  · exact absurd rfl hamp
  · exact absurd hmark (by decide)
  · exact absurd hmark (by decide)
  · exact absurd hmark (by decide)
  · exact absurd hmark (by decide)
  · exact hself

theorem escapeChar_ne_nil (c : Char) : escapeChar c ≠ [] := by
  intro hnil
  have hread := unescapeFrom_escapeChar c []
  rw [hnil, List.nil_append] at hread
  exact absurd hread (List.cons_ne_nil _ _).symm

theorem IsEscaped.exists_head {c : Char} {rest : List Char} (h : IsEscaped (c :: rest)) :
    ∃ d after, c :: rest = escapeChar d ++ after := by
  by_cases hamp : c = '&'
  · subst hamp
    obtain ⟨e, he, after, hafter⟩ := h.ampersands rest List.suffix_rfl
    obtain ⟨d, hd⟩ := exists_escapeChar_of_entity he
    exact ⟨d, after, by rw [hd, hafter]⟩
  · exact ⟨c, rest, by rw [escapeChar_eq_self hamp h.isMark_head, List.singleton_append]⟩

-- Such a text is taken apart from the left, into what single characters are written as.
theorem IsEscaped.exists_flatMap {cs : List Char} (h : IsEscaped cs) :
    ∃ ds : List Char, ds.flatMap escapeChar = cs := by
  induction hlength : cs.length using Nat.strongRecOn generalizing cs with
  | ind n ih =>
    subst hlength
    cases cs with
    | nil => exact ⟨[], rfl⟩
    | cons c rest =>
      obtain ⟨d, after, hcs⟩ := h.exists_head
      rw [hcs] at h ih ⊢
      have hlt : after.length < (escapeChar d ++ after).length := by
        rw [List.length_append]
        exact Nat.lt_add_of_pos_left (List.length_pos_iff.mpr (escapeChar_ne_nil d))
      obtain ⟨ds, hds⟩ := ih after.length hlt h.of_append rfl
      exact ⟨d :: ds, by rw [List.flatMap_cons, hds]⟩

theorem isEscaped_iff {t : String} : IsEscaped t.toList ↔ ∃ s, escape s = t := by
  constructor
  · intro h
    obtain ⟨ds, hds⟩ := h.exists_flatMap
    refine ⟨String.ofList ds, ?_⟩
    rw [← String.toList_inj, toList_escape, String.toList_ofList, hds]
  · rintro ⟨s, rfl⟩
    exact isEscaped_escape s

-- No entity begins with another one.
theorem entity_eq_of_prefix {e f : String} {cs : List Char} (he : e ∈ characterEntities)
    (hf : f ∈ characterEntities) (hecs : e.toList <+: cs) (hfcs : f.toList <+: cs) : e = f := by
  have hapart : ∀ e ∈ characterEntities, ∀ f ∈ characterEntities,
      e.toList <+: f.toList → e = f := by decide
  rcases List.prefix_or_prefix_of_prefix hecs hfcs with h | h
  · exact hapart e he f hf h
  · exact (hapart f hf e he h).symm

theorem existsUnique_entity {s : String} {rest : List Char}
    (h : '&' :: rest <:+ (escape s).toList) :
    ∃! e, e ∈ characterEntities ∧ e.toList <+: '&' :: rest := by
  obtain ⟨e, he, hprefix⟩ := ampersandsBegin_escape s rest h
  exact ⟨e, ⟨he, hprefix⟩, fun f hf => entity_eq_of_prefix hf.1 he hf.2 hprefix⟩

theorem not_mem_escape (s : String) : ∀ c ∈ ['<', '>', '\'', '"'], c ∉ (escape s).toList := by
  have hall : ∀ c ∈ ['<', '>', '\'', '"'], isMark c = true := by simp [isMark]
  intro c hc hmem
  have hno := marks_eq_nil_iff.mp (marks_escape s) c hmem
  rw [hall c hc] at hno
  exact Bool.false_ne_true hno.symm

theorem escape_injective : Function.Injective escape := by
  intro s t h
  rw [← unescape_escape s, h, unescape_escape]

-- If nothing in a text is changed, no entity is in it, and so no ampersand either.
theorem escape_eq_self_iff {s : String} :
    escape s = s ↔ '&' ∉ s.toList ∧ marks s.toList = [] := by
  constructor
  · intro h
    have hescaped := isEscaped_escape s
    have hread : unescapeFrom (escape s).toList = s.toList := by
      rw [toList_escape, unescapeFrom_flatMap_escapeChar]
    rw [h] at hescaped hread
    refine ⟨?_, hescaped.marks_eq_nil⟩
    intro hamp
    obtain ⟨before, rest, hs⟩ := List.append_of_mem hamp
    have hsuffix : '&' :: rest <:+ s.toList := ⟨before, hs.symm⟩
    obtain ⟨e, he, hbegins⟩ := hescaped.ampersands rest hsuffix
    exact unescapeFrom_eq_self_iff.mp hread e he (hbegins.isInfix.trans hsuffix.isInfix)
  · rintro ⟨hamp, hmarks⟩
    have hself : ∀ c ∈ s.toList, escapeChar c = [c] := by
      intro c hc
      exact escapeChar_eq_self (fun heq => hamp (heq ▸ hc)) (marks_eq_nil_iff.mp hmarks c hc)
    rw [← String.toList_inj, toList_escape, List.flatMap_congr hself, List.flatMap_singleton']

/-- Escaped text has none of the characters that delimit tags and attributes, every ampersand in it
begins exactly one of the entities, and reading it back from left to right gives the text that was
escaped; there are no other texts of that kind. It is written piece by piece, and different texts
are written differently, also where they have entities in them: only a text with no ampersand and no
delimiter is written as it is. -/
theorem escape_invertible :
    (∀ s, (∀ c ∈ ['<', '>', '\'', '"'], c ∉ (escape s).toList) ∧
      (∀ rest, '&' :: rest <:+ (escape s).toList →
        ∃! e, e ∈ characterEntities ∧ e.toList <+: '&' :: rest) ∧
      unescape (escape s).toList = s) ∧
    (∀ s t, escape (s ++ t) = escape s ++ escape t) ∧
    Function.Injective escape ∧
    (∀ t, IsEscaped t.toList ↔ ∃ s, escape s = t) ∧
    ∀ s, escape s = s ↔ '&' ∉ s.toList ∧ marks s.toList = [] :=
  ⟨fun s => ⟨not_mem_escape s, fun _ => existsUnique_entity, unescape_escape s⟩,
    escape_append, escape_injective, fun _ => isEscaped_iff, fun _ => escape_eq_self_iff⟩

/-- A text that looks escaped is escaped again: its ampersand begins one entity then, and it is read
back as it was. -/
theorem escape_invertible_entity :
    escape "&lt;" = "&amp;lt;" ∧ unescape (escape "&lt;").toList = "&lt;" ∧
      ∃! e, e ∈ characterEntities ∧ e.toList <+: "&amp;lt;".toList := by
  obtain ⟨hescape, -⟩ := escape_invertible
  obtain ⟨-, hentity, hread⟩ := hescape "&lt;"
  exact ⟨by decide, hread, hentity "amp;lt;".toList (by decide)⟩

end LinkedSheets.Markup
