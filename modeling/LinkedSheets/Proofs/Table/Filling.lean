import LinkedSheets.Table
import Mathlib.Data.Finset.Card
import Mathlib.Data.List.Induction

/-!
# Tables filled entry by entry

A table has its keys in the order in which they first came and no key twice. A key has what came
last for it, and putting something in for one key leaves the entries of all others where they are.
In which order the entries stand makes no difference for a look-up.
-/

namespace LinkedSheets

section

variable {κ : Type} [DecidableEq κ]

theorem eraseDups_concat (ks : List κ) (k : κ) :
    (ks ++ [k]).eraseDups = if k ∈ ks then ks.eraseDups else ks.eraseDups ++ [k] := by
  rw [List.eraseDups_append]
  split
  · rename_i hmem
    have hnone : [k].removeAll ks = [] := by simp [List.removeAll, hmem]
    rw [hnone, List.eraseDups_nil, List.append_nil]
  · rename_i hnew
    have hsame : [k].removeAll ks = [k] := by simp [List.removeAll, hnew]
    rw [hsame]
    rfl

theorem nodup_eraseDups (ks : List κ) : ks.eraseDups.Nodup := by
  induction ks using List.reverseRecOn with
  | nil => exact List.nodup_nil
  | append_singleton ks k ih =>
    have hstep := Table.nodup_ite_append (k := k) ih
    simp only [List.mem_eraseDups] at hstep
    rw [eraseDups_concat]
    exact hstep

end

namespace Table

variable {κ α : Type} [DecidableEq κ]

theorem ofList_concat (es : List (κ × α)) (e : κ × α) :
    ofList (es ++ [e]) = (ofList es).put e.1 e.2 := by
  rw [ofList, List.foldl_append]
  rfl

/-- The keys come in the order of their first entries. -/
theorem keys_ofList (es : List (κ × α)) : (ofList es).keys = (es.map Prod.fst).eraseDups := by
  induction es using List.reverseRecOn with
  | nil => rfl
  | append_singleton es e ih =>
    rw [ofList_concat, keys_put, ih, List.map_append, List.map_singleton, eraseDups_concat]
    simp only [List.mem_eraseDups]

theorem nodup_keys_ofList (es : List (κ × α)) : (ofList es).keys.Nodup := by
  rw [keys_ofList]
  exact nodup_eraseDups _

theorem size_ofList (es : List (κ × α)) :
    (ofList es).size = (es.map Prod.fst).toFinset.card := by
  have hkeys : (ofList es).keys.toFinset = (es.map Prod.fst).toFinset := by
    ext k
    rw [keys_ofList, List.mem_toFinset, List.mem_toFinset, List.mem_eraseDups]
  rw [← hkeys, List.toFinset_card_of_nodup (nodup_keys_ofList es), keys, List.length_map, size]

/-- A key has what the last entry for it holds. -/
theorem get?_ofList (es : List (κ × α)) (k : κ) :
    (ofList es).get? k = (es.reverse.find? fun e => e.1 = k).map Prod.snd := by
  induction es using List.reverseRecOn with
  | nil => rfl
  | append_singleton es e ih =>
    rw [ofList_concat, get?_put, List.reverse_append, List.reverse_singleton,
      List.singleton_append, List.find?_cons]
    by_cases h : e.1 = k
    · rw [if_pos h.symm, decide_eq_true h]
      rfl
    · rw [if_neg (Ne.symm h), decide_eq_false h, ih]

theorem putIn_of_notMem (k : κ) (a : α) {es : List (κ × α)} (h : k ∉ es.map Prod.fst) :
    putIn k a es = es ++ [(k, a)] := by
  induction es with
  | nil => rfl
  | cons e rest ih =>
    rw [List.map_cons, List.mem_cons, not_or] at h
    rw [putIn, if_neg (Ne.symm h.1), ih h.2, List.cons_append]

-- An entry is replaced where it is.
theorem putIn_of_mem (k : κ) (a : α) {es : List (κ × α)} (hnodup : (es.map Prod.fst).Nodup)
    (h : k ∈ es.map Prod.fst) : putIn k a es = es.map fun e => if e.1 = k then (k, a) else e := by
  induction es with
  | nil => exact absurd h List.not_mem_nil
  | cons e rest ih =>
    rw [List.map_cons, List.nodup_cons] at hnodup
    rw [putIn, List.map_cons]
    by_cases he : e.1 = k
    · have hother : ∀ e' ∈ rest, (if e'.1 = k then (k, a) else e') = e' := by
        intro e' he'
        apply if_neg
        intro hsame
        exact hnodup.1 (he.trans hsame.symm ▸ List.mem_map_of_mem he')
      rw [if_pos he, if_pos he, List.map_congr_left hother, List.map_id']
    · rw [List.map_cons, List.mem_cons] at h
      rw [if_neg he, if_neg he, ih hnodup.2 (h.resolve_left (Ne.symm he))]

/-- Putting something in for a key changes no other entry, nor the place of any. -/
theorem entries_put {t : Table κ α} (h : t.keys.Nodup) (k : κ) (a : α) :
    (t.put k a).entries =
      if k ∈ t.keys then t.entries.map fun e => if e.1 = k then (k, a) else e
      else t.entries ++ [(k, a)] := by
  split
  · rename_i hmem
    exact putIn_of_mem k a h hmem
  · rename_i hnew
    exact putIn_of_notMem k a hnew

theorem entries_ofList_of_nodup {es : List (κ × α)} (h : (es.map Prod.fst).Nodup) :
    (ofList es).entries = es := by
  induction es using List.reverseRecOn with
  | nil => rfl
  | append_singleton es e ih =>
    rw [List.map_append, List.map_singleton, List.nodup_append] at h
    have hnew : e.1 ∉ (ofList es).keys := by
      rw [keys_ofList, List.mem_eraseDups]
      exact fun hmem => h.2.2 e.1 hmem e.1 (List.mem_singleton_self _) rfl
    rw [ofList_concat, entries_put (nodup_keys_ofList es), if_neg hnew, ih h.1]

theorem lookup_eq_some_iff_mem {es : List (κ × α)} (h : (es.map Prod.fst).Nodup) {k : κ} {a : α} :
    es.lookup k = some a ↔ (k, a) ∈ es := by
  induction es with
  | nil => simp
  | cons e rest ih =>
    rw [List.map_cons, List.nodup_cons] at h
    obtain ⟨k', a'⟩ := e
    rw [lookup_cons, List.mem_cons]
    by_cases hk : k = k'
    · have hnot : (k, a) ∉ rest := by
        intro hmem
        have hkey : k ∈ rest.map Prod.fst := List.mem_map_of_mem (f := Prod.fst) hmem
        exact h.1 (hk ▸ hkey)
      rw [if_pos hk, or_iff_left hnot, hk, Option.some.injEq, Prod.mk.injEq, and_iff_right rfl]
      exact eq_comm
    · rw [if_neg hk, ih h.2, Prod.mk.injEq, or_iff_right fun he => hk he.1]

/-- The last entry for each key is kept. -/
theorem mem_entries_ofList {es : List (κ × α)} {e : κ × α} :
    e ∈ (ofList es).entries ↔
      ∃ before after, es = before ++ e :: after ∧ e.1 ∉ after.map Prod.fst := by
  rw [← lookup_eq_some_iff_mem (nodup_keys_ofList es), ← get?, get?_ofList, Option.map_eq_some_iff]
  constructor
  · rintro ⟨e', hfind, he'⟩
    obtain ⟨hkey, after, before, hes, hafter⟩ := List.find?_eq_some_iff_append.mp hfind
    have heq : e' = e := Prod.ext (of_decide_eq_true hkey) he'
    refine ⟨before.reverse, after.reverse, ?_, fun hmem => ?_⟩
    · rw [← List.reverse_reverse es, hes, heq]
      simp only [List.reverse_append, List.reverse_cons, List.append_assoc, List.singleton_append]
    · obtain ⟨other, hother, hsame⟩ := List.mem_map.mp hmem
      simpa [hsame] using hafter other (List.mem_reverse.mp hother)
  · rintro ⟨before, after, rfl, hnew⟩
    refine ⟨e, List.find?_eq_some_iff_append.mpr ⟨decide_eq_true rfl, after.reverse,
      before.reverse, ?_, fun other hother => ?_⟩, rfl⟩
    · simp only [List.reverse_append, List.reverse_cons, List.append_assoc, List.singleton_append]
    · rw [Bool.not_eq_true', decide_eq_false_iff_not]
      intro hsame
      exact hnew (List.mem_map.mpr ⟨other, List.mem_reverse.mp hother, hsame⟩)

/-- Look-ups do not depend on the order of the entries. -/
theorem get?_of_perm {t u : Table κ α} (hnodup : t.keys.Nodup) (h : t.entries.Perm u.entries)
    (k : κ) : t.get? k = u.get? k := by
  have hnodup' : u.keys.Nodup := (h.map Prod.fst).nodup_iff.mp hnodup
  apply Option.ext
  intro a
  rw [get?, get?, lookup_eq_some_iff_mem hnodup, lookup_eq_some_iff_mem hnodup', h.mem_iff]

end Table

end LinkedSheets
