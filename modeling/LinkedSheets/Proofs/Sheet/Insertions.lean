import LinkedSheets.Proofs.Cell.Spelling
import LinkedSheets.Sheet

/-!
# Sheets made by insertions

A sheet is made by putting in values and formulae one after the other. Seen through its look-ups it
is a map from cells: a cell has what was put in last under any of its spellings. References that
spell no cell have keys that no cell has.
-/

namespace LinkedSheets

open Text

inductive Insertion where
  | value (reference : String) (v : CellValue)
  | formula (reference : String) (n : Node)

namespace Sheet

def insert (s : Sheet) : Insertion → Sheet
  | .value reference v => s.putValue reference v
  | .formula reference n => s.putFormula reference n

/-- A new sheet after some insertions. -/
def ofInsertions (name : String) (is : List Insertion) : Sheet := is.foldl insert (ofName name)

theorem ofInsertions_concat (name : String) (is : List Insertion) (i : Insertion) :
    ofInsertions name (is ++ [i]) = (ofInsertions name is).insert i := by
  rw [ofInsertions, List.foldl_append]
  rfl

end Sheet

namespace Insertion

/-- The reference of a value. -/
def valueReference? : Insertion → Option String
  | .value reference _ => some reference
  | .formula _ _ => none

/-- The value that an insertion gives to a cell. -/
def valueFor? (c : CellRef) : Insertion → Option CellValue
  | .value reference v => if (CellRef.parse reference).toOption = some c then some v else none
  | .formula _ _ => none

/-- The value that the last insertion that gives one gives to a cell. -/
def lastValue? (c : CellRef) (is : List Insertion) : Option CellValue :=
  is.reverse.findSome? (valueFor? c)

/-- The references under which values are put in. -/
def valueReferences (is : List Insertion) : List String := is.filterMap valueReference?

theorem toOption_eq_some_iff {ε α : Type} {x : Except ε α} {a : α} :
    x.toOption = some a ↔ x = .ok a := by
  cases x <;> simp [Except.toOption]

theorem lastValue?_concat (c : CellRef) (is : List Insertion) (i : Insertion) :
    lastValue? c (is ++ [i]) = (valueFor? c i).or (lastValue? c is) := by
  rw [lastValue?, List.reverse_append, List.reverse_singleton, List.singleton_append,
    List.findSome?_cons]
  cases valueFor? c i with
  | none => rfl
  | some v => rfl

theorem isSome_lastValue? {c : CellRef} {is : List Insertion} {reference : String}
    (hr : reference ∈ valueReferences is) (hc : CellRef.parse reference = .ok c) :
    (lastValue? c is).isSome = true := by
  obtain ⟨i, hi, hv⟩ := List.mem_filterMap.mp hr
  rw [lastValue?, List.isSome_findSome?, List.any_eq_true]
  refine ⟨i, List.mem_reverse.mpr hi, ?_⟩
  cases i with
  | value reference' v =>
    simp only [valueReference?, Option.some.injEq] at hv
    simp only [valueFor?, hv, hc, Except.toOption, if_true, Option.isSome_some]
  | formula reference' n => exact absurd hv (by simp [valueReference?])

end Insertion

namespace Sheet

theorem toList_key_of_error {reference : String} {e : RefError}
    (h : CellRef.parse reference = .error e) :
    (key reference).toList = (CellRef.body reference).map Char.toUpper := by
  unfold key
  rw [h]
  simp only [String.toList_ofList, CellRef.toList_body]

theorem key_of_ok {reference : String} {c : CellRef} (h : CellRef.parse reference = .ok c) :
    key reference = c.text := by
  unfold key
  rw [h]

-- The spellings of a cell are stored under its text, and nothing else is.
theorem key_eq_text_iff {reference : String} {c : CellRef} (h : c.IsProper) :
    key reference = c.text ↔ CellRef.parse reference = .ok c := by
  constructor
  · intro hkey
    cases hp : CellRef.parse reference with
    | ok d =>
      rw [key_of_ok hp] at hkey
      rw [CellRef.text_injective (CellRef.isProper_of_parse hp) h hkey]
    | error e =>
      -- A key that is the text of a cell spells it, and so did the reference in other letters.
      have hspells := CellRef.spells_text h
      rw [← hkey, toList_key_of_error hp, CellRef.spells_map_toUpper,
        ← CellRef.parse_eq_ok_iff, hp] at hspells
      exact absurd hspells (by simp)
  · exact key_of_ok

-- What is stored under a reference is found for the cell that it spells, and for no other one.
theorem get?_put_key {α : Type} (t : Table String α) (reference : String) (a : α) {c : CellRef}
    (h : c.IsProper) :
    (t.put (key reference) a).get? c.text =
      if (CellRef.parse reference).toOption = some c then some a else t.get? c.text := by
  rw [Table.get?_put]
  by_cases hc : CellRef.parse reference = .ok c
  · rw [if_pos ((key_eq_text_iff h).mpr hc).symm,
      if_pos (Insertion.toOption_eq_some_iff.mpr hc)]
  · rw [if_neg fun he => hc ((key_eq_text_iff h).mp he.symm),
      if_neg fun he => hc (Insertion.toOption_eq_some_iff.mp he)]

theorem value?_putValue (s : Sheet) (reference : String) (v : CellValue) {c : CellRef}
    (h : c.IsProper) :
    (s.putValue reference v).value? c =
      (Insertion.valueFor? c (.value reference v)).or (s.value? c) := by
  have hput : (s.putValue reference v).value? c = _ := get?_put_key s.values reference v h
  rw [hput, Insertion.valueFor?]
  split
  · rfl
  · rfl

theorem value?_insert (s : Sheet) (i : Insertion) {c : CellRef} (h : c.IsProper) :
    (s.insert i).value? c = (Insertion.valueFor? c i).or (s.value? c) := by
  cases i with
  | value reference v => exact value?_putValue s reference v h
  | formula reference n => rfl

-- A cell has the value that was put in last for it.
theorem value?_ofInsertions (name : String) (is : List Insertion) {c : CellRef} (h : c.IsProper) :
    (ofInsertions name is).value? c = Insertion.lastValue? c is := by
  induction is using List.reverseRecOn with
  | nil => rfl
  | append_singleton is i ih =>
    -- The last insertion hides the earlier ones for its own cell only.
    rw [ofInsertions_concat, value?_insert _ i h, ih, Insertion.lastValue?_concat]

theorem mem_keys_insert {s : Sheet} {i : Insertion} {k : String} :
    k ∈ (s.insert i).values.keys ↔
      k ∈ s.values.keys ∨ ∃ reference, i.valueReference? = some reference ∧ key reference = k := by
  cases i with
  | value reference v =>
    simp only [insert, putValue, Table.keys_put, Insertion.valueReference?, Option.some.injEq,
      exists_eq_left']
    split
    · rename_i hmem
      constructor
      · exact Or.inl
      · rintro (h | rfl)
        · exact h
        · exact hmem
    · rw [List.mem_append, List.mem_singleton, eq_comm (a := k)]
  | formula reference n =>
    simp only [insert, putFormula, Insertion.valueReference?, reduceCtorEq, false_and,
      exists_false, or_false]

theorem mem_keys_ofInsertions {name : String} {is : List Insertion} {k : String} :
    k ∈ (ofInsertions name is).values.keys ↔
      ∃ reference ∈ Insertion.valueReferences is, key reference = k := by
  induction is using List.reverseRecOn with
  | nil =>
    simp only [Insertion.valueReferences, List.filterMap_nil, List.not_mem_nil, false_and,
      exists_false, iff_false]
    exact List.not_mem_nil
  | append_singleton is i ih =>
    have hrefs : Insertion.valueReferences (is ++ [i]) =
        Insertion.valueReferences is ++ i.valueReference?.toList := by
      rw [Insertion.valueReferences, List.filterMap_append, ← Insertion.valueReferences]
      cases hi : i.valueReference? <;> simp [hi]
    rw [ofInsertions_concat, mem_keys_insert, ih, hrefs]
    simp only [List.mem_append, Option.mem_toList]
    constructor
    · rintro (⟨reference, hr, hk⟩ | ⟨reference, hr, hk⟩)
      · exact ⟨reference, Or.inl hr, hk⟩
      · exact ⟨reference, Or.inr hr, hk⟩
    · rintro ⟨reference, hr | hr, hk⟩
      · exact Or.inl ⟨reference, hr, hk⟩
      · exact Or.inr ⟨reference, hr, hk⟩

end Sheet

end LinkedSheets
