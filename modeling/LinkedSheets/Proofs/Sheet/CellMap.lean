import LinkedSheets.Proofs.Sheet.Insertions
import LinkedSheets.Proofs.Table.Filling

/-!
# Sheets as maps from cells

Values and formulae are put into a sheet in any order. What is found for a cell is what came last
for it under any of its spellings. As many keys are in use as cells have been spelled, and one more
for each text that spells no cell: such a text never has the key of a cell.
-/

namespace LinkedSheets

open Text

namespace Insertion

/-- The text under which something is put in. -/
def reference : Insertion → String
  | .value reference _ => reference
  | .formula reference _ => reference

/-- The reference and the value, if it is a value that is put in. -/
def valueEntry? : Insertion → Option (String × CellValue)
  | .value reference v => some (reference, v)
  | .formula _ _ => none

/-- The reference and the formula, if it is a formula that is put in. -/
def formulaEntry? : Insertion → Option (String × Node)
  | .value _ _ => none
  | .formula reference n => some (reference, n)

/-- The values that are put in, with their references. -/
def values (is : List Insertion) : List (String × CellValue) := is.filterMap valueEntry?

/-- The formulae that are put in, with their references. -/
def formulae (is : List Insertion) : List (String × Node) := is.filterMap formulaEntry?

end Insertion

namespace Sheet

section

variable {α : Type}

/-- The table that entries make if each is put in under the key of its reference. -/
def stored (entries : List (String × α)) : Table String α :=
  .ofList (entries.map fun e => (key e.1, e.2))

/-- What the last entry whose reference spells a cell holds. -/
def latest? (c : CellRef) (entries : List (String × α)) : Option α :=
  (entries.reverse.find? fun e => (CellRef.parse e.1).toOption = some c).map Prod.snd

/-- The cells that the references of entries spell. -/
def spelledCells (entries : List (String × α)) : List CellRef :=
  entries.filterMap fun e => (CellRef.parse e.1).toOption

/-- What is kept of a reference that spells no cell: it is trimmed, loses its dollar signs and gets
capitals. -/
def strayText (reference : String) : String :=
  String.ofList ((stripAbsolute (trimmed reference)).toList.map Char.toUpper)

/-- What is kept of the references of entries that spell no cell. -/
def strayTexts (entries : List (String × α)) : List String :=
  (entries.filter fun e => (CellRef.parse e.1).toOption.isNone).map fun e => strayText e.1

theorem stored_concat (entries : List (String × α)) (e : String × α) :
    stored (entries ++ [e]) = (stored entries).put (key e.1) e.2 := by
  rw [stored, List.map_append, List.map_singleton, Table.ofList_concat, stored]

theorem map_fst_keyed (entries : List (String × α)) :
    (entries.map fun e => (key e.1, e.2)).map Prod.fst = entries.map fun e => key e.1 := by
  simp only [List.map_map, Function.comp_def]

-- The key of a reference is the text of its cell if it spells one.
theorem get?_stored (entries : List (String × α)) {c : CellRef} (h : c.IsProper) :
    (stored entries).get? c.text = latest? c entries := by
  have hkey (e : String × α) :
      decide (key e.1 = c.text) = decide ((CellRef.parse e.1).toOption = some c) := by
    rw [decide_eq_decide, key_eq_text_iff h, Insertion.toOption_eq_some_iff]
  rw [stored, Table.get?_ofList, ← List.map_reverse, List.find?_map, Option.map_map, latest?]
  simp only [Function.comp_def, hkey]

theorem key_of_error {reference : String} {e : RefError}
    (h : CellRef.parse reference = .error e) : key reference = strayText reference := by
  rw [← String.toList_inj, toList_key_of_error h, strayText, String.toList_ofList,
    CellRef.toList_body]

-- A key is the text of a cell that is spelled, or a text that spells none.
theorem mem_map_key_iff {entries : List (String × α)} {k : String} :
    k ∈ entries.map (fun e => key e.1) ↔
      k ∈ (spelledCells entries).map CellRef.text ∨ k ∈ strayTexts entries := by
  induction entries with
  | nil => simp [spelledCells, strayTexts]
  | cons e rest ih =>
    cases hparse : CellRef.parse e.1 with
    | ok c =>
      have hcells : spelledCells (e :: rest) = c :: spelledCells rest := by
        simp [spelledCells, hparse, Except.toOption]
      have hstrays : strayTexts (e :: rest) = strayTexts rest := by
        simp [strayTexts, hparse, Except.toOption]
      rw [hcells, hstrays, List.map_cons, List.map_cons, List.mem_cons, List.mem_cons, ih,
        key_of_ok hparse, or_assoc]
    | error cause =>
      have hcells : spelledCells (e :: rest) = spelledCells rest := by
        simp [spelledCells, hparse, Except.toOption]
      have hstrays : strayTexts (e :: rest) = strayText e.1 :: strayTexts rest := by
        simp [strayTexts, hparse, Except.toOption]
      rw [hcells, hstrays, List.map_cons, List.mem_cons, List.mem_cons, ih, key_of_error hparse]
      exact or_left_comm

theorem isProper_of_mem_spelledCells {entries : List (String × α)} {c : CellRef}
    (h : c ∈ spelledCells entries) : c.IsProper := by
  obtain ⟨e, -, he⟩ := List.mem_filterMap.mp h
  exact CellRef.isProper_of_parse (Insertion.toOption_eq_some_iff.mp he)

theorem text_notMem_strayTexts {entries : List (String × α)} {c : CellRef} (h : c.IsProper) :
    c.text ∉ strayTexts entries := by
  intro hmem
  obtain ⟨e, he, htext⟩ := List.mem_map.mp hmem
  have hnone := (List.mem_filter.mp he).2
  cases hparse : CellRef.parse e.1 with
  | ok d => simp [hparse, Except.toOption] at hnone
  | error cause =>
    rw [← key_of_error hparse, key_eq_text_iff h, hparse] at htext
    cases htext

/-- There is a key for each cell that is spelled and for each text that spells none. -/
theorem size_stored (entries : List (String × α)) :
    (stored entries).size =
      (spelledCells entries).toFinset.card + (strayTexts entries).toFinset.card := by
  have hinjective : Set.InjOn CellRef.text (spelledCells entries).toFinset := by
    intro c hc d hd htext
    rw [Finset.mem_coe, List.mem_toFinset] at hc hd
    exact CellRef.text_injective (isProper_of_mem_spelledCells hc)
      (isProper_of_mem_spelledCells hd) htext
  have hdisjoint : Disjoint ((spelledCells entries).toFinset.image CellRef.text)
      (strayTexts entries).toFinset := by
    rw [Finset.disjoint_left]
    intro k hk
    obtain ⟨c, hc, rfl⟩ := Finset.mem_image.mp hk
    rw [List.mem_toFinset] at hc ⊢
    exact text_notMem_strayTexts (isProper_of_mem_spelledCells hc)
  have hkeys : (entries.map fun e => key e.1).toFinset =
      (spelledCells entries).toFinset.image CellRef.text ∪ (strayTexts entries).toFinset := by
    ext k
    rw [List.mem_toFinset, mem_map_key_iff, Finset.mem_union, List.mem_toFinset, Finset.mem_image]
    simp only [List.mem_map, List.mem_toFinset]
  rw [stored, Table.size_ofList, map_fst_keyed, hkeys, Finset.card_union_of_disjoint hdisjoint,
    Finset.card_image_of_injOn hinjective]

end

-- Values go to one table and formulae to the other.
theorem tables_ofInsertions (name : String) (is : List Insertion) :
    (ofInsertions name is).values = stored (Insertion.values is) ∧
      (ofInsertions name is).formulae = stored (Insertion.formulae is) := by
  induction is using List.reverseRecOn with
  | nil => exact ⟨rfl, rfl⟩
  | append_singleton is i ih =>
    rw [ofInsertions_concat]
    cases i with
    | value reference v =>
      have hvalues : Insertion.values (is ++ [.value reference v]) =
          Insertion.values is ++ [(reference, v)] := List.filterMap_append
      have hformulae : Insertion.formulae (is ++ [.value reference v]) =
          Insertion.formulae is ++ [] := List.filterMap_append
      rw [hvalues, hformulae, List.append_nil, stored_concat, ← ih.1]
      exact ⟨rfl, ih.2⟩
    | formula reference n =>
      have hvalues : Insertion.values (is ++ [.formula reference n]) =
          Insertion.values is ++ [] := List.filterMap_append
      have hformulae : Insertion.formulae (is ++ [.formula reference n]) =
          Insertion.formulae is ++ [(reference, n)] := List.filterMap_append
      rw [hvalues, hformulae, List.append_nil, stored_concat, ← ih.2]
      exact ⟨ih.1, rfl⟩

-- What is put in under a text that spells no cell is not found for any cell.
theorem lookUps_insert_of_rejected (s : Sheet) {i : Insertion}
    (hi : ¬ ∃ c, CellRef.parse i.reference = .ok c) {c : CellRef} (h : c.IsProper) :
    (s.insert i).value? c = s.value? c ∧ (s.insert i).formula? c = s.formula? c := by
  have hnot : (CellRef.parse i.reference).toOption ≠ some c :=
    fun hc => hi ⟨c, Insertion.toOption_eq_some_iff.mp hc⟩
  cases i with
  | value reference v => exact ⟨(get?_put_key s.values reference v h).trans (if_neg hnot), rfl⟩
  | formula reference n =>
    exact ⟨rfl, (get?_put_key s.formulae reference n h).trans (if_neg hnot)⟩

/-- A sheet is a map from cells, whatever is put in and in whatever order. A cell has the value and
the formula that came last under any of its spellings. What comes under a text that spells no cell
changes neither for any cell. The values, and likewise the formulae, take up as many keys as they
have cells that are spelled, and texts that spell none. -/
theorem ofInsertions_refines_map (name : String) (is : List Insertion) :
    (∀ c : CellRef, c.IsProper →
      (ofInsertions name is).value? c = latest? c (Insertion.values is) ∧
      (ofInsertions name is).formula? c = latest? c (Insertion.formulae is)) ∧
    (∀ (s : Sheet) (i : Insertion), (¬ ∃ c, CellRef.parse i.reference = .ok c) →
      ∀ c : CellRef, c.IsProper →
        (s.insert i).value? c = s.value? c ∧ (s.insert i).formula? c = s.formula? c) ∧
    (ofInsertions name is).values.size =
      (spelledCells (Insertion.values is)).toFinset.card +
        (strayTexts (Insertion.values is)).toFinset.card ∧
    (ofInsertions name is).formulae.size =
      (spelledCells (Insertion.formulae is)).toFinset.card +
        (strayTexts (Insertion.formulae is)).toFinset.card := by
  obtain ⟨hvalues, hformulae⟩ := tables_ofInsertions name is
  refine ⟨fun c hc => ⟨?_, ?_⟩, fun s i hi c hc => lookUps_insert_of_rejected s hi hc, ?_, ?_⟩
  · rw [value?, hvalues, get?_stored _ hc]
  · rw [formula?, hformulae, get?_stored _ hc]
  · rw [hvalues, size_stored]
  · rw [hformulae, size_stored]

/-- Two values for one cell under different spellings, a formula between them, and two values under
spellings of one text that is no reference. -/
def respellings : List Insertion :=
  [.value "$a$1" ⟨.number, "1"⟩, .formula " A01" (.leaf "x"), .value "oops" ⟨.text, "y"⟩,
    .value "A1" ⟨.number, "2"⟩, .value " OOP$S" ⟨.text, "z"⟩]

/-- The cell has its second value and its formula, and two keys are in use for values. -/
theorem ofInsertions_refines_map_respelled :
    (ofInsertions "S" respellings).value? ⟨1, 1⟩ = some ⟨.number, "2"⟩ ∧
      (ofInsertions "S" respellings).formula? ⟨1, 1⟩ = some (.leaf "x") ∧
      ((ofInsertions "S" (respellings ++ [.value "1A" ⟨.text, ""⟩])).value? ⟨1, 1⟩ =
        (ofInsertions "S" respellings).value? ⟨1, 1⟩) ∧
      (ofInsertions "S" respellings).values.size = 2 ∧
      (ofInsertions "S" respellings).formulae.size = 1 := by
  obtain ⟨hcells, hrejected, hvalues, hformulae⟩ := ofInsertions_refines_map "S" respellings
  obtain ⟨hvalue, hformula⟩ := hcells ⟨1, 1⟩ (by decide)
  refine ⟨hvalue.trans rfl, hformula.trans rfl, ?_, hvalues.trans rfl, hformulae.trans rfl⟩
  have hinvalid : CellRef.parse "1A" = .error (.invalid "1A") := rfl
  have hi : ¬ ∃ c, CellRef.parse "1A" = .ok c := by
    rintro ⟨c, hc⟩
    rw [hinvalid] at hc
    cases hc
  rw [ofInsertions_concat]
  exact (hrejected _ (.value "1A" ⟨.text, ""⟩) hi ⟨1, 1⟩ (by decide)).1

end Sheet

end LinkedSheets
