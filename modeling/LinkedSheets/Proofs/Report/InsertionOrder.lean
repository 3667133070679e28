import LinkedSheets.Proofs.Area.Bounding
import LinkedSheets.Proofs.Report.Outcome
import LinkedSheets.Proofs.Sheet.CellMap

/-!
# The order of insertions

If no two values and no two formulae are put in for the same cell, the order in which they are put
in cannot be seen on any page, nor can the order in which the tables of a sheet list their entries.
-/

namespace LinkedSheets

namespace Sheet

section

variable {α : Type} {entries : List (String × α)}

/-- All references are read as cells. -/
def AllRead (entries : List (String × α)) : Prop := ∀ e ∈ entries, ∃ c, CellRef.parse e.1 = .ok c

theorem allRead_of_insertions {is : List Insertion}
    (h : ∀ i ∈ is, ∃ c, CellRef.parse i.reference = .ok c) :
    AllRead (Insertion.values is) ∧ AllRead (Insertion.formulae is) := by
  constructor
  · intro e he
    obtain ⟨i, hi, hentry⟩ := List.mem_filterMap.mp he
    cases i with
    | value reference v =>
      rw [← Option.some.inj hentry]
      exact h (.value reference v) hi
    | formula reference n => cases hentry
  · intro e he
    obtain ⟨i, hi, hentry⟩ := List.mem_filterMap.mp he
    cases i with
    | value reference v => cases hentry
    | formula reference n =>
      rw [← Option.some.inj hentry]
      exact h (.formula reference n) hi

theorem map_key_of_allRead (h : AllRead entries) :
    entries.map (fun e => key e.1) = (spelledCells entries).map CellRef.text := by
  induction entries with
  | nil => rfl
  | cons e rest ih =>
    obtain ⟨c, hc⟩ := h e List.mem_cons_self
    have hcells : spelledCells (e :: rest) = c :: spelledCells rest :=
      List.filterMap_cons_some (Insertion.toOption_eq_some_iff.mpr hc)
    rw [List.map_cons, hcells, List.map_cons, key_of_ok hc,
      ih fun e he => h e (List.mem_cons_of_mem _ he)]

-- If each cell is spelled once, everything that is put in takes up an entry of its own.
theorem entries_stored_of_nodup (h : AllRead entries) (hnodup : (spelledCells entries).Nodup) :
    (stored entries).entries = entries.map fun e => (key e.1, e.2) := by
  apply Table.entries_ofList_of_nodup
  rw [map_fst_keyed, map_key_of_allRead h]
  apply List.Nodup.map_on _ hnodup
  intro c hc d hd
  exact CellRef.text_injective (isProper_of_mem_spelledCells hc) (isProper_of_mem_spelledCells hd)

theorem exists_parse_of_mem_keys_stored (h : AllRead entries) {k : String}
    (hk : k ∈ (stored entries).keys) : ∃ c, CellRef.parse k = .ok c := by
  rw [stored, Table.keys_ofList, List.mem_eraseDups, map_fst_keyed, map_key_of_allRead h] at hk
  obtain ⟨c, hc, rfl⟩ := List.mem_map.mp hk
  exact ⟨c, CellRef.parse_text (isProper_of_mem_spelledCells hc)⟩

end

/-- The same sheet, but that its tables may list their entries in another order. -/
structure Rearranges (s t : Sheet) : Prop where
  name : s.name = t.name
  values : s.values.entries.Perm t.values.entries
  formulae : s.formulae.entries.Perm t.formulae.entries

theorem Rearranges.symm {s t : Sheet} (h : s.Rearranges t) : t.Rearranges s where
  name := h.name.symm
  values := h.values.symm
  formulae := h.formulae.symm

theorem Rearranges.trans {s t u : Sheet} (h : s.Rearranges t) (h' : t.Rearranges u) :
    s.Rearranges u where
  name := h.name.trans h'.name
  values := h.values.trans h'.values
  formulae := h.formulae.trans h'.formulae

theorem name_ofInsertions (name : String) (is : List Insertion) :
    (ofInsertions name is).name = name := by
  induction is using List.reverseRecOn with
  | nil => rfl
  | append_singleton is i ih =>
    rw [ofInsertions_concat]
    cases i with
    | value reference v => exact ih
    | formula reference n => exact ih

theorem rearranges_ofInsertions {name : String} {is js : List Insertion} (h : is.Perm js)
    (hvalues : AllRead (Insertion.values is)) (hformulae : AllRead (Insertion.formulae is))
    (hvalues' : (spelledCells (Insertion.values is)).Nodup)
    (hformulae' : (spelledCells (Insertion.formulae is)).Nodup) :
    (ofInsertions name is).Rearranges (ofInsertions name js) := by
  -- The order of what is put in is that of the entries, on both sides.
  have hstored {α : Type} {entries entries' : List (String × α)} (hp : entries.Perm entries')
      (hread : AllRead entries) (hnodup : (spelledCells entries).Nodup) :
      (stored entries).entries.Perm (stored entries').entries := by
    have hread' : AllRead entries' := fun e he => hread e (hp.mem_iff.mpr he)
    have hnodup' : (spelledCells entries').Nodup := (hp.filterMap _).nodup_iff.mp hnodup
    rw [entries_stored_of_nodup hread hnodup, entries_stored_of_nodup hread' hnodup']
    exact hp.map _
  obtain ⟨hleft, hleft'⟩ := tables_ofInsertions name is
  obtain ⟨hright, hright'⟩ := tables_ofInsertions name js
  refine ⟨?_, ?_, ?_⟩
  · rw [name_ofInsertions, name_ofInsertions]
  · rw [hleft, hright]
    exact hstored (h.filterMap _) hvalues hvalues'
  · rw [hleft', hright']
    exact hstored (h.filterMap _) hformulae hformulae'

theorem extent_of_perm {s t : Sheet} (h : s.values.keys.Perm t.values.keys)
    (hread : ∀ k ∈ s.values.keys, ∃ c, CellRef.parse k = .ok c) : s.extent = t.extent := by
  obtain ⟨cells, hcells⟩ := exists_mapM_eq_ok_iff.mpr hread
  have hs := Area.boundingKeys_eq_ok_iff.mpr ⟨cells, hcells, rfl⟩
  have ht := Area.boundingKeys_of_mem_iff (fun key => h.mem_iff.symm) hs
  rw [extent, extent, hs, ht]

/-- Sheets that no page tells apart. -/
structure Alike (s t : Sheet) : Prop where
  name : s.name = t.name
  value? : ∀ c, s.value? c = t.value? c
  formula? : ∀ c, s.formula? c = t.formula? c
  extent : s.extent = t.extent
  values : s.values.size = t.values.size
  formulae : s.formulae.size = t.formulae.size

theorem Rearranges.alike {s t : Sheet} (h : s.Rearranges t) (hvalues : s.values.keys.Nodup)
    (hformulae : s.formulae.keys.Nodup)
    (hread : ∀ k ∈ s.values.keys, ∃ c, CellRef.parse k = .ok c) : s.Alike t where
  name := h.name
  value? := fun c => Table.get?_of_perm hvalues h.values c.text
  formula? := fun c => Table.get?_of_perm hformulae h.formulae c.text
  extent := extent_of_perm (h.values.map Prod.fst) hread
  values := h.values.length_eq
  formulae := h.formulae.length_eq

end Sheet

namespace Report

open Sheet

variable {σ ε : Type} {s t : Sheet}

/-- The report with a sheet in its workbook, in the place of the one of the same name if there is
one. -/
def holding (r : Report) (s : Sheet) : Report := { r with workbook := r.workbook.push s }

theorem sheet?_holding (r : Report) (s : Sheet) (name : String) :
    (r.holding s).workbook.sheet? name =
      if name = s.name then some s else r.workbook.sheet? name :=
  Workbook.sheet?_push r.workbook s name

theorem navigation_holding (r : Report) (h : s.name = t.name) :
    (r.holding s).navigation = (r.holding t).navigation := by
  have hnames : (r.holding s).workbook.names = (r.holding t).workbook.names := by
    rw [holding, holding, Workbook.names_push, Workbook.names_push, h]
  rw [navigation, navigation, hnames]
  rfl

theorem area_of_alike (r : Report) (h : s.Alike t) : r.area s = r.area t := by
  rw [area, area, h.extent, h.name]

theorem tableLines_of_alike (h : s.Alike t) (grid : Grid) :
    tableLines s grid = tableLines t grid := by
  have hcell : cellLine s = cellLine t := by
    funext cell
    have hformula : formulaText s cell = formulaText t cell := by
      rw [formulaText, formulaText, h.formula?]
    have hvalue : valueText? s cell = valueText? t cell := by
      rw [valueText?, valueText?, h.value?]
    unfold cellLine
    rw [hformula, hvalue]
  have hrow : rowLines s = rowLines t := by
    funext row
    rw [rowLines, rowLines, hcell]
  rw [tableLines, tableLines, hrow]

theorem compiling_of_alike (h : s.Alike t) (a : Area) : compiling s a = compiling t a := by
  rw [compiling, compiling, h.name, h.values, h.formulae]

-- Whatever the sink does, it is given the same pieces.
theorem writePage_of_alike (r : Report) (h : s.Alike t) (k : Sink σ ε) (name : String) :
    (r.holding s).writePage k name = (r.holding t).writePage k name := by
  have harea (u : Sheet) : (r.holding s).area u = (r.holding t).area u := rfl
  have hheading (u : String) : headingLines (r.holding s) u = headingLines (r.holding t) u := rfl
  have hstamp : (r.holding s).stamp = (r.holding t).stamp := rfl
  have hfooter (stamp : String) :
      footerLines (r.holding s) stamp = footerLines (r.holding t) stamp := rfl
  have hnavigation (u : String) :
      navigationLines (r.holding s) u = navigationLines (r.holding t) u := by
    rw [navigationLines, navigationLines, navigation_holding r h.name]
  unfold writePage
  simp only [harea, hheading, hstamp, hfooter, hnavigation, sheet?_holding, ← h.name]
  by_cases hname : name = s.name
  · funext p
    simp only [hname, if_true, Option.elim_some, take_bind, area_of_alike _ h, h.name,
      tableLines_of_alike h, compiling_of_alike h]
  · simp only [hname, if_false]

theorem compile_of_alike (r : Report) (h : s.Alike t) (name : String) :
    (r.holding s).compile name = (r.holding t).compile name := by
  rw [compile, compile, draft, draft, writePage_of_alike r h]

-- Sheets that the same insertions have made, in whatever order, are rearrangements of each other.
theorem alike_of_insertions {name : String} {is js : List Insertion} (h : is.Perm js)
    (hread : ∀ i ∈ is, ∃ c, CellRef.parse i.reference = .ok c)
    (hvalues : (spelledCells (Insertion.values is)).Nodup)
    (hformulae : (spelledCells (Insertion.formulae is)).Nodup)
    (hs : (ofInsertions name is).Rearranges s) (ht : (ofInsertions name js).Rearranges t) :
    s.Alike t ∧ ∀ k ∈ s.values.keys, ∃ c, CellRef.parse k = .ok c := by
  obtain ⟨hreadValues, hreadFormulae⟩ := allRead_of_insertions hread
  obtain ⟨hstored, hstored'⟩ := tables_ofInsertions name is
  have hmade : (ofInsertions name is).Rearranges (ofInsertions name js) :=
    rearranges_ofInsertions h hreadValues hreadFormulae hvalues hformulae
  have hnodup : s.values.keys.Nodup := by
    apply (hs.values.map Prod.fst).nodup_iff.mp
    rw [hstored]
    exact Table.nodup_keys_ofList _
  have hnodup' : s.formulae.keys.Nodup := by
    apply (hs.formulae.map Prod.fst).nodup_iff.mp
    rw [hstored']
    exact Table.nodup_keys_ofList _
  have hkeys : ∀ k ∈ s.values.keys, ∃ c, CellRef.parse k = .ok c := by
    intro k hk
    apply exists_parse_of_mem_keys_stored hreadValues
    rw [← hstored]
    exact (hs.values.map Prod.fst).mem_iff.mpr hk
  exact ⟨((hs.symm.trans hmade).trans ht).alike hnodup hnodup' hkeys, hkeys⟩

/-- The order of insertions cannot be seen. Let two sheets be made by the same insertions in
different orders, all under references of cells, with no two values and no two formulae for one
cell. However their tables list what is in them, they have the same area, which is known, and pages
are the same with either, or fail to be made in the same way; whatever sink takes a page, the same
becomes of it. -/
theorem pages_of_permutation {name : String} {is js : List Insertion} (h : is.Perm js)
    (hread : ∀ i ∈ is, ∃ c, CellRef.parse i.reference = .ok c)
    (hvalues : (spelledCells (Insertion.values is)).Nodup)
    (hformulae : (spelledCells (Insertion.formulae is)).Nodup)
    (hs : (ofInsertions name is).Rearranges s) (ht : (ofInsertions name js).Rearranges t)
    (r : Report) :
    (∃ a, (r.area s).result = .ok a) ∧ r.area s = r.area t ∧
    (∀ sheet, (r.holding s).compile sheet = (r.holding t).compile sheet) ∧
    ∀ (σ ε : Type) (k : Sink σ ε) (sheet : String),
      (r.holding s).writePage k sheet = (r.holding t).writePage k sheet := by
  obtain ⟨halike, hkeys⟩ := alike_of_insertions h hread hvalues hformulae hs ht
  exact ⟨area_result_isOk_iff.mpr hkeys, area_of_alike r halike, compile_of_alike r halike,
    fun _ _ k => writePage_of_alike r halike k⟩

/-- Two values and a formula, for two cells. -/
def scattered : List Insertion :=
  [.value "b$2" ⟨.number, "4"⟩, .formula "B02" (.leaf "<"), .value "A1" ⟨.text, "&"⟩]

/-- Made in the other direction, the sheet has the same page. -/
theorem pages_of_permutation_reversed :
    (single "").area (ofInsertions "S" scattered) =
        (single "").area (ofInsertions "S" scattered.reverse) ∧
      ((single "").holding (ofInsertions "S" scattered)).compile "S" =
        ((single "").holding (ofInsertions "S" scattered.reverse)).compile "S" := by
  have hread : ∀ i ∈ scattered, ∃ c, CellRef.parse i.reference = .ok c := by
    intro i hi
    simp only [scattered, List.mem_cons, List.not_mem_nil, or_false] at hi
    rcases hi with rfl | rfl | rfl
    · exact ⟨⟨2, 2⟩, rfl⟩
    · exact ⟨⟨2, 2⟩, rfl⟩
    · exact ⟨⟨1, 1⟩, rfl⟩
  have hcells : spelledCells (Insertion.values scattered) = [⟨2, 2⟩, ⟨1, 1⟩] := rfl
  have hcells' : spelledCells (Insertion.formulae scattered) = [⟨2, 2⟩] := rfl
  have hkept (s : Sheet) : s.Rearranges s := ⟨rfl, .refl _, .refl _⟩
  obtain ⟨-, harea, hpages, -⟩ := pages_of_permutation (List.reverse_perm scattered).symm hread
    (by rw [hcells]; decide) (by rw [hcells']; decide) (hkept (ofInsertions "S" scattered))
    (hkept (ofInsertions "S" scattered.reverse)) (single "")
  exact ⟨harea, hpages "S"⟩

end Report

end LinkedSheets
