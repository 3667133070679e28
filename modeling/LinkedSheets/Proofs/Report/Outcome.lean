import LinkedSheets.Proofs.Area.Extent
import LinkedSheets.Proofs.Report.Streaming

/-!
# What comes of an area and of a page

The area of a sheet is known when all its keys can be read. A page is made when its sheet is known,
the area is not too large and the time can be written.
-/

namespace LinkedSheets.Report

/-- The area of some cells, or that of an empty sheet. -/
def areaOf (cells : List CellRef) : Area := (Area.bounding cells).getD emptyArea

theorem boundingKeys_eq (keys : List String) :
    Area.boundingKeys keys = (keys.mapM CellRef.parse).map Area.bounding := by
  unfold Area.boundingKeys
  cases keys.mapM CellRef.parse <;> rfl

theorem area_result_eq_ok_iff {r : Report} {s : Sheet} {a : Area} :
    (r.area s).result = .ok a ↔
      ∃ cells, s.values.keys.mapM CellRef.parse = .ok cells ∧ a = areaOf cells := by
  unfold area Sheet.extent
  rw [boundingKeys_eq]
  cases s.values.keys.mapM CellRef.parse with
  | error e => simp [Except.map]
  | ok cells =>
    simp only [Except.map, Except.ok.injEq, exists_eq_left', areaOf]
    exact eq_comm

theorem area_result_isOk_iff {r : Report} {s : Sheet} :
    (∃ a, (r.area s).result = .ok a) ↔
      ∀ k ∈ s.values.keys, ∃ c, CellRef.parse k = .ok c := by
  simp only [area_result_eq_ok_iff, ← exists_mapM_eq_ok_iff]
  constructor
  · rintro ⟨a, cells, h, -⟩
    exact ⟨cells, h⟩
  · rintro ⟨cells, h⟩
    exact ⟨areaOf cells, cells, h, rfl⟩

-- The area of a sheet reaches from `A1` to the largest row and the largest column of its keys.
theorem corners_areaOf {keys : List String} {cells : List CellRef}
    (h : keys.mapM CellRef.parse = .ok cells) :
    (areaOf cells).start = Area.origin ∧
      (areaOf cells).finish.row.toNat = largest (cells.map fun c => c.row.toNat) ∧
      (areaOf cells).finish.col.toNat = largest (cells.map fun c => c.col.toNat) :=
  Area.bounding_getD (isProper_of_mem_cells h)

theorem contains_areaOf {keys : List String} {cells : List CellRef}
    (h : keys.mapM CellRef.parse = .ok cells) {c : CellRef} (hc : c ∈ cells) :
    (areaOf cells).Contains c := by
  obtain ⟨hstart, hrow, hcol⟩ := corners_areaOf h
  rw [Area.contains_iff_of_start hstart, hrow, hcol]
  exact ⟨isProper_of_mem_cells h c hc, le_largest (List.mem_map_of_mem hc),
    le_largest (List.mem_map_of_mem hc)⟩

-- The cell of every key lies in the area of the sheet.
theorem contains_of_parse_key {r : Report} {s : Sheet} {a : Area} (ha : (r.area s).result = .ok a)
    {k : String} (hk : k ∈ s.values.keys) {c : CellRef} (hc : CellRef.parse k = .ok c) :
    a.Contains c := by
  obtain ⟨cells, hcells, rfl⟩ := area_result_eq_ok_iff.mp ha
  obtain ⟨d, hd, hparse⟩ := exists_of_mem_left (mapM_eq_ok_iff.mp hcells) hk
  rw [hc, Except.ok.injEq] at hparse
  rw [hparse]
  exact contains_areaOf hcells hd

theorem checked_result_eq_ok_iff {r : Report} {name : String} {lines : List String} :
    (r.checked name).result = .ok lines ↔
      ∃ s a stamp, r.workbook.sheet? name = some s ∧ (r.area s).result = .ok a ∧
        a.cellCount ≤ maxCells ∧ r.stamp = .ok stamp ∧ lines = r.pageLines s a stamp := by
  unfold checked
  cases hs : r.workbook.sheet? name with
  | none => simp
  | some s =>
    cases ha : (r.area s).result with
    | error e => simp [ha]
    | ok a =>
      by_cases hsize : maxCells < a.cellCount
      · have hnot : ¬ a.cellCount ≤ maxCells := UInt64.not_le.mpr hsize
        simp [ha, hsize, hnot]
      · have hle : a.cellCount ≤ maxCells := UInt64.not_lt.mp hsize
        cases hstamp : r.stamp with
        | error e => simp [ha, hsize]
        | ok stamp => simp [ha, hsize, hle, eq_comm]

theorem compile_result_eq_ok_iff {r : Report} {name page : String} :
    (r.compile name).result = .ok page ↔
      ∃ s a stamp, r.workbook.sheet? name = some s ∧ (r.area s).result = .ok a ∧
        a.cellCount ≤ maxCells ∧ r.stamp = .ok stamp ∧ page = r.page s a stamp := by
  rw [compile_eq]
  constructor
  · intro h
    cases hc : (r.checked name).result with
    | error e =>
      rw [hc] at h
      exact absurd h (by simp [Except.map])
    | ok lines =>
      obtain ⟨s, a, stamp, hs, ha, hsize, hstamp, rfl⟩ := checked_result_eq_ok_iff.mp hc
      rw [hc] at h
      exact ⟨s, a, stamp, hs, ha, hsize, hstamp, (Except.ok.inj h).symm⟩
  · rintro ⟨s, a, stamp, hs, ha, hsize, hstamp, rfl⟩
    rw [checked_result_eq_ok_iff.mpr ⟨s, a, stamp, hs, ha, hsize, hstamp, rfl⟩]
    rfl

-- A sheet that has an area has a page, unless it is too large.
theorem compile_of_area {r : Report} {name : String} {s : Sheet} {a : Area}
    (hsheet : r.workbook.sheet? name = some s) (harea : (r.area s).result = .ok a)
    (hsize : a.cellCount ≤ maxCells) (hformat : r.settings.timestampFormat = "") :
    (r.compile name).result = .ok (r.page s a "") := by
  have hstamp : r.stamp = .ok "" := by
    rw [stamp, hformat]
    rfl
  exact compile_result_eq_ok_iff.mpr ⟨s, a, "", hsheet, harea, hsize, hstamp, rfl⟩

-- A sheet with a value in `A1` alone has a page of one cell.
theorem area_of_onlyOrigin {r : Report} {s : Sheet} (hkeys : s.values.keys = ["A1"]) :
    (r.area s).result = .ok emptyArea := by
  have hcells : s.values.keys.mapM CellRef.parse = .ok [⟨1, 1⟩] := by
    rw [hkeys]
    rfl
  exact area_result_eq_ok_iff.mpr ⟨_, hcells, rfl⟩

theorem compile_of_onlyOrigin {r : Report} {name : String} {s : Sheet}
    (hsheet : r.workbook.sheet? name = some s) (hkeys : s.values.keys = ["A1"])
    (hformat : r.settings.timestampFormat = "") :
    (r.compile name).result = .ok (r.page s emptyArea "") :=
  compile_of_area hsheet (area_of_onlyOrigin hkeys) (by decide) hformat

-- A sheet without an area has no page either.
theorem compile_of_area_error {r : Report} {name : String} {s : Sheet} {e : ReportError}
    (hsheet : r.workbook.sheet? name = some s) (harea : (r.area s).result = .error e) :
    (r.compile name).result = .error e := by
  have hchecked : (r.checked name).result = .error e := by
    unfold checked
    simp only [hsheet, harea]
  rw [compile_eq, hchecked]
  rfl

/-- A sheet whose only cell has a given text both as its value and as its formula. -/
def singleSheet (text : String) : Sheet where
  name := "S"
  values := .ofList [("A1", ⟨.text, text⟩)]
  formulae := .ofList [("A1", .leaf text)]

/-- A report of such a sheet, under the text as its title. -/
def single (text : String) : Report where
  workbook := Workbook.empty.push (singleSheet text)
  dimensions := .empty
  settings := { Settings.standard with timestampFormat := "" }
  title := text
  moment := ⟨⟨2024, 2, 29⟩, 0, 0, 0, 0, 0⟩

theorem sheet?_single (text : String) :
    (single text).workbook.sheet? "S" = some (singleSheet text) :=
  (Workbook.sheet?_push Workbook.empty (singleSheet text) "S").trans (if_pos rfl)

theorem area_single (text : String) :
    ((single text).area (singleSheet text)).result = .ok emptyArea := area_of_onlyOrigin rfl

theorem compile_single (text : String) :
    ((single text).compile "S").result =
      .ok ((single text).page (singleSheet text) emptyArea "") :=
  compile_of_onlyOrigin (sheet?_single text) rfl rfl

/-- A sheet of two rows and two columns, with a text in two corners and as the formula of a
third. -/
def cornersSheet (name text : String) : Sheet where
  name := name
  values := .ofList [("A1", ⟨.text, text⟩), ("B2", ⟨.text, text⟩)]
  formulae := .ofList [("B1", .leaf text)]

/-- A sheet with a value under a key that is no reference. -/
def straySheet (name : String) : Sheet where
  name := name
  values := .ofList [("A1", ⟨.text, ""⟩), ("TOTAL", ⟨.text, ""⟩)]
  formulae := .empty

/-- A report of three sheets, the second of which has no page. -/
def halting (text : String) : Report :=
  { single text with
    workbook := ((Workbook.empty.push (cornersSheet "S" text)).push (straySheet "T")).push
      (cornersSheet "U" text) }

theorem sheet?_halting (text : String) :
    (halting text).workbook.sheet? "S" = some (cornersSheet "S" text) := rfl

theorem parse_keys_cornersSheet (name text : String) :
    (cornersSheet name text).values.keys.mapM CellRef.parse = .ok [⟨1, 1⟩, ⟨2, 2⟩] := by
  have hkeys : (cornersSheet name text).values.keys = ["A1", "B2"] := rfl
  rw [hkeys]
  rfl

theorem exists_compile_cornersSheet {r : Report} {name text : String}
    (hsheet : r.workbook.sheet? name = some (cornersSheet name text))
    (hformat : r.settings.timestampFormat = "") : ∃ page, (r.compile name).result = .ok page := by
  have harea : (r.area (cornersSheet name text)).result = .ok (areaOf [⟨1, 1⟩, ⟨2, 2⟩]) :=
    area_result_eq_ok_iff.mpr ⟨_, parse_keys_cornersSheet name text, rfl⟩
  exact ⟨_, compile_of_area hsheet harea (by decide) hformat⟩

theorem compile_straySheet {r : Report} {name : String}
    (hsheet : r.workbook.sheet? name = some (straySheet name)) :
    (r.compile name).result = .error (.reference name (.invalid "TOTAL")) := by
  have hkeys : Area.boundingKeys (straySheet name).values.keys = .error (.invalid "TOTAL") := rfl
  apply compile_of_area_error hsheet
  rw [area, Sheet.extent, hkeys]
  rfl

end LinkedSheets.Report
