import LinkedSheets.Proofs.Area.Grid
import LinkedSheets.Proofs.Report.Composition

/-!
# A whole page or nothing

A page is written from its first line to its last, or nothing of it is. What there can be against a
page is found out before its first line, in a fixed order: its sheet, the keys of its values, the
number of its cells, the time.
-/

namespace LinkedSheets.Report

open Text

/-- How many cells the page of some cells has. -/
def extentOf (cells : List CellRef) : Nat :=
  largest (cells.map fun c => c.row.toNat) * largest (cells.map fun c => c.col.toNat)

/-- What there is against the page of the sheet with a given name. Each check presupposes that there
was nothing to say at those before it. -/
inductive Obstacle (r : Report) (name : String) : ReportError → Prop where
  | unknownSheet (hs : r.workbook.sheet? name = none) : Obstacle r name (.unknownSheet name)
  | reference {s : Sheet} {key : String} {cause : RefError}
      (hs : r.workbook.sheet? name = some s) (hkey : key ∈ s.values.keys)
      (hcause : CellRef.parse key = .error cause) : Obstacle r name (.reference name cause)
  | gridTooLarge {s : Sheet} {cells : List CellRef} {count : UInt64}
      (hs : r.workbook.sheet? name = some s)
      (hcells : s.values.keys.mapM CellRef.parse = .ok cells)
      (hcount : count.toNat = extentOf cells) (hsize : maxCells.toNat < extentOf cells) :
      Obstacle r name (.gridTooLarge name count)
  | format {s : Sheet} {cells : List CellRef} (hs : r.workbook.sheet? name = some s)
      (hcells : s.values.keys.mapM CellRef.parse = .ok cells)
      (hsize : extentOf cells ≤ maxCells.toNat)
      (hstamp : TimeFormat.write? r.settings.timestampFormat r.moment = none) :
      Obstacle r name (.format ⟨r.settings.timestampFormat⟩)

theorem toNat_cellCount_of_origin {a : Area} (h : a.start = Area.origin) :
    a.cellCount.toNat = a.finish.row.toNat * a.finish.col.toNat := by
  have hproper : a.start.IsProper := by
    rw [h]
    decide
  rw [Area.toNat_cellCount, Area.toNat_width hproper, Area.toNat_height hproper, h, Nat.mul_comm]
  rfl

theorem toNat_cellCount_areaOf {keys : List String} {cells : List CellRef}
    (h : keys.mapM CellRef.parse = .ok cells) :
    (areaOf cells).cellCount.toNat = extentOf cells := by
  obtain ⟨hstart, hrow, hcol⟩ := corners_areaOf h
  rw [toNat_cellCount_of_origin hstart, hrow, hcol]
  rfl

theorem maxCells_lt_iff {keys : List String} {cells : List CellRef}
    (h : keys.mapM CellRef.parse = .ok cells) :
    maxCells < (areaOf cells).cellCount ↔ maxCells.toNat < extentOf cells := by
  rw [UInt64.lt_iff_toNat_lt, toNat_cellCount_areaOf h]

theorem area_result_eq_error {r : Report} {s : Sheet} {e : ReportError}
    (h : (r.area s).result = .error e) :
    ∃ key ∈ s.values.keys, ∃ cause, CellRef.parse key = .error cause ∧
      e = .reference s.name cause := by
  unfold area Sheet.extent at h
  rw [boundingKeys_eq] at h
  cases hcells : s.values.keys.mapM CellRef.parse with
  | ok cells => simp [hcells, Except.map] at h
  | error cause =>
    simp only [hcells, Except.map, Except.error.injEq] at h
    obtain ⟨key, hkey, hcause⟩ := exists_of_mapM_eq_error hcells
    exact ⟨key, hkey, cause, hcause, h.symm⟩

theorem name_of_sheet? {w : Workbook} {name : String} {s : Sheet} (h : w.sheet? name = some s) :
    s.name = name := by
  have hname := List.find?_some h
  exact of_decide_eq_true hname

theorem stamp_eq_error_iff {r : Report} {e : ReportError} :
    r.stamp = .error e ↔
      TimeFormat.write? r.settings.timestampFormat r.moment = none ∧
        e = .format ⟨r.settings.timestampFormat⟩ := by
  unfold stamp
  split
  · rename_i text h
    simp [h]
  · rename_i h
    simp [h, eq_comm]

-- What is found out first is what there is against the page.
theorem obstacle_of_checked {r : Report} {name : String} {e : ReportError}
    (h : (r.checked name).result = .error e) : r.Obstacle name e := by
  unfold checked at h
  split at h
  · rename_i hs
    rw [← Except.error.inj h]
    exact .unknownSheet hs
  · rename_i s hs
    simp only at h
    have hname := name_of_sheet? hs
    split at h
    · rename_i e' ha
      obtain ⟨key, hkey, cause, hcause, rfl⟩ := area_result_eq_error ha
      rw [← Except.error.inj h, hname]
      exact .reference hs hkey hcause
    · rename_i a ha
      obtain ⟨cells, hcells, rfl⟩ := area_result_eq_ok_iff.mp ha
      split at h
      · rename_i hsize
        rw [← Except.error.inj h, hname]
        exact .gridTooLarge hs hcells (toNat_cellCount_areaOf hcells)
          ((maxCells_lt_iff hcells).mp hsize)
      · rename_i hsize
        rw [maxCells_lt_iff hcells, Nat.not_lt] at hsize
        split at h
        · rename_i e' hstamp
          obtain ⟨hnone, rfl⟩ := stamp_eq_error_iff.mp hstamp
          rw [← Except.error.inj h]
          exact .format hs hcells hsize hnone
        · exact absurd h (by simp)

-- If only the time cannot be written, that is found out.
theorem checked_of_format {r : Report} {name : String} {s : Sheet} {cells : List CellRef}
    (hs : r.workbook.sheet? name = some s) (hcells : s.values.keys.mapM CellRef.parse = .ok cells)
    (hsize : extentOf cells ≤ maxCells.toNat)
    (hstamp : TimeFormat.write? r.settings.timestampFormat r.moment = none) :
    (r.checked name).result = .error (.format ⟨r.settings.timestampFormat⟩) := by
  have ha := (area_result_eq_ok_iff (r := r)).mpr ⟨cells, hcells, rfl⟩
  have hstamp' := stamp_eq_error_iff.mpr ⟨hstamp, rfl⟩
  rw [← Nat.not_lt, ← maxCells_lt_iff hcells] at hsize
  rw [checked, hs]
  simp only [ha, hsize, if_false, hstamp']

-- Whatever there is against a page is found out, or something of the same kind.
theorem exists_checked_of_obstacle {r : Report} {name : String} {e : ReportError}
    (h : r.Obstacle name e) :
    ∃ found, (r.checked name).result = .error found ∧ found.ctorIdx = e.ctorIdx := by
  cases h with
  | unknownSheet hs =>
    rw [checked, hs]
    exact ⟨_, rfl, rfl⟩
  | @reference s key cause hs hkey hcause =>
    rw [checked, hs]
    cases ha : (r.area s).result with
    | error e =>
      obtain ⟨_, _, cause', _, rfl⟩ := area_result_eq_error ha
      exact ⟨.reference s.name cause', by simp only [ha], rfl⟩
    | ok a =>
      obtain ⟨c, hc⟩ := area_result_isOk_iff.mp ⟨a, ha⟩ key hkey
      exact absurd (hcause.symm.trans hc) (by simp)
  | @gridTooLarge s cells count hs hcells hcount hsize =>
    have ha := (area_result_eq_ok_iff (r := r)).mpr ⟨cells, hcells, rfl⟩
    rw [← maxCells_lt_iff hcells] at hsize
    rw [checked, hs]
    exact ⟨.gridTooLarge s.name (areaOf cells).cellCount, by simp only [ha, hsize, if_true], rfl⟩
  | @format s cells hs hcells hsize hstamp =>
    exact ⟨_, checked_of_format hs hcells hsize hstamp, rfl⟩

/-- A text that is one document: it begins with an opening tag and ends with a closing tag, and
neither is anywhere else in it. -/
def IsDocument (t : String) : Prop :=
  ∃ body, t = "<html>\n" ++ body ++ "</html>\n" ∧ ¬ "<html>".toList <:+: body.toList ∧
    ¬ "</html>".toList <:+: body.toList

/-- The lines of a page between its first and its last one. -/
def innerLines (r : Report) (s : Sheet) (a : Area) (stamp : String) : List String :=
  (headingLines r s.name).tail ++ tableLines s a.grid ++ footerLines r stamp ++
    navigationLines r s.name ++ ["</body>"]

def innerFragments (shape : PageShape) : List (List String) :=
  (headingFragments shape.stylesheet shape.scripts).tail ++ tableFragments shape.area.grid ++
    footerFragments shape.attributionUrl ++ navigationFragments shape.entries ++ [["</body>"]]

theorem pageLines_eq (r : Report) (s : Sheet) (a : Area) (stamp : String) :
    r.pageLines s a stamp = "<html>" :: (r.innerLines s a stamp ++ ["</html>"]) := by
  have hheading : headingLines r s.name = "<html>" :: (headingLines r s.name).tail := rfl
  rw [pageLines, hheading, innerLines]
  simp only [List.cons_append, List.append_assoc, List.nil_append]

theorem composed_innerLines (r : Report) (s : Sheet) (a : Area) (stamp : String) :
    List.Forall₂ Composed (innerFragments (r.shapeOver s.name a)) (r.innerLines s a stamp) := by
  have hheading := (List.forall₂_cons.mp (composed_headingLines r s.name)).2
  apply List.rel_append
  · apply List.rel_append
    · apply List.rel_append
      · exact List.rel_append hheading (composed_tableLines s a)
      · exact composed_footerLines r stamp
    · exact composed_navigationLines r s.name
  · exact .cons (.own _) .nil

theorem tail_headingFragments (stylesheet : Bool) (scripts : Nat) :
    (headingFragments stylesheet scripts).tail =
      [["<head>"], ["<meta charset='utf-8' />"], ["<title>", " - ", "</title>"]] ++
      (stylesheetFragments stylesheet ++ (List.replicate scripts scriptFragments ++
        (headingFragments false 0).drop 4)) := by
  simp only [headingFragments, List.append_assoc]
  rfl

theorem allFragments_tail_headingFragments {p : String → Bool}
    (h : allFragments p (headingFragments true 1).tail = true) (stylesheet : Bool)
    (scripts : Nat) : allFragments p (headingFragments stylesheet scripts).tail = true := by
  rw [tail_headingFragments] at h ⊢
  simp only [allFragments_append, Bool.and_eq_true] at h ⊢
  obtain ⟨hbegin, hstylesheet, hscript, hend⟩ := h
  refine ⟨hbegin, ?_, ?_, hend⟩
  · cases stylesheet with
    | true => exact hstylesheet
    | false => rfl
  · exact allFragments_replicate hscript scripts

theorem allFragments_innerFragments {p : String → Bool}
    (heading : allFragments p (headingFragments true 1).tail = true)
    (table : allFragments p (tableFragments ⟨[""], [⟨1, [⟨1, 1⟩]⟩]⟩) = true)
    (footer : ∀ link, allFragments p (footerFragments link) = true)
    (navigation : allFragments p (navigationFragments [true, false]) = true)
    (last : allFragments p [["</body>"]] = true) (shape : PageShape) :
    allFragments p (innerFragments shape) = true := by
  simp only [innerFragments, allFragments_append, Bool.and_eq_true]
  exact ⟨⟨⟨⟨allFragments_tail_headingFragments heading _ _, allFragments_tableFragments table _⟩,
    footer _⟩, allFragments_navigationFragments navigation _⟩, last⟩

theorem isDocument_page (r : Report) (s : Sheet) (a : Area) (stamp : String) :
    IsDocument (r.page s a stamp) := by
  have hlines := composed_innerLines r s a stamp
  refine ⟨unlines (r.innerLines s a stamp), ?_, ?_, ?_⟩
  · rw [page, pageLines_eq, unlines_cons, unlines_append]
    rfl
  · exact not_isInfix_of_isFreeOf (isFreeOf_unlines hlines rfl rfl
      (allFragments_innerFragments rfl rfl (by decide) rfl rfl _))
  · exact not_isInfix_of_isFreeOf (isFreeOf_unlines hlines rfl rfl
      (allFragments_innerFragments rfl rfl (by decide) rfl rfl _))

/-- A sink that refuses nothing gets the whole page of a sheet or nothing at all, and nothing only
if there is something against the page. The error says of what kind that is. -/
theorem writePage_all_or_nothing {σ ε : Type} {k : Sink σ ε} (h : k.AcceptsAll) (r : Report)
    (name : String) (p : Progress σ) :
    (∃ pieces done, r.writePage k name p = .ok () done ∧ done.out = k.putAll p.out pieces ∧
        (r.compile name).result = .ok (String.join pieces) ∧ IsDocument (String.join pieces) ∧
        ∀ e, ¬ r.Obstacle name e) ∨
      ∃ e done, r.writePage k name p = .error (.report e) done ∧ done.out = p.out ∧
        r.Obstacle name e ∧ ∀ other, r.Obstacle name other → other.ctorIdx = e.ctorIdx := by
  rw [writePage_of_acceptsAll h]
  cases hc : (r.checked name).result with
  | ok lines =>
    left
    obtain ⟨s, a, stamp, -, -, -, -, rfl⟩ := checked_result_eq_ok_iff.mp hc
    refine ⟨piecesOf (r.pageLines s a stamp), _, rfl, rfl, ?_, ?_, ?_⟩
    · rw [compile_eq, hc, join_piecesOf]
      rfl
    · rw [join_piecesOf]
      exact isDocument_page r s a stamp
    · intro e he
      obtain ⟨found, hfound, -⟩ := exists_checked_of_obstacle he
      exact absurd (hc.symm.trans hfound) (by simp)
  | error e =>
    right
    refine ⟨e, _, rfl, rfl, obstacle_of_checked hc, fun other hother => ?_⟩
    obtain ⟨found, hfound, hkind⟩ := exists_checked_of_obstacle hother
    rw [hc, Except.error.injEq] at hfound
    rw [← hkind, hfound]

-- There is nothing against the page of a sheet with a stray key but that key.
theorem eq_reference_of_obstacle {r : Report} {name : String} {e : ReportError}
    (hsheet : r.workbook.sheet? name = some (straySheet name)) (h : r.Obstacle name e) :
    e = .reference name (.invalid "TOTAL") := by
  have hkeys : (straySheet name).values.keys = ["A1", "TOTAL"] := rfl
  have hparse : ["A1", "TOTAL"].mapM CellRef.parse = .error (.invalid "TOTAL") := rfl
  have hA1 : CellRef.parse "A1" = .ok ⟨1, 1⟩ := rfl
  have hTOTAL : CellRef.parse "TOTAL" = .error (.invalid "TOTAL") := rfl
  cases h with
  | unknownSheet hs =>
    rw [hsheet] at hs
    cases hs
  | reference hs hkey hcause =>
    rw [hsheet] at hs
    cases hs
    rw [hkeys, List.mem_pair] at hkey
    rcases hkey with rfl | rfl
    · rw [hA1] at hcause
      cases hcause
    · rw [hTOTAL] at hcause
      cases hcause
      rfl
  | gridTooLarge hs hcells =>
    rw [hsheet] at hs
    cases hs
    rw [hkeys, hparse] at hcells
    cases hcells
  | format hs hcells =>
    rw [hsheet] at hs
    cases hs
    rw [hkeys, hparse] at hcells
    cases hcells

/-- After an earlier text, the page of a sheet is written whole, and nothing is written of a sheet
with a stray key. -/
theorem writePage_halting :
    (∃ page done, (halting "1 < 2").writePage .text "S" ⟨"earlier\n", []⟩ = .ok () done ∧
        done.out = "earlier\n" ++ page ∧ IsDocument page) ∧
      ∃ done, (halting "1 < 2").writePage .text "T" ⟨"earlier\n", []⟩ =
          .error (.report (.reference "T" (.invalid "TOTAL"))) done ∧ done.out = "earlier\n" := by
  constructor
  · obtain ⟨pieces, done, hdone, hout, -, hdocument, -⟩ | ⟨e, done, -, -, hobstacle, -⟩ :=
      writePage_all_or_nothing Sink.acceptsAll_text (halting "1 < 2") "S" ⟨"earlier\n", []⟩
    · rw [Sink.putAll_text] at hout
      exact ⟨String.join pieces, done, hdone, hout, hdocument⟩
    · obtain ⟨found, hfound, -⟩ := exists_checked_of_obstacle hobstacle
      obtain ⟨page, hpage⟩ := exists_compile_cornersSheet (sheet?_halting "1 < 2") rfl
      rw [compile_eq, hfound] at hpage
      exact absurd hpage (by simp [Except.map])
  · obtain ⟨pieces, done, -, -, hpage, -⟩ | ⟨e, done, hdone, hout, hobstacle, -⟩ :=
      writePage_all_or_nothing Sink.acceptsAll_text (halting "1 < 2") "T" ⟨"earlier\n", []⟩
    · rw [compile_straySheet rfl] at hpage
      cases hpage
    · rw [eq_reference_of_obstacle rfl hobstacle] at hdone
      exact ⟨done, hdone, hout⟩

end LinkedSheets.Report
