import LinkedSheets.Proofs.Markup.CellElement
import LinkedSheets.Proofs.Report.Composition

/-!
# Reading a page back

The cell elements of a page are those of its table, in the order of the grid, and each of them tells
what its cell shows. So a page determines its area and what is shown in it.
-/

namespace LinkedSheets.Report

open Text Markup

/-- The element that is written for a cell. -/
@[simps]
def cellElement (s : Sheet) (cell : CellRef) : CellElement where
  id := cell.text.toList
  className := cell.text.toList
  formula := (formulaText s cell).toList
  body := (escape ((valueText? s cell).getD "")).toList

/-- An element tells where a cell is, what is shown there, and whether and how it was computed. -/
structure Shows (s : Sheet) (cell : CellRef) (e : CellElement) : Prop where
  id : e.id = cell.text.toList
  className : e.className = cell.text.toList
  value : unescape e.body = (valueText? s cell).getD ""
  noFormula_iff : e.formula = noFormula.toList ↔ s.formula? cell = none
  formula : ∀ n, s.formula? cell = some n → unescape e.formula = n.render

-- No text is escaped to what stands for a missing formula.
theorem escape_ne_noFormula (s : String) : (escape s).toList ≠ noFormula.toList := by
  intro h
  have hbegin := ampersandsBegin_escape s
  rw [h] at hbegin
  obtain ⟨e, he, hprefix⟩ := hbegin "nbsp;".toList List.suffix_rfl
  revert e
  decide

theorem formulaText_of_none {s : Sheet} {cell : CellRef} (h : s.formula? cell = none) :
    formulaText s cell = noFormula := by
  rw [formulaText, h]

theorem formulaText_of_some {s : Sheet} {cell : CellRef} {n : Node}
    (h : s.formula? cell = some n) : formulaText s cell = escape n.render := by
  rw [formulaText, h]

theorem shows_cellElement (s : Sheet) (cell : CellRef) : Shows s cell (cellElement s cell) where
  id := rfl
  className := rfl
  value := by rw [cellElement_body, unescape_escape]
  noFormula_iff := by
    rw [cellElement_formula]
    cases h : s.formula? cell with
    | none => rw [formulaText_of_none h, eq_self, eq_self]
    | some n =>
      rw [formulaText_of_some h]
      exact iff_of_false (escape_ne_noFormula n.render) (Option.some_ne_none n)
  formula := by
    intro n h
    rw [cellElement_formula, formulaText_of_some h, unescape_escape]

theorem isPlain_cellElement (s : Sheet) (cell : CellRef) : (cellElement s cell).IsPlain where
  id := (inert_text cell).not_mem rfl
  className := (inert_text cell).not_mem rfl
  formula := by
    rw [cellElement_formula]
    exact (inert_formulaText s cell).not_mem rfl
  body := by
    rw [cellElement_body]
    exact (inert_escape _).not_mem rfl

theorem toList_cellLine (s : Sheet) (cell : CellRef) :
    (cellLine s cell).toList = (cellElement s cell).text := by
  have hshape (id formula body : List Char) :
      "<td id='c".toList ++ id ++ "' class='c".toList ++ id ++ "' data-formula='".toList ++
        formula ++ "'>".toList ++ body ++ "</td>".toList =
      CellElement.text ⟨id, id, formula, body⟩ := by
    simp only [CellElement.text, List.append_assoc]
    rfl
  unfold cellLine
  simp only [String.toList_append]
  exact hshape _ _ _

-- Lines of fragments in which no cell element begins are skipped.
theorem cellElements_lines {fss : List (List String)} {ls : List String}
    (h : List.Forall₂ Composed fss ls)
    (hfss : allFragments (fun f => isFreeOf CellElement.opening f.toList) fss = true)
    (rest : List Char) :
    cellElements ((unlines ls).toList ++ rest) = cellElements rest := by
  apply cellElements_append
  rw [opening_eq_cons] at hfss ⊢
  exact isFreeOf_unlines h rfl rfl hfss

theorem cellElements_cellLines (s : Sheet) (cells : List CellRef) (rest : List Char) :
    cellElements ((unlines (cells.map (cellLine s))).toList ++ rest) =
      cells.map (cellElement s) ++ cellElements rest := by
  induction cells with
  | nil => rfl
  | cons cell more ih =>
    -- After its element a line only has its end, which belongs to none.
    have hend (cs : List Char) : cellElements ("\n".toList ++ cs) = cellElements cs :=
      @cellElements_append "\n".toList rfl cs
    rw [List.map_cons, unlines_cons, String.toList_append, String.toList_append, toList_cellLine,
      List.append_assoc, List.append_assoc, cellElements_text_append (isPlain_cellElement s cell),
      hend, ih, List.map_cons, List.cons_append]

theorem cellElements_rowLines (s : Sheet) (row : GridRow) (rest : List Char) :
    cellElements ((unlines (rowLines s row)).toList ++ rest) =
      row.cells.map (cellElement s) ++ cellElements rest := by
  have hbegin : List.Forall₂ Composed [["<tr>"], ["<th>", "</th>"]]
      ["<tr>", "<th>" ++ natText row.row.toNat ++ "</th>"] :=
    .cons (.own _) (.cons (composed_header (inert_natText _)) .nil)
  have hend : List.Forall₂ Composed [["</tr>"]] ["</tr>"] := .cons (.own _) .nil
  unfold rowLines
  rw [unlines_append, unlines_append, String.toList_append, String.toList_append,
    List.append_assoc, List.append_assoc, cellElements_lines hbegin rfl, cellElements_cellLines,
    cellElements_lines hend rfl]

theorem cellElements_rows (s : Sheet) (rows : List GridRow) (rest : List Char) :
    cellElements ((unlines (rows.flatMap (rowLines s))).toList ++ rest) =
      (rows.flatMap GridRow.cells).map (cellElement s) ++ cellElements rest := by
  induction rows with
  | nil => rfl
  | cons row more ih =>
    rw [List.flatMap_cons, unlines_append, String.toList_append, List.append_assoc,
      cellElements_rowLines, ih, List.flatMap_cons, List.map_append, List.append_assoc]

theorem cellElements_tableLines (s : Sheet) (a : Area) (rest : List Char) :
    cellElements ((unlines (tableLines s a.grid)).toList ++ rest) =
      (a.grid.rows.flatMap GridRow.cells).map (cellElement s) ++ cellElements rest := by
  have hbegin := cellElements_lines (composed_tableHeadLines a)
    (allFragments_tableHeadFragments rfl a.grid)
  have hend : List.Forall₂ Composed [["</table>"]] ["</table>"] := .cons (.own _) .nil
  unfold tableLines
  rw [unlines_append, unlines_append, String.toList_append, String.toList_append,
    List.append_assoc, List.append_assoc, hbegin, cellElements_rows, cellElements_lines hend rfl]

-- The elements of a page are those of the cells of its grid.
theorem cellElements_page (r : Report) (s : Sheet) (a : Area) (stamp : String) :
    cellElements (r.page s a stamp).toList =
      (a.grid.rows.flatMap GridRow.cells).map (cellElement s) := by
  have hheading := cellElements_lines (composed_headingLines r s.name)
    (allFragments_headingFragments rfl _ _)
  have hfooter := cellElements_lines (composed_footerLines r stamp)
    (allFragments_footerFragments rfl rfl _)
  have hnavigation := cellElements_lines (composed_navigationLines r s.name)
    (allFragments_navigationFragments rfl _)
  have hend : List.Forall₂ Composed [["</body>"], ["</html>"]] ["</body>", "</html>"] :=
    .cons (.own _) (.cons (.own _) .nil)
  rw [page, ← List.append_nil (unlines _).toList]
  simp only [pageLines, unlines_append, String.toList_append, List.append_assoc]
  rw [hheading, cellElements_tableLines, hfooter, hnavigation, cellElements_lines hend rfl,
    cellElements_nil, List.append_nil]

theorem forall₂_shows_page (r : Report) (s : Sheet) {a : Area} (stamp : String)
    (h : a.start = Area.origin) :
    List.Forall₂ (Shows s) (rectangle a.finish.row.toNat a.finish.col.toNat)
      (cellElements (r.page s a stamp).toList) := by
  rw [cellElements_page, Area.flatMap_cells_grid h, List.forall₂_map_right_iff, List.forall₂_same]
  exact fun cell _ => shows_cellElement s cell

-- What an element shows of a cell is all that two sheets can show of it there.
theorem Shows.alike {s t : Sheet} {cell : CellRef} {e : CellElement} (hs : Shows s cell e)
    (ht : Shows t cell e) :
    (valueText? s cell).getD "" = (valueText? t cell).getD "" ∧
      (s.formula? cell).map Node.render = (t.formula? cell).map Node.render := by
  refine ⟨hs.value.symm.trans ht.value, ?_⟩
  cases hn : s.formula? cell with
  | none => rw [ht.noFormula_iff.mp (hs.noFormula_iff.mpr hn)]
  | some n =>
    cases hm : t.formula? cell with
    | none =>
      have hnone : s.formula? cell = none := hs.noFormula_iff.mp (ht.noFormula_iff.mpr hm)
      rw [hn] at hnone
      exact absurd hnone (Option.some_ne_none n)
    | some m => rw [Option.map_some, Option.map_some, ← hs.formula n hn, ← ht.formula m hm]

theorem exists_shows_both {s t : Sheet} {cells others : List CellRef} {es : List CellElement}
    (hs : List.Forall₂ (Shows s) cells es) (ht : List.Forall₂ (Shows t) others es)
    (hcells : ∀ c ∈ cells, c.IsProper) (hothers : ∀ c ∈ others, c.IsProper) {c : CellRef}
    (hc : c ∈ cells) : c ∈ others ∧ ∃ e, Shows s c e ∧ Shows t c e := by
  obtain ⟨e, he, hse⟩ := exists_of_mem_left hs hc
  obtain ⟨d, hd, hte⟩ := exists_of_mem_right ht he
  -- The element tells which cell it belongs to.
  have htext : c.text = d.text := String.toList_inj.mp (hse.id.symm.trans hte.id)
  have hcd : c = d := CellRef.text_injective (hcells c hc) (hothers d hd) htext
  rw [← hcd] at hd hte
  exact ⟨hd, e, hse, hte⟩

/-- What two sheets show over an area is the same. -/
def ShownAlike (s t : Sheet) (a : Area) : Prop :=
  ∀ c, a.Contains c →
    (valueText? s c).getD "" = (valueText? t c).getD "" ∧
      (s.formula? c).map Node.render = (t.formula? c).map Node.render

theorem isProper_of_mem_rectangle {a : Area} {c : CellRef}
    (h : c ∈ rectangle a.finish.row.toNat a.finish.col.toNat) : c.IsProper :=
  ((mem_rectangle a.finish.row.toNat_lt a.finish.col.toNat_lt).mp h).1

theorem eq_and_shownAlike {s t : Sheet} {a b : Area} {es : List CellElement}
    (ha : a.start = Area.origin) (hb : b.start = Area.origin)
    (hs : List.Forall₂ (Shows s) (rectangle a.finish.row.toNat a.finish.col.toNat) es)
    (ht : List.Forall₂ (Shows t) (rectangle b.finish.row.toNat b.finish.col.toNat) es) :
    a = b ∧ ShownAlike s t a := by
  have hsa (c : CellRef) (hc : c ∈ rectangle a.finish.row.toNat a.finish.col.toNat) :=
    exists_shows_both hs ht (fun _ => isProper_of_mem_rectangle)
      (fun _ => isProper_of_mem_rectangle) hc
  have htb (c : CellRef) (hc : c ∈ rectangle b.finish.row.toNat b.finish.col.toNat) :=
    exists_shows_both ht hs (fun _ => isProper_of_mem_rectangle)
      (fun _ => isProper_of_mem_rectangle) hc
  constructor
  · apply Area.eq_of_contains_iff
    intro c
    rw [Area.contains_iff_mem_rectangle ha, Area.contains_iff_mem_rectangle hb]
    exact ⟨fun hc => (hsa c hc).1, fun hc => (htb c hc).1⟩
  · intro c hc
    obtain ⟨-, e, hse, hte⟩ := hsa c ((Area.contains_iff_mem_rectangle ha).mp hc)
    exact hse.alike hte

theorem exists_shows_of_compile {r : Report} {name page : String}
    (h : (r.compile name).result = .ok page) :
    ∃ s a, r.workbook.sheet? name = some s ∧ (r.area s).result = .ok a ∧
      a.start = Area.origin ∧
      List.Forall₂ (Shows s) (rectangle a.finish.row.toNat a.finish.col.toNat)
        (cellElements page.toList) := by
  obtain ⟨s, a, stamp, hs, ha, -, -, rfl⟩ := compile_result_eq_ok_iff.mp h
  obtain ⟨cells, hcells, rfl⟩ := area_result_eq_ok_iff.mp ha
  have horigin := (corners_areaOf hcells).1
  exact ⟨s, _, hs, ha, horigin, forall₂_shows_page r s stamp horigin⟩

/-- A page is read back: its elements show, row by row, the cells from `A1` to the largest row and
the largest column of the keys of values. So the pages of two sheets are only the same if their
areas are, and what is shown in them. -/
theorem compile_readBack {r : Report} {name page : String}
    (h : (r.compile name).result = .ok page) :
    ∃ s cells a, r.workbook.sheet? name = some s ∧
      s.values.keys.mapM CellRef.parse = .ok cells ∧ (r.area s).result = .ok a ∧
      List.Forall₂ (Shows s)
        (rectangle (largest (cells.map fun c => c.row.toNat))
          (largest (cells.map fun c => c.col.toNat)))
        (cellElements page.toList) ∧
      ∀ (other : Report) (name' : String), (other.compile name').result = .ok page →
        ∃ t, other.workbook.sheet? name' = some t ∧ (other.area t).result = .ok a ∧
          ShownAlike s t a := by
  obtain ⟨s, a, hs, ha, horigin, hshows⟩ := exists_shows_of_compile h
  obtain ⟨cells, hcells, hareaOf⟩ := area_result_eq_ok_iff.mp ha
  obtain ⟨-, hrow, hcol⟩ := corners_areaOf hcells
  rw [← hareaOf] at hrow hcol
  refine ⟨s, cells, a, hs, hcells, ha, ?_, ?_⟩
  · rw [← hrow, ← hcol]
    exact hshows
  · intro other name' hother
    obtain ⟨t, b, ht, hb, horigin', hshows'⟩ := exists_shows_of_compile hother
    obtain ⟨hab, halike⟩ := eq_and_shownAlike horigin horigin' hshows hshows'
    rw [← hab] at hb
    exact ⟨t, ht, hb, halike⟩

/-- A page of two rows and two columns has four elements. -/
theorem compile_readBack_corners :
    ∃ page a1 b1 a2 b2, ((halting "1 < 2").compile "S").result = .ok page ∧
      cellElements page.toList = [a1, b1, a2, b2] ∧
      [a1, b1, a2, b2].map (fun e => (String.ofList e.id, unescape e.body)) =
        [("A1", "1 < 2"), ("B1", ""), ("A2", ""), ("B2", "1 < 2")] ∧
      a1.formula = noFormula.toList ∧ unescape b1.formula = "1 < 2" ∧
      a2.formula = noFormula.toList ∧ b2.formula = noFormula.toList := by
  obtain ⟨page, hpage⟩ := exists_compile_cornersSheet (sheet?_halting "1 < 2") rfl
  obtain ⟨s, cells, a, hs, hcells, -, hshows, -⟩ := compile_readBack hpage
  rw [sheet?_halting, Option.some.injEq] at hs
  subst hs
  rw [parse_keys_cornersSheet, Except.ok.injEq] at hcells
  subst hcells
  have hfour : rectangle 2 2 = [⟨1, 1⟩, ⟨1, 2⟩, ⟨2, 1⟩, ⟨2, 2⟩] := rfl
  have hlist : List.Forall₂ (Shows (cornersSheet "S" "1 < 2")) (rectangle 2 2) _ := hshows
  simp only [hfour, List.forall₂_cons_left_iff, List.forall₂_nil_left_iff] at hlist
  obtain ⟨a1, -, ha1, ⟨b1, -, hb1, ⟨a2, -, ha2, ⟨b2, -, hb2, rfl, rfl⟩, rfl⟩, rfl⟩, helements⟩ :=
    hlist
  have hA1 : CellRef.text ⟨1, 1⟩ = "A1" := by cbv
  have hB1 : CellRef.text ⟨1, 2⟩ = "B1" := by cbv
  have hA2 : CellRef.text ⟨2, 1⟩ = "A2" := by cbv
  have hB2 : CellRef.text ⟨2, 2⟩ = "B2" := by cbv
  refine ⟨page, a1, b1, a2, b2, hpage, helements, ?_, ha1.noFormula_iff.mpr ?_,
    hb1.formula (.leaf "1 < 2") ?_, ha2.noFormula_iff.mpr ?_, hb2.noFormula_iff.mpr ?_⟩
  · simp only [List.map_cons, List.map_nil, ha1.id, hb1.id, ha2.id, hb2.id, ha1.value, hb1.value,
      ha2.value, hb2.value, valueText?, Sheet.value?, hA1, hB1, hA2, hB2, String.ofList_toList]
    rfl
  all_goals
    simp only [Sheet.formula?, hA1, hB1, hA2, hB2]
    rfl

end LinkedSheets.Report
