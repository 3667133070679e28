import LinkedSheets.Proofs.Markup.Anchor
import LinkedSheets.Proofs.Report.Composition

/-!
# The navigation of a page

A page has its navigation in a division of its own, which a reader that knows nothing of the page
finds again. What stands before and after it does not depend on the navigation, and what is in it is
an anchor for each name, in order.
-/

namespace LinkedSheets.Report

open Text Markup

/-- A page cut where its navigation is. -/
structure Cut where
  before : List Char
  navigation : List Char
  after : List Char

def divisionOpening : List Char := "<div id='jumpbar'>".toList
def divisionClosing : List Char := "</div>".toList

/-- The text that was cut. -/
def Cut.text (c : Cut) : List Char :=
  c.before ++ (divisionOpening ++ (c.navigation ++ (divisionClosing ++ c.after)))

/-- Cuts a page at the beginning of its first navigation and at the next end of a division. -/
def cutNavigation? (page : String) : Option Cut := do
  let (before, rest) ← cut? divisionOpening page.toList
  let (navigation, after) ← cut? divisionClosing rest
  return ⟨before, navigation, after⟩

/-- The anchors in the navigation of a page. -/
def navigationAnchors (page : String) : List Anchor :=
  match cutNavigation? page with
  | some c => anchors '\'' c.navigation
  | none => []

-- What is cut is the whole page.
theorem text_of_cutNavigation? {page : String} {c : Cut} (h : cutNavigation? page = some c) :
    c.text = page.toList := by
  simp only [cutNavigation?, bind, Option.bind_eq_some_iff, pure, Option.some.injEq,
    Prod.exists] at h
  obtain ⟨before, rest, hbefore, navigation, after, hnavigation, rfl⟩ := h
  rw [cut?_eq_some hbefore, cut?_eq_some hnavigation]
  simp only [Cut.text, List.append_assoc]

theorem cutNavigation?_eq_some {page : String} {c : Cut}
    (hbefore : isFreeOf divisionOpening c.before = true)
    (hnavigation : isFreeOf divisionClosing c.navigation = true) (h : page.toList = c.text) :
    cutNavigation? page = some c := by
  have hopening : divisionOpening ≠ [] := by decide
  have hclosing : divisionClosing ≠ [] := by decide
  simp only [cutNavigation?, h, Cut.text, cut?_append hopening hbefore,
    cut?_append hclosing hnavigation, bind, Option.bind_some, pure]

/-- The lines of a page before its navigation. -/
def linesBefore (r : Report) (s : Sheet) (a : Area) (stamp : String) : List String :=
  headingLines r s.name ++ tableLines s a.grid ++ footerLines r stamp

/-- The lines of the entries of the navigation. -/
def entryLines (r : Report) (current : String) : List String :=
  r.navigation.map (navigationLine current)

/-- Where a page is cut. -/
def pageCut (r : Report) (s : Sheet) (a : Area) (stamp : String) : Cut where
  before := (unlines (linesBefore r s a stamp)).toList
  navigation :=
    "<table><tr>\n".toList ++ (unlines (entryLines r s.name)).toList ++ "</tr></table>".toList
  after := "\n</body>\n</html>\n".toList

theorem toList_page (r : Report) (s : Sheet) (a : Area) (stamp : String) :
    (r.page s a stamp).toList = (r.pageCut s a stamp).text := by
  have hlines : r.pageLines s a stamp =
      linesBefore r s a stamp ++ "<div id='jumpbar'><table><tr>" :: (entryLines r s.name ++
        ["</tr></table></div>", "</body>", "</html>"]) := by
    simp only [pageLines, navigationLines, linesBefore, entryLines, List.append_assoc]
    rfl
  have hend : (unlines ["</tr></table></div>", "</body>", "</html>"]).toList =
      "</tr></table>".toList ++ (divisionClosing ++ "\n</body>\n</html>\n".toList) := by decide
  have hbegin : "<div id='jumpbar'><table><tr>".toList ++ "\n".toList =
      divisionOpening ++ "<table><tr>\n".toList := by decide
  rw [page, hlines, unlines_append, unlines_cons, unlines_append]
  simp only [String.toList_append, hbegin, hend, pageCut, Cut.text, List.append_assoc]

theorem composed_linesBefore (r : Report) (s : Sheet) (a : Area) (stamp : String) :
    List.Forall₂ Composed
      (headingFragments r.settings.stylesheet.isSome r.settings.scripts.length ++
        tableFragments a.grid ++ footerFragments r.settings.attributionUrl.isSome)
      (linesBefore r s a stamp) := by
  apply List.rel_append
  · apply List.rel_append
    · exact composed_headingLines r s.name
    · exact composed_tableLines s a
  · exact composed_footerLines r stamp

theorem isFreeOf_linesBefore (r : Report) (s : Sheet) (a : Area) (stamp : String) :
    isFreeOf divisionOpening (r.pageCut s a stamp).before = true := by
  have hopening : divisionOpening = '<' :: "div id='jumpbar'>".toList := rfl
  rw [hopening]
  apply isFreeOf_unlines (composed_linesBefore r s a stamp) rfl rfl
  simp only [allFragments_append, Bool.and_eq_true]
  refine ⟨⟨?_, ?_⟩, ?_⟩
  · exact allFragments_headingFragments rfl _ _
  · exact allFragments_tableFragments rfl _
  · exact allFragments_footerFragments rfl rfl _

theorem composed_entryLines (r : Report) (current : String) :
    List.Forall₂ Composed
      ((r.navigation.map fun name => decide (name = current)).map entryFragments)
      (entryLines r current) := by
  rw [List.map_map]
  exact Composed.map fun name _ => composed_navigationLine current name

theorem isFreeOf_entryLines (r : Report) (current : String) :
    isFreeOf divisionClosing (unlines (entryLines r current)).toList = true := by
  have hclosing : divisionClosing = '<' :: "/div>".toList := rfl
  rw [hclosing]
  apply isFreeOf_unlines (composed_entryLines r current) rfl rfl
  apply allFragments_map
  intro current
  cases current with
  | true => rfl
  | false => rfl

theorem isFreeOf_navigation (r : Report) (s : Sheet) (a : Area) (stamp : String) :
    isFreeOf divisionClosing (r.pageCut s a stamp).navigation = true := by
  exact isFreeOf_append (isFreeOf_append rfl (isFreeOf_entryLines r s.name)) rfl

theorem cutNavigation?_page (r : Report) (s : Sheet) (a : Area) (stamp : String) :
    cutNavigation? (r.page s a stamp) = some (r.pageCut s a stamp) :=
  cutNavigation?_eq_some (isFreeOf_linesBefore r s a stamp) (isFreeOf_navigation r s a stamp)
    (toList_page r s a stamp)

/-- The anchor that is written for a name in the navigation. -/
@[simps]
def entryAnchor (name : String) : Anchor where
  href := (escape (pageHref name)).toList
  shown := (escape name).toList

theorem isPlain_entryAnchor (name : String) : (entryAnchor name).IsPlain '\'' where
  href := by
    rw [entryAnchor_href]
    exact (inert_escape _).not_mem rfl
  shown := by
    rw [entryAnchor_shown]
    exact (inert_escape _).not_mem rfl

theorem unescape_href_entryAnchor (name : String) :
    unescape (entryAnchor name).href = pageHref name := by
  rw [entryAnchor_href, unescape_escape]

theorem unescape_shown_entryAnchor (name : String) : unescape (entryAnchor name).shown = name := by
  rw [entryAnchor_shown, unescape_escape]

theorem toList_navigationLine (current name : String) :
    (navigationLine current name).toList =
      (if name = current then "<td class='current'>" else "<td>").toList ++
        ((entryAnchor name).text '\'' ++ "</td>".toList) := by
  have hshape (begin href shown : List Char) :
      begin ++ ("<a href='".toList ++ href ++ "'>".toList ++ shown ++ "</a></td>".toList) =
        begin ++ (Anchor.text '\'' ⟨href, shown⟩ ++ "</td>".toList) := by
    simp only [Anchor.text, List.append_assoc, List.cons_append, List.nil_append]
    rfl
  unfold navigationLine
  simp only [String.toList_append, List.append_assoc] at hshape ⊢
  exact hshape _ _ _

theorem anchors_entryLines (current : String) (names : List String) (rest : List Char) :
    anchors '\'' ((unlines (names.map (navigationLine current))).toList ++ rest) =
      names.map entryAnchor ++ anchors '\'' rest := by
  induction names with
  | nil => rfl
  | cons name more ih =>
    have hbegin (cs : List Char) : anchors '\''
        ((if name = current then "<td class='current'>" else "<td>").toList ++ cs) =
          anchors '\'' cs := by
      apply anchors_append
      split
      · rfl
      · rfl
    have hend (cs : List Char) :
        anchors '\'' ("</td>".toList ++ ("\n".toList ++ cs)) = anchors '\'' cs := by
      rw [anchors_append rfl, anchors_append rfl]
    rw [List.map_cons, unlines_cons, String.toList_append, String.toList_append,
      toList_navigationLine]
    simp only [List.append_assoc]
    rw [hbegin, anchors_text_append (isPlain_entryAnchor name), hend, ih, List.map_cons,
      List.cons_append]

theorem navigationAnchors_page (r : Report) (s : Sheet) (a : Area) (stamp : String) :
    navigationAnchors (r.page s a stamp) = r.navigation.map entryAnchor := by
  have hend : anchors '\'' "</tr></table>".toList = [] := anchors_eq_nil rfl
  rw [navigationAnchors, cutNavigation?_page]
  simp only [pageCut, List.append_assoc]
  rw [anchors_append rfl, entryLines, anchors_entryLines, hend, List.append_nil]

/-- The navigation of a page is read back: an anchor for each name. -/
theorem navigationAnchors_of_compile {r : Report} {name page : String}
    (h : (r.compile name).result = .ok page) :
    navigationAnchors page = r.navigation.map entryAnchor := by
  obtain ⟨s, a, stamp, -, -, -, -, rfl⟩ := compile_result_eq_ok_iff.mp h
  exact navigationAnchors_page r s a stamp

/-- A sheet of a given name whose only cell has a formula. -/
def linkingSheet (name : String) (n : Node) : Sheet where
  name := name
  values := .ofList [("A1", ⟨.text, ""⟩)]
  formulae := .ofList [("A1", n)]

/-- A report of such a sheet. -/
def linking (name : String) (n : Node) : Report where
  workbook := Workbook.empty.push (linkingSheet name n)
  dimensions := .empty
  settings := { Settings.standard with timestampFormat := "" }
  title := ""
  moment := ⟨⟨2024, 2, 29⟩, 0, 0, 0, 0, 0⟩

theorem formula?_linking (name : String) (n : Node) :
    (linkingSheet name n).formula? ⟨1, 1⟩ = some n := by
  have htext : CellRef.text ⟨1, 1⟩ = "A1" := by cbv
  rw [Sheet.formula?, htext]
  rfl

theorem navigation_linking (name : String) (n : Node) : (linking name n).navigation = [name] := rfl

-- The page of such a sheet, whatever else the workbook has.
theorem compile_linkingSheet {r : Report} {name : String} {n : Node}
    (hsheet : r.workbook.sheet? name = some (linkingSheet name n))
    (hformat : r.settings.timestampFormat = "") :
    (r.compile name).result = .ok (r.page (linkingSheet name n) emptyArea "") :=
  compile_of_onlyOrigin hsheet rfl hformat

theorem compile_linking (name : String) (n : Node) :
    ((linking name n).compile name).result =
      .ok ((linking name n).page (linkingSheet name n) emptyArea "") := by
  have hsheet : (linking name n).workbook.sheet? name = some (linkingSheet name n) :=
    (Workbook.sheet?_push Workbook.empty (linkingSheet name n) name).trans (if_pos rfl)
  exact compile_linkingSheet hsheet rfl

end LinkedSheets.Report
