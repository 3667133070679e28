import LinkedSheets.Proofs.Formula.Links
import LinkedSheets.Proofs.Markup.PercentCoding
import LinkedSheets.Proofs.Report.Navigation
import LinkedSheets.Proofs.Report.ReadBack

/-!
# Links to other sheets

A formula links to the page of another sheet, and so does the navigation. The navigation escapes the
address of the page, a formula does not. So both links have the same address unless the name of the
sheet has in it what a reader takes for an entity.
-/

namespace LinkedSheets.Report

open Text Markup Node

/-- The entities that a percent-encoded text can have. -/
def namedEntities : List String := ["&amp;", "&lt;", "&gt;", "&quot;"]

theorem characterEntities_eq : characterEntities = namedEntities ++ ["&#39;"] := rfl

-- An entity in the address of a formula's link comes from the name of the sheet.
theorem infix_href_linkAnchor_iff {e sheet reference : String} (he : e ∈ characterEntities)
    (h : isUnmarked reference = true) :
    e.toList <:+: (linkAnchor (pageHref sheet) (stripAbsolute reference) reference).href ↔
      e.toList <:+: sheet.toList.flatMap percentChar := by
  have hentities : ∀ e ∈ characterEntities, '.' ∉ e.toList ∧ '&' ∈ e.toList := by decide
  obtain ⟨hdot, hamp⟩ := hentities e he
  have hend : '&' ∉ "html".toList ++ ("#".toList ++ (stripAbsolute reference).toList) := by
    rw [List.mem_append, List.mem_append, not_or, not_or]
    exact ⟨by decide, by decide, not_mem_stripAbsolute (not_mem_of_isUnmarked h (.inl rfl))⟩
  have hhref : (linkAnchor (pageHref sheet) (stripAbsolute reference) reference).href =
      sheet.toList.flatMap percentChar ++
        '.' :: ("html".toList ++ ("#".toList ++ (stripAbsolute reference).toList)) := by
    rw [linkAnchor_href, String.toList_append, String.toList_append, toList_pageHref]
    simp only [List.append_assoc]
    rfl
  rw [hhref, infix_append_cons_iff hdot]
  exact or_iff_left fun hin => hend (hin.subset hamp)

theorem infix_flatMap_of_namedEntity {e sheet : String} (he : e ∈ namedEntities) :
    e.toList <:+: sheet.toList.flatMap percentChar ↔ e.toList <:+: sheet.toList := by
  have hkept : namedEntities.all (fun e => isKept e.toList) = true := by decide
  exact infix_flatMap_percentChar_iff (List.all_eq_true.mp hkept e he)

theorem not_infix_flatMap_numeral (sheet : String) :
    ¬ "&#39;".toList <:+: sheet.toList.flatMap percentChar := by
  intro h
  have hmem : '#' ∈ sheet.toList.flatMap percentChar := h.subset (by decide)
  have hnot := not_mem_pageHref sheet (x := '#') (by decide) rfl
  rw [toList_pageHref, List.mem_append, not_or] at hnot
  exact hnot.1 hmem

-- Unescaping leaves the address of a formula's link alone if the name of the sheet has no entity.
theorem unescape_href_linkAnchor_iff {sheet reference : String} (h : isUnmarked reference = true) :
    unescape (linkAnchor (pageHref sheet) (stripAbsolute reference) reference).href =
        pageHref sheet ++ "#" ++ stripAbsolute reference ↔
      ∀ e ∈ namedEntities, ¬ e.toList <:+: sheet.toList := by
  rw [unescape, ← String.toList_inj, String.toList_ofList, ← linkAnchor_href _ _ reference,
    unescapeFrom_eq_self_iff]
  constructor
  · intro hfree e he
    have hmem : e ∈ characterEntities := characterEntities_eq ▸ List.mem_append_left _ he
    rw [← infix_flatMap_of_namedEntity he, ← infix_href_linkAnchor_iff hmem h]
    exact hfree e hmem
  · intro hfree e hmem
    rw [infix_href_linkAnchor_iff hmem h]
    rw [characterEntities_eq, List.mem_append, List.mem_singleton] at hmem
    rcases hmem with he | rfl
    · rw [infix_flatMap_of_namedEntity he]
      exact hfree e he
    · exact not_infix_flatMap_numeral sheet

theorem anchors_formulaText_qualified {s : Sheet} {cell : CellRef} {sheet reference : String}
    (h : isUnmarked reference = true)
    (hformula : s.formula? cell = some (qualified sheet reference)) :
    anchors '"' (unescape (formulaText s cell).toList).toList =
      [linkAnchor (pageHref sheet) (stripAbsolute reference) reference] := by
  have hpieces : (qualified sheet reference).pieces "" =
      (Node.cell reference).pieces (pageHref sheet) := by
    rw [pieces_qualified, pieces_cell]
  rw [formulaText_of_some hformula, unescape_escape, render, hpieces]
  exact anchors_writePieces_cell (not_mem_pageHref sheet (by decide) rfl) h

/-- The entry of a sheet in the navigation, and how the links of formulae to that sheet compare with
it: read in the same way, they have its address and the cell, unless the name of the sheet has an
entity in it. -/
structure AgreesWithFormulae (sheet : String) (entry : Anchor) : Prop where
  shown : unescape entry.shown = sheet
  formulae : ∀ reference, isUnmarked reference = true → ∀ (s : Sheet) (cell : CellRef),
    s.formula? cell = some (qualified sheet reference) →
      ∃ link, anchors '"' (unescape (formulaText s cell).toList).toList = [link] ∧
        (unescape link.href = unescape entry.href ++ "#" ++ stripAbsolute reference ↔
          ∀ e ∈ namedEntities, ¬ e.toList <:+: sheet.toList)

theorem agreesWithFormulae_entryAnchor (sheet : String) :
    AgreesWithFormulae sheet (entryAnchor sheet) where
  shown := unescape_shown_entryAnchor sheet
  formulae := by
    intro reference h s cell hformula
    refine ⟨_, anchors_formulaText_qualified h hformula, ?_⟩
    rw [unescape_href_entryAnchor]
    exact unescape_href_linkAnchor_iff h

/-- On every page the navigation has an entry for each sheet, and a formula with a reference to a
cell of that sheet has one link. Each address is read off its attribute by undoing the escaping,
first of the attribute with the formula and then of the address in it. The address of the link is
that of the entry with the cell behind it exactly if the name of the sheet has no entity in it. -/
theorem navigation_agrees_with_formulae {r : Report} {name page : String}
    (h : (r.compile name).result = .ok page) :
    List.Forall₂ AgreesWithFormulae r.navigation (navigationAnchors page) := by
  rw [navigationAnchors_of_compile h, List.forall₂_map_right_iff, List.forall₂_same]
  exact fun sheet _ => agreesWithFormulae_entryAnchor sheet

/-- An ampersand alone does no harm. -/
theorem navigation_agrees_with_formulae_linking :
    ∃ page entry link,
      ((linking "R&D" (qualified "R&D" "$A$1")).compile "R&D").result = .ok page ∧
      navigationAnchors page = [entry] ∧
      anchors '"' (unescape (formulaText (linkingSheet "R&D" (qualified "R&D" "$A$1"))
        ⟨1, 1⟩).toList).toList = [link] ∧
      unescape link.href = unescape entry.href ++ "#" ++ "A1" := by
  have hcompile := compile_linking "R&D" (qualified "R&D" "$A$1")
  have hentries := navigation_agrees_with_formulae hcompile
  rw [navigation_linking, List.forall₂_cons_left_iff] at hentries
  obtain ⟨entry, rest, hentry, hrest, hanchors⟩ := hentries
  rw [List.forall₂_nil_left_iff] at hrest
  obtain ⟨link, hlink, hiff⟩ := hentry.formulae "$A$1" rfl _ _
    (formula?_linking "R&D" _)
  have hfree : ∀ e ∈ namedEntities, ¬ e.toList <:+: "R&D".toList := by
    have hends : ∀ e ∈ namedEntities, ';' ∈ e.toList := by decide
    exact fun e he hin => absurd (hin.subset (hends e he)) (by decide)
  exact ⟨_, entry, link, hcompile, by rw [hanchors, hrest], hlink, hiff.mpr hfree⟩

/-- A name that has an entity in it is taken for another one in a formula. -/
theorem formula_leads_elsewhere :
    ∃ page entry link,
      ((linking "a&lt;b" (qualified "a&lt;b" "A1")).compile "a&lt;b").result = .ok page ∧
      navigationAnchors page = [entry] ∧ unescape entry.shown = "a&lt;b" ∧
      unescape entry.href = "a&lt;b.html" ∧
      anchors '"' (unescape (formulaText (linkingSheet "a&lt;b" (qualified "a&lt;b" "A1"))
        ⟨1, 1⟩).toList).toList = [link] ∧
      unescape link.href = "a<b.html#A1" ∧
      unescape link.href ≠ unescape entry.href ++ "#" ++ stripAbsolute "A1" := by
  have hcompile := compile_linking "a&lt;b" (qualified "a&lt;b" "A1")
  have hhref : unescape (entryAnchor "a&lt;b").href = "a&lt;b.html" :=
    unescape_href_entryAnchor "a&lt;b"
  have hlink : unescape (linkAnchor (pageHref "a&lt;b") (stripAbsolute "A1") "A1").href =
      "a<b.html#A1" := rfl
  refine ⟨_, entryAnchor "a&lt;b", _, hcompile, navigationAnchors_of_compile hcompile,
    unescape_shown_entryAnchor "a&lt;b", hhref, anchors_formulaText_qualified
      rfl (formula?_linking "a&lt;b" _), hlink, ?_⟩
  rw [hlink, hhref]
  intro heq
  exact absurd (congrArg (fun s => s.toList.take 2) heq) (by decide)

end LinkedSheets.Report
