import LinkedSheets.Proofs.Cell.Canonical
import LinkedSheets.Proofs.Formula.Links
import LinkedSheets.Proofs.Markup.UrlReference
import LinkedSheets.Proofs.Report.Navigation
import LinkedSheets.Proofs.Report.ReadBack
import LinkedSheets.Proofs.Sheet.Insertions

/-!
# Links to cells

A link in a formula goes to what is left of the reference without its dollar signs, a cell of the
table is found under the canonical text of its reference. Both are the same for a reference that is
spelled canonically and for no other one, although a workbook knows the cell under all spellings.
-/

namespace LinkedSheets

open Text Markup

/-- The address before the number sign of a link: the page of a given sheet, or the page on which
the link stands. -/
def targetPage (target : Option String) : String := (target.map pageHref).getD ""

theorem not_mem_targetPage {x : Char} (hx : x ≠ '%') (h : isPlain x = false)
    (target : Option String) : x ∉ (targetPage target).toList := by
  cases target with
  | none => exact List.not_mem_nil
  | some sheet => exact not_mem_pageHref sheet hx h

theorem fragment?_linkAnchor (target : Option String) (fragment shown : String) :
    fragment? (linkAnchor (targetPage target) fragment shown).href = some fragment.toList := by
  have hnot : '#' ∉ (targetPage target).toList := not_mem_targetPage (by decide) rfl target
  have hhref : (linkAnchor (targetPage target) fragment shown).href =
      (targetPage target).toList ++ '#' :: fragment.toList := by
    rw [linkAnchor_href, String.toList_append, String.toList_append, List.append_assoc]
    rfl
  rw [hhref, fragment?, splitOnce_append hnot, Option.map_some]

-- A reference that is accepted has nothing in it that means something in markup.
theorem isUnmarked_of_parse {reference : String} {c : CellRef}
    (h : CellRef.parse reference = .ok c) : isUnmarked reference = true := by
  have hspells := CellRef.parse_eq_ok_iff.mp h
  have hnot (x : Char) (hblank : isBlank x = false) (hdollar : x ≠ '$')
      (halphanum : x.isAlphanum = false) : x ∉ reference.toList := by
    intro hx
    rw [hspells.isAlphanum_of_mem hx hblank hdollar] at halphanum
    exact Bool.false_ne_true halphanum.symm
  rw [isUnmarked, List.all_eq_true]
  intro x hx
  rw [Bool.and_eq_true, decide_eq_true_eq, Bool.not_eq_true', ← Bool.not_eq_true, ← not_or]
  intro hmark
  simp only [isMark, Bool.or_eq_true, decide_eq_true_eq] at hmark
  rcases hmark with rfl | ((rfl | rfl) | rfl) | rfl
  all_goals exact hnot _ rfl (by decide) rfl hx

theorem anchors_cell_of_parse {reference : String} {c : CellRef}
    (h : CellRef.parse reference = .ok c) (target : Option String) :
    anchors '"' (writePieces ((Node.cell reference).pieces (targetPage target))).toList =
      [linkAnchor (targetPage target) (stripAbsolute reference) reference] :=
  anchors_writePieces_cell (not_mem_targetPage (by decide) rfl target) (isUnmarked_of_parse h)

namespace Report

-- The elements of a page are found under the texts of the cells of its area.
theorem exists_id_iff {r : Report} {name page : String} {s : Sheet} {a : Area}
    (h : (r.compile name).result = .ok page) (hs : r.workbook.sheet? name = some s)
    (ha : (r.area s).result = .ok a) (id : List Char) :
    (∃ e ∈ cellElements page.toList, e.id = id) ↔
      ∃ c, c.IsProper ∧ a.Contains c ∧ c.text.toList = id := by
  obtain ⟨s', a', hs', ha', horigin, hshows⟩ := exists_shows_of_compile h
  rw [hs, Option.some.injEq] at hs'
  subst hs'
  rw [ha, Except.ok.injEq] at ha'
  subst ha'
  constructor
  · rintro ⟨e, he, rfl⟩
    obtain ⟨c, hc, hshow⟩ := exists_of_mem_right hshows he
    exact ⟨c, isProper_of_mem_rectangle hc, (Area.contains_iff_mem_rectangle horigin).mpr hc,
      hshow.id.symm⟩
  · rintro ⟨c, -, hc, rfl⟩
    obtain ⟨e, he, hshow⟩ :=
      exists_of_mem_left hshows ((Area.contains_iff_mem_rectangle horigin).mp hc)
    exact ⟨e, he, hshow.id⟩

/-- The links of a reference that is accepted as a cell. Wherever the link leads, its fragment is
what is left of the reference without its dollar signs. This is the text of the cell, under which a
workbook keeps it and under which it is found on every page that has it, exactly if the reference is
canonical; otherwise the fragment is found on no such page. -/
theorem cell_link_resolves_iff {reference : String} {c : CellRef}
    (h : CellRef.parse reference = .ok c) :
    (∀ target, ∃ link,
      anchors '"' (writePieces ((Node.cell reference).pieces (targetPage target))).toList = [link] ∧
        fragment? link.href = some (stripAbsolute reference).toList ∧
        (fragment? link.href = some c.text.toList ↔ CellRef.IsCanonical reference)) ∧
    Sheet.key reference = c.text ∧
    ∀ (r : Report) (name page : String) (s : Sheet) (a : Area),
      (r.compile name).result = .ok page → r.workbook.sheet? name = some s →
      (r.area s).result = .ok a → a.Contains c →
        (∃ e ∈ cellElements page.toList, e.id = c.text.toList) ∧
        ((∃ e ∈ cellElements page.toList, e.id = (stripAbsolute reference).toList) ↔
          CellRef.IsCanonical reference) := by
  have hproper := CellRef.isProper_of_parse h
  refine ⟨fun target => ⟨_, anchors_cell_of_parse h target, ?_, ?_⟩, Sheet.key_of_ok h, ?_⟩
  · exact fragment?_linkAnchor target _ reference
  · rw [fragment?_linkAnchor, Option.some.injEq, String.toList_inj]
    exact CellRef.stripAbsolute_eq_text_iff h
  · intro r name page s a hpage hs ha hc
    refine ⟨(exists_id_iff hpage hs ha _).mpr ⟨c, hproper, hc, rfl⟩, ?_⟩
    rw [exists_id_iff hpage hs ha, ← CellRef.stripAbsolute_eq_text_iff h]
    constructor
    · rintro ⟨d, hd, -, htext⟩
      have heq : stripAbsolute reference = d.text := String.toList_inj.mp htext.symm
      rw [heq, CellRef.eq_of_stripAbsolute_eq_text h hd heq]
    · intro heq
      exact ⟨c, hproper, hc, congrArg String.toList heq.symm⟩

/-- A reference in capitals leads to its cell, with and without dollar signs. -/
theorem cell_link_resolves_absolute :
    ∃ link, CellRef.parse "$B$3" = .ok ⟨3, 2⟩ ∧
      anchors '"' (writePieces ((Node.cell "$B$3").pieces (targetPage none))).toList = [link] ∧
      fragment? link.href = some "B3".toList := by
  have hparse : CellRef.parse "$B$3" = .ok ⟨3, 2⟩ := rfl
  obtain ⟨link, hlink, hfragment, -⟩ := (cell_link_resolves_iff hparse).1 none
  exact ⟨link, hparse, hlink, hfragment⟩

/-- A reference in small letters is accepted, but does not lead to its cell. -/
theorem cell_link_dangles :
    ∃ page e link, CellRef.parse "a1" = .ok ⟨1, 1⟩ ∧ Sheet.key "a1" = "A1" ∧
      ((linking "S" (.cell "a1")).compile "S").result = .ok page ∧
      cellElements page.toList = [e] ∧ e.id = "A1".toList ∧
      anchors '"' (unescape e.formula).toList = [link] ∧
      fragment? link.href = some "a1".toList := by
  have hparse : CellRef.parse "a1" = .ok ⟨1, 1⟩ := rfl
  have htext : CellRef.text ⟨1, 1⟩ = "A1" := by cbv
  have hcells : emptyArea.grid.rows.flatMap GridRow.cells = [⟨1, 1⟩] := by decide
  have helements := cellElements_page (linking "S" (.cell "a1")) (linkingSheet "S" (.cell "a1"))
    emptyArea ""
  rw [hcells, List.map_singleton] at helements
  refine ⟨_, _, _, hparse, (Sheet.key_of_ok hparse).trans htext, compile_linking "S" (.cell "a1"),
    helements, ?_, ?_, fragment?_linkAnchor none (stripAbsolute "a1") "a1"⟩
  · rw [cellElement_id, htext]
  · rw [cellElement_formula, formulaText_of_some (formula?_linking "S" (.cell "a1")),
      unescape_escape]
    exact anchors_cell_of_parse hparse none

end Report

end LinkedSheets
