import LinkedSheets.Proofs.Formula.Layout
import LinkedSheets.Proofs.Markup.Anchor
import LinkedSheets.Proofs.Markup.Escaping

/-!
# Links in formulae

A reference to a cell is rendered to an anchor, which a reader finds again as long as the reference
has no characters that mean something in markup.
-/

namespace LinkedSheets

open Text Markup

/-- Nothing in the text means something in markup. -/
def isUnmarked (s : String) : Bool := s.toList.all fun c => c ≠ '&' && !isMark c

theorem not_mem_of_isUnmarked {s : String} (h : isUnmarked s = true) {c : Char}
    (hc : c = '&' ∨ isMark c = true) : c ∉ s.toList := by
  intro hmem
  have hplain := List.all_eq_true.mp h c hmem
  rw [Bool.and_eq_true, decide_eq_true_eq, Bool.not_eq_true'] at hplain
  rcases hc with hamp | hmark
  · exact hplain.1 hamp
  · rw [hplain.2] at hmark
    exact Bool.false_ne_true hmark

/-- The anchor that a link is written as. -/
@[simps]
def linkAnchor (page fragment shown : String) : Anchor where
  href := (page ++ "#" ++ fragment).toList
  shown := shown.toList

theorem toList_write_link (page fragment shown : String) :
    (Piece.link page fragment shown).write.toList = (linkAnchor page fragment shown).text '"' := by
  have hshape (href body : List Char) :
      "<a href=\"".toList ++ (href ++ ("\">".toList ++ (body ++ "</a>".toList))) =
        Anchor.text '"' ⟨href, body⟩ := by
    simp only [Anchor.text, List.append_assoc, List.cons_append, List.nil_append]
    rfl
  rw [linkAnchor, ← hshape, Piece.write]
  simp only [String.toList_append, List.append_assoc]

theorem not_mem_stripAbsolute {reference : String} {x : Char} (h : x ∉ reference.toList) :
    x ∉ (stripAbsolute reference).toList := by
  rw [stripAbsolute, String.toList_ofList]
  exact fun hmem => h (List.mem_of_mem_filter hmem)

namespace Node

/-- A reference to a cell. -/
def cell (reference : String) : Node := .tagged "cell" [.leaf reference]

/-- A reference to a cell of a given sheet. -/
def qualified (sheet reference : String) : Node :=
  .tagged "sheet_reference" [.leaf sheet, cell reference]

theorem pieces_cell (page reference : String) :
    (cell reference).pieces page = [.link page (stripAbsolute reference) reference] := by
  rw [cell, pieces_tagged]
  rfl

theorem pieces_qualified (page sheet reference : String) :
    (qualified sheet reference).pieces page =
      [.link (pageHref sheet) (stripAbsolute reference) reference] := by
  have hlayout : layout "sheet_reference" [.leaf sheet, cell reference] =
      .parts [] none (some sheet) [cell reference] [] := rfl
  rw [qualified, pieces_tagged, hlayout, ← pieces_cell (pageHref sheet) reference,
    ← flatten_parts_singleton]
  exact List.append_nil _

end Node

-- The only anchor of a link that is written is its own.
theorem anchors_writePieces_link {page fragment shown : String} (hpage : '"' ∉ page.toList)
    (hfragment : '"' ∉ fragment.toList) (hshown : '<' ∉ shown.toList) :
    anchors '"' (writePieces [.link page fragment shown]).toList =
      [linkAnchor page fragment shown] := by
  have hplain : (linkAnchor page fragment shown).IsPlain '"' := by
    refine ⟨?_, hshown⟩
    rw [linkAnchor_href, String.toList_append, String.toList_append, List.mem_append,
      List.mem_append, not_or, not_or]
    exact ⟨⟨hpage, by decide⟩, hfragment⟩
  rw [writePieces, List.map_singleton, String.join_cons, String.join_nil, String.append_empty,
    toList_write_link, anchors_text hplain]

theorem anchors_writePieces_cell {page reference : String} (hpage : '"' ∉ page.toList)
    (h : isUnmarked reference = true) :
    anchors '"' (writePieces ((Node.cell reference).pieces page)).toList =
      [linkAnchor page (stripAbsolute reference) reference] := by
  rw [Node.pieces_cell]
  exact anchors_writePieces_link hpage (not_mem_stripAbsolute (not_mem_of_isUnmarked h (.inr rfl)))
    (not_mem_of_isUnmarked h (.inr rfl))

end LinkedSheets
