import LinkedSheets.Proofs.Area.Extent
import LinkedSheets.Proofs.Text.Scanning

/-!
# Spellings of areas

An area is spelled by a reference to its only cell, or by references to two opposite corners with a
colon between them. `parse` accepts the spellings of an area and nothing else, and the text of an
area is one of them.
-/

namespace LinkedSheets.Area

open Text CellRef

/-- Two cells are opposite corners of an area, in any order. -/
structure IsCorners (a : Area) (c d : CellRef) : Prop where
  row : c.row = a.start.row ∧ d.row = a.finish.row ∨ c.row = a.finish.row ∧ d.row = a.start.row
  col : c.col = a.start.col ∧ d.col = a.finish.col ∨ c.col = a.finish.col ∧ d.col = a.start.col

/-- What a text spells as an area. Each reference is spelled as if it stood alone. -/
inductive IsSpelledBy (a : Area) (text : String) : Prop where
  | cell {c : CellRef} (hcell : Spells (body text) c) (hcorners : a.IsCorners c c)
  | corners {first second : List Char} {c d : CellRef}
      (htext : trim text.toList = first ++ ':' :: second)
      (hfirst : Spells (body (String.ofList first)) c)
      (hsecond : Spells (body (String.ofList second)) d) (hcorners : a.IsCorners c d)

/-- The cells that a trimmed text gives. The first colon in it ends the first reference. -/
inductive Corners (cs : List Char) : CellRef → CellRef → Prop where
  | cell {c : CellRef} (hcolon : ':' ∉ cs) (hcell : CellRef.parse (String.ofList cs) = .ok c) :
      Corners cs c c
  | cells {first second : List Char} {c d : CellRef} (htext : cs = first ++ ':' :: second)
      (hcolon : ':' ∉ first) (hfirst : CellRef.parse (String.ofList first) = .ok c)
      (hsecond : CellRef.parse (String.ofList second) = .ok d) : Corners cs c d

theorem min_max_eq_iff {m n low high : UInt32} (h : low ≤ high) :
    min m n = low ∧ max m n = high ↔ m = low ∧ n = high ∨ m = high ∧ n = low := by
  simp only [← UInt32.toNat_inj, UInt32.toNat_min, UInt32.toNat_max, UInt32.le_iff_toNat_le] at h ⊢
  omega

theorem ofCorners_eq_iff {a : Area} {c d : CellRef} : ofCorners c d = a ↔ a.IsCorners c d := by
  have hrow := min_max_eq_iff (m := c.row) (n := d.row) a.row_le
  have hcol := min_max_eq_iff (m := c.col) (n := d.col) a.col_le
  obtain ⟨⟨srow, scol⟩, ⟨frow, fcol⟩, _, _⟩ := a
  simp only [ofCorners, Area.mk.injEq, CellRef.mk.injEq]
  constructor
  · rintro ⟨⟨hsrow, hscol⟩, hfrow, hfcol⟩
    exact ⟨hrow.mp ⟨hsrow, hfrow⟩, hcol.mp ⟨hscol, hfcol⟩⟩
  · intro h
    obtain ⟨hsrow, hfrow⟩ := hrow.mpr h.row
    obtain ⟨hscol, hfcol⟩ := hcol.mpr h.col
    exact ⟨⟨hsrow, hscol⟩, hfrow, hfcol⟩

-- No reference has a colon.
theorem colon_not_mem_of_spells {cs : List Char} {c : CellRef}
    (h : Spells (body (String.ofList cs)) c) : ':' ∉ cs := by
  intro hmem
  rw [← String.toList_ofList (l := cs)] at hmem
  exact absurd (h.isAlphanum_of_mem hmem (by decide) (by decide)) (by decide)

theorem body_trim (text : String) : body (String.ofList (trim text.toList)) = body text := by
  rw [body, String.toList_ofList, trim_trim, body]

theorem colon_not_mem_of_parse {cs : List Char} {c : CellRef}
    (h : CellRef.parse (String.ofList cs) = .ok c) : ':' ∉ cs :=
  colon_not_mem_of_spells (CellRef.parse_eq_ok_iff.mp h)

-- What is read of a text is the area between the cells that the text gives.
theorem parse_eq_ok_iff_corners {text : String} {a : Area} :
    parse text = .ok a ↔ ∃ c d, Corners (trim text.toList) c d ∧ ofCorners c d = a := by
  simp only [parse]
  constructor
  · intro h
    split at h
    · rename_i first second hsplit
      obtain ⟨htext, hcolon⟩ := splitOnce_eq_some hsplit
      obtain ⟨c, hc, h⟩ := bind_eq_ok_iff.mp h
      obtain ⟨d, hd, h⟩ := bind_eq_ok_iff.mp h
      exact ⟨c, d, .cells htext hcolon hc hd, Except.ok.inj h⟩
    · rename_i hsplit
      obtain ⟨c, hc, h⟩ := bind_eq_ok_iff.mp h
      exact ⟨c, c, .cell (splitOnce_eq_none.mp hsplit) hc, Except.ok.inj h⟩
  · rintro ⟨c, d, hcorners, rfl⟩
    cases hcorners with
    | cell hcolon hcell =>
      rw [splitOnce_eq_none.mpr hcolon]
      exact bind_eq_ok_iff.mpr ⟨c, hcell, rfl⟩
    | cells htext hcolon hfirst hsecond =>
      rw [htext, splitOnce_append hcolon]
      exact bind_eq_ok_iff.mpr ⟨c, hfirst, bind_eq_ok_iff.mpr ⟨d, hsecond, rfl⟩⟩

-- A text is read as an area if it spells the area.
theorem parse_eq_ok_iff {text : String} {a : Area} :
    parse text = .ok a ↔ a.IsSpelledBy text := by
  rw [parse_eq_ok_iff_corners]
  constructor
  · rintro ⟨c, d, hcorners, ha⟩
    cases hcorners with
    | cell hcolon hcell =>
      rw [CellRef.parse_eq_ok_iff, body_trim] at hcell
      exact .cell hcell (ofCorners_eq_iff.mp ha)
    | cells htext hcolon hfirst hsecond =>
      exact .corners htext (CellRef.parse_eq_ok_iff.mp hfirst)
        (CellRef.parse_eq_ok_iff.mp hsecond) (ofCorners_eq_iff.mp ha)
  · intro h
    cases h with
    | @cell c hcell hcorners =>
      rw [← body_trim] at hcell
      exact ⟨c, c, .cell (colon_not_mem_of_spells hcell) (CellRef.parse_eq_ok_iff.mpr hcell),
        ofCorners_eq_iff.mpr hcorners⟩
    | @corners first second c d htext hfirst hsecond hcorners =>
      exact ⟨c, d, .cells htext (colon_not_mem_of_spells hfirst)
        (CellRef.parse_eq_ok_iff.mpr hfirst) (CellRef.parse_eq_ok_iff.mpr hsecond),
        ofCorners_eq_iff.mpr hcorners⟩

-- All of an area is proper if its first cell is.
theorem isProper_finish {a : Area} (h : a.start.IsProper) : a.finish.IsProper := by
  have hrow := UInt32.le_iff_toNat_le.mp a.row_le
  have hcol := UInt32.le_iff_toNat_le.mp a.col_le
  exact ⟨h.1.trans hrow, h.2.trans hcol⟩

theorem isSpelledBy_text {a : Area} (h : a.start.IsProper) : a.IsSpelledBy a.text := by
  have htoList : a.text.toList = a.start.text.toList ++ ':' :: a.finish.text.toList := by
    rw [text, String.toList_append, String.toList_append, List.append_assoc]
    rfl
  have htrim : trim a.text.toList = a.text.toList := by
    apply trim_eq_self
    intro x hx
    rw [htoList, List.mem_append, List.mem_cons] at hx
    rcases hx with hx | rfl | hx
    · exact isBlank_of_mem_text hx
    · decide
    · exact isBlank_of_mem_text hx
  refine .corners (htrim.trans htoList) ?_ ?_ ⟨Or.inl ⟨rfl, rfl⟩, Or.inl ⟨rfl, rfl⟩⟩
  · rw [String.ofList_toList, body_text]
    exact spells_text h
  · rw [String.ofList_toList, body_text]
    exact spells_text (isProper_finish h)

end LinkedSheets.Area
