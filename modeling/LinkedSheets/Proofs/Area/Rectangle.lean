import LinkedSheets.Proofs.Area.Grid
import LinkedSheets.Proofs.Area.Spelling

/-!
# Areas as rectangles

A text gives one cell, or two that stand on either side of a colon, and is read as the smallest
rectangle that has them. The measures of such an area are exact: they count its columns, its rows
and its cells, and no number on the way to them has too many bits.
-/

namespace LinkedSheets.Area

open Text

variable {a b : Area} {c d : CellRef}

/-- The smallest of all areas that hold two cells. -/
structure IsHull (a : Area) (c d : CellRef) : Prop where
  first : a.Contains c
  second : a.Contains d
  least : ∀ b : Area, b.Contains c → b.Contains d → ∀ x, a.Contains x → b.Contains x

/-- The measures of an area are counts. Computing them never goes below zero, and stays within 32
bits for a side and within 64 for the whole. -/
structure IsMeasured (a : Area) : Prop where
  cols_le : a.start.col.toNat ≤ a.finish.col.toNat
  cols_lt : a.finish.col.toNat - a.start.col.toNat + 1 < 2 ^ 32
  width_eq : a.width.toNat = Nat.card { col // a.start.col ≤ col ∧ col ≤ a.finish.col }
  rows_le : a.start.row.toNat ≤ a.finish.row.toNat
  rows_lt : a.finish.row.toNat - a.start.row.toNat + 1 < 2 ^ 32
  height_eq : a.height.toNat = Nat.card { row // a.start.row ≤ row ∧ row ≤ a.finish.row }
  cells_lt : a.width.toNat * a.height.toNat < 2 ^ 64
  cellCount_eq : a.cellCount.toNat = Nat.card { c // a.Contains c }

theorem contains_ofCorners_iff {x : CellRef} :
    (ofCorners c d).Contains x ↔
      (min c.row.toNat d.row.toNat ≤ x.row.toNat ∧ x.row.toNat ≤ max c.row.toNat d.row.toNat) ∧
        min c.col.toNat d.col.toNat ≤ x.col.toNat ∧ x.col.toNat ≤ max c.col.toNat d.col.toNat := by
  simp only [Contains, ofCorners, UInt32.le_iff_toNat_le, UInt32.toNat_min, UInt32.toNat_max]

theorem isHull_ofCorners (c d : CellRef) : (ofCorners c d).IsHull c d := by
  refine ⟨?_, ?_, fun b hc hd x hx => ?_⟩
  · rw [contains_ofCorners_iff]
    omega
  · rw [contains_ofCorners_iff]
    omega
  · rw [contains_ofCorners_iff] at hx
    simp only [Contains, UInt32.le_iff_toNat_le] at hc hd ⊢
    omega

theorem isHull_iff : a.IsHull c d ↔ ofCorners c d = a := by
  constructor
  · intro h
    have hull := isHull_ofCorners c d
    apply eq_of_contains_iff
    intro x
    exact ⟨hull.least a h.first h.second x, h.least _ hull.first hull.second x⟩
  · rintro rfl
    exact isHull_ofCorners c d

theorem ofCorners_comm (c d : CellRef) : ofCorners c d = ofCorners d c := by
  have hull := isHull_ofCorners d c
  rw [← isHull_iff]
  exact ⟨hull.second, hull.first, fun b hc hd => hull.least b hd hc⟩

-- The cells that a text gives say all about the area that it is read as.
theorem Corners.hull_iff {text : String} (h : Corners (trim text.toList) c d) :
    parse text = .ok a ↔ a.IsHull c d := by
  have hparse : parse text = .ok (ofCorners c d) := parse_eq_ok_iff_corners.mpr ⟨c, d, h, rfl⟩
  rw [hparse, Except.ok.injEq, isHull_iff]

theorem exists_parse_iff {text : String} :
    (∃ a, parse text = .ok a) ↔ ∃ c d, Corners (trim text.toList) c d := by
  constructor
  · rintro ⟨a, h⟩
    obtain ⟨c, d, hcorners, -⟩ := parse_eq_ok_iff_corners.mp h
    exact ⟨c, d, hcorners⟩
  · rintro ⟨c, d, hcorners⟩
    exact ⟨ofCorners c d, hcorners.hull_iff.mpr (isHull_ofCorners c d)⟩

-- The blanks around a reference do not matter.
theorem parse_congr {cs cs' : List Char} (h : trim cs = trim cs') :
    CellRef.parse (String.ofList cs) = .ok c ↔ CellRef.parse (String.ofList cs') = .ok c := by
  rw [CellRef.parse_eq_ok_iff, CellRef.parse_eq_ok_iff, CellRef.body, CellRef.body,
    String.toList_ofList, String.toList_ofList, h]

-- If there are references on both sides of a colon, it is the only one, so the text is cut there.
theorem parse_colon_iff {first second : List Char} :
    parse (String.ofList (first ++ ':' :: second)) = .ok a ↔
      ∃ c d, CellRef.parse (String.ofList first) = .ok c ∧
        CellRef.parse (String.ofList second) = .ok d ∧ ofCorners c d = a := by
  have htrim : trim (String.ofList (first ++ ':' :: second)).toList =
      trimStart first ++ ':' :: trimEnd second := by
    rw [String.toList_ofList, trim_append_cons (by decide)]
  rw [parse_eq_ok_iff_corners, htrim]
  constructor
  · rintro ⟨c, d, hcorners, rfl⟩
    cases hcorners with
    | cell hcolon => exact absurd (List.mem_append_right _ List.mem_cons_self) hcolon
    | cells htext hcolon hfirst hsecond =>
      obtain ⟨rfl, -, rfl⟩ :=
        (List.append_cons_inj_of_notMem hcolon (colon_not_mem_of_parse hsecond)).mp htext.symm
      rw [parse_congr (trim_trimStart first)] at hfirst
      rw [parse_congr (trim_trimEnd second)] at hsecond
      exact ⟨c, d, hfirst, hsecond, rfl⟩
  · rintro ⟨c, d, hfirst, hsecond, rfl⟩
    rw [← parse_congr (trim_trimStart first)] at hfirst
    rw [← parse_congr (trim_trimEnd second)] at hsecond
    exact ⟨c, d, .cells rfl (colon_not_mem_of_parse hfirst) hfirst hsecond, rfl⟩

theorem parse_trimmed (text : String) : parse (String.ofList (trim text.toList)) = parse text := by
  rw [parse, String.toList_ofList, trim_trim, parse]

theorem parse_swap {text : String} {first second : List Char}
    (h : trim text.toList = first ++ ':' :: second) :
    parse text = .ok a ↔ parse (String.ofList (second ++ ':' :: first)) = .ok a := by
  rw [← parse_trimmed, h, parse_colon_iff, parse_colon_iff, exists_comm]
  simp only [and_left_comm, ofCorners_comm]

theorem isProper_start_of_parse {text : String} (h : parse text = .ok a) : a.start.IsProper := by
  obtain ⟨c, d, hcorners, rfl⟩ := parse_eq_ok_iff_corners.mp h
  have hproper : c.IsProper ∧ d.IsProper := by
    cases hcorners with
    | cell _ hcell =>
      exact ⟨CellRef.isProper_of_parse hcell, CellRef.isProper_of_parse hcell⟩
    | cells _ _ hfirst hsecond =>
      exact ⟨CellRef.isProper_of_parse hfirst, CellRef.isProper_of_parse hsecond⟩
  simp only [CellRef.IsProper, ofCorners, UInt32.toNat_min] at hproper ⊢
  omega

-- A list that has just the things with a property, each once, counts them.
theorem card_eq_length {α : Type} {p : α → Prop} {xs : List α} (hnodup : xs.Nodup)
    (hmem : ∀ x, x ∈ xs ↔ p x) : Nat.card { x // p x } = xs.length := by
  let s : Finset α := ⟨xs, Multiset.coe_nodup.mpr hnodup⟩
  exact Nat.subtype_card s hmem

theorem card_span (first last : UInt32) :
    Nat.card { n // first ≤ n ∧ n ≤ last } = spanLength first last := by
  rw [← length_span]
  apply card_eq_length
  · exact (pairwise_span first last).imp fun hlt => UInt32.ne_of_lt hlt
  · exact fun n => mem_span

theorem isMeasured (h : a.start.IsProper) : a.IsMeasured where
  cols_le := UInt32.le_iff_toNat_le.mp a.col_le
  cols_lt := sub_add_one_lt a.finish.col h.2
  width_eq := by rw [card_span, toNat_width h]
  rows_le := UInt32.le_iff_toNat_le.mp a.row_le
  rows_lt := sub_add_one_lt a.finish.row h.1
  height_eq := by rw [card_span, toNat_height h]
  cells_lt := a.width_mul_height_lt
  cellCount_eq := by
    rw [card_eq_length a.nodup_cells fun c => mem_cells, length_cells, toNat_cellCount,
      toNat_width h, toNat_height h, Nat.mul_comm]

/-- A text is read as an area if it gives one cell or two, and the area is the smallest rectangle
that has them, whichever stands first. The corners of an area that was read are in order, its own
text is read as the same area, and its measures are exact. -/
theorem parse_smallest_rectangle :
    (∀ text : String,
      ((∃ a, parse text = .ok a) ↔ ∃ c d, Corners (trim text.toList) c d) ∧
      (∀ c d, Corners (trim text.toList) c d → ∀ a, parse text = .ok a ↔ a.IsHull c d) ∧
      ∀ first second, trim text.toList = first ++ ':' :: second →
        ∀ a, parse text = .ok a ↔ parse (String.ofList (second ++ ':' :: first)) = .ok a) ∧
    ∀ (text : String) (a : Area), parse text = .ok a →
      (a.start.row ≤ a.finish.row ∧ a.start.col ≤ a.finish.col) ∧ parse a.text = .ok a ∧
        a.IsMeasured := by
  constructor
  · exact fun text => ⟨exists_parse_iff, fun c d h a => h.hull_iff, fun first second h a =>
      parse_swap h⟩
  · intro text a h
    have hproper := isProper_start_of_parse h
    have hspelled := isSpelledBy_text hproper
    exact ⟨⟨a.row_le, a.col_le⟩, parse_eq_ok_iff.mpr hspelled, isMeasured hproper⟩

/-- All the cells that there are, from the last to the first. -/
theorem parse_smallest_rectangle_backwards :
    ∃ a, parse " mwlqKwu4294967295 :$a$1\n" = .ok a ∧ a.IsHull ⟨4294967295, 4294967295⟩ ⟨1, 1⟩ ∧
      parse "$a$1:mwlqKwu4294967295 " = .ok a ∧ parse a.text = .ok a ∧ a.IsMeasured := by
  have htrim : trim " mwlqKwu4294967295 :$a$1\n".toList =
      "mwlqKwu4294967295 ".toList ++ ':' :: "$a$1".toList := by decide +kernel
  have hcorners : Corners (trim " mwlqKwu4294967295 :$a$1\n".toList) ⟨4294967295, 4294967295⟩
      ⟨1, 1⟩ := .cells htrim (by decide) (by decide +kernel) (by decide +kernel)
  obtain ⟨hread, hhull, hswap⟩ := parse_smallest_rectangle.1 " mwlqKwu4294967295 :$a$1\n"
  obtain ⟨a, ha⟩ := hread.mpr ⟨_, _, hcorners⟩
  obtain ⟨-, htext, hmeasured⟩ := parse_smallest_rectangle.2 _ a ha
  exact ⟨a, ha, (hhull _ _ hcorners a).mp ha, (hswap _ _ htrim a).mp ha, htext, hmeasured⟩

end LinkedSheets.Area
