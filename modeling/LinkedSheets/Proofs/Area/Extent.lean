import LinkedSheets.Area
import LinkedSheets.Proofs.Cell.Spelling
import LinkedSheets.Proofs.Stepwise

/-!
# Extents

The bounding area of some cells reaches from `A1` to the largest row and the largest column among
them, and its grid has every cell of that rectangle once, row by row.
-/

namespace LinkedSheets

/-- The largest of some numbers that count from 1, and 1 if there are none. -/
def largest (ns : List Nat) : Nat := ns.foldl max 1

theorem le_foldl_max (m : Nat) (ns : List Nat) : m ≤ ns.foldl max m := by
  induction ns generalizing m with
  | nil => exact Nat.le_refl m
  | cons n rest ih => exact (Nat.le_max_left m n).trans (ih (max m n))

theorem le_foldl_max_of_mem {m n : Nat} {ns : List Nat} (h : n ∈ ns) : n ≤ ns.foldl max m := by
  induction ns generalizing m with
  | nil => exact absurd h List.not_mem_nil
  | cons k rest ih =>
    rcases List.mem_cons.mp h with rfl | h
    · exact (Nat.le_max_right m n).trans (le_foldl_max (max m n) rest)
    · exact ih h

theorem foldl_max_le {k m : Nat} {ns : List Nat} (hk : k ≤ m) (h : ∀ n ∈ ns, n ≤ m) :
    ns.foldl max k ≤ m := by
  induction ns generalizing k with
  | nil => exact hk
  | cons n rest ih =>
    rw [List.forall_mem_cons] at h
    exact ih (Nat.max_le.mpr ⟨hk, h.1⟩) h.2

theorem one_le_largest (ns : List Nat) : 1 ≤ largest ns := le_foldl_max 1 ns

theorem le_largest {n : Nat} {ns : List Nat} (h : n ∈ ns) : n ≤ largest ns :=
  le_foldl_max_of_mem h

theorem largest_le {m : Nat} {ns : List Nat} (hm : 1 ≤ m) (h : ∀ n ∈ ns, n ≤ m) : largest ns ≤ m :=
  foldl_max_le hm h

theorem toNat_foldl_max (f : CellRef → UInt32) (m : UInt32) (cells : List CellRef) :
    (cells.foldl (fun m c => max m (f c)) m).toNat =
      (cells.map fun c => (f c).toNat).foldl max m.toNat := by
  induction cells generalizing m with
  | nil => rfl
  | cons c rest ih => rw [List.foldl_cons, ih, UInt32.toNat_max, List.map_cons, List.foldl_cons]

theorem largest_cons {n : Nat} (h : 1 ≤ n) (ns : List Nat) :
    largest (n :: ns) = ns.foldl max n := by
  rw [largest, List.foldl_cons, Nat.max_eq_right h]

theorem isProper_of_mem_cells {keys : List String} {cells : List CellRef}
    (h : keys.mapM CellRef.parse = .ok cells) : ∀ c ∈ cells, c.IsProper := by
  intro c hc
  obtain ⟨k, -, hk⟩ := exists_of_mem_right (mapM_eq_ok_iff.mp h) hc
  exact CellRef.isProper_of_parse hk

namespace Area

/-- A cell lies in an area. -/
def Contains (a : Area) (c : CellRef) : Prop :=
  (a.start.row ≤ c.row ∧ c.row ≤ a.finish.row) ∧ a.start.col ≤ c.col ∧ c.col ≤ a.finish.col

theorem contains_start (a : Area) : a.Contains a.start :=
  ⟨⟨UInt32.le_refl _, a.row_le⟩, UInt32.le_refl _, a.col_le⟩

theorem contains_finish (a : Area) : a.Contains a.finish :=
  ⟨⟨a.row_le, UInt32.le_refl _⟩, a.col_le, UInt32.le_refl _⟩

-- Areas with the same cells are the same.
theorem eq_of_contains_iff {a b : Area} (h : ∀ c, a.Contains c ↔ b.Contains c) : a = b := by
  obtain ⟨⟨hsrow, -⟩, hscol, -⟩ := (h a.start).mp a.contains_start
  obtain ⟨⟨-, hfrow⟩, -, hfcol⟩ := (h a.finish).mp a.contains_finish
  obtain ⟨⟨hsrow', -⟩, hscol', -⟩ := (h b.start).mpr b.contains_start
  obtain ⟨⟨-, hfrow'⟩, -, hfcol'⟩ := (h b.finish).mpr b.contains_finish
  obtain ⟨⟨srow, scol⟩, ⟨frow, fcol⟩, _, _⟩ := a
  obtain ⟨⟨srow', scol'⟩, ⟨frow', fcol'⟩, _, _⟩ := b
  have hs : srow = srow' := UInt32.le_antisymm hsrow' hsrow
  have hs' : scol = scol' := UInt32.le_antisymm hscol' hscol
  have hf : frow = frow' := UInt32.le_antisymm hfrow hfrow'
  have hf' : fcol = fcol' := UInt32.le_antisymm hfcol hfcol'
  subst hs hs' hf hf'
  rfl

theorem ofCorners_origin {c : CellRef} (h : c.IsProper) :
    (ofCorners origin c).start = origin ∧ (ofCorners origin c).finish = c := by
  obtain ⟨row, col⟩ := c
  have hrow : 1 ≤ row.toNat := h.1
  have hcol : 1 ≤ col.toNat := h.2
  have hmin (n : UInt32) (hn : 1 ≤ n.toNat) : min 1 n = 1 := by
    rw [← UInt32.toNat_inj, UInt32.toNat_min]
    exact Nat.min_eq_left hn
  have hmax (n : UInt32) (hn : 1 ≤ n.toNat) : max 1 n = n := by
    rw [← UInt32.toNat_inj, UInt32.toNat_max]
    exact Nat.max_eq_right hn
  simp only [ofCorners, origin, hmin row hrow, hmin col hcol, hmax row hrow, hmax col hcol,
    and_self]

-- The area for some cells: from `A1` to their largest row and their largest column.
theorem bounding_getD {cells : List CellRef} (h : ∀ c ∈ cells, c.IsProper) :
    ((bounding cells).getD (ofCorners origin origin)).start = origin ∧
      ((bounding cells).getD (ofCorners origin origin)).finish.row.toNat =
        largest (cells.map fun c => c.row.toNat) ∧
      ((bounding cells).getD (ofCorners origin origin)).finish.col.toNat =
        largest (cells.map fun c => c.col.toNat) := by
  cases cells with
  | nil => exact ⟨rfl, rfl, rfl⟩
  | cons c rest =>
    have hc := h c List.mem_cons_self
    have hrow := toNat_foldl_max CellRef.row c.row rest
    have hcol := toNat_foldl_max CellRef.col c.col rest
    rw [← largest_cons hc.1] at hrow
    rw [← largest_cons hc.2] at hcol
    have hcorner := ofCorners_origin (c := ⟨rest.foldl (fun m x => max m x.row) c.row,
      rest.foldl (fun m x => max m x.col) c.col⟩)
      ⟨by rw [hrow]; exact one_le_largest _, by rw [hcol]; exact one_le_largest _⟩
    simp only [bounding, Option.getD_some, List.map_cons]
    exact ⟨hcorner.1, by rw [hcorner.2, hrow], by rw [hcorner.2, hcol]⟩

end Area

/-- The cells of a rectangle from `A1`, row by row. -/
def rectangle (rows cols : Nat) : List CellRef :=
  (List.range' 1 rows).flatMap fun row =>
    (List.range' 1 cols).map fun col => ⟨UInt32.ofNat row, UInt32.ofNat col⟩

theorem mem_rectangle {rows cols : Nat} {c : CellRef} (hr : rows < 2 ^ 32) (hc : cols < 2 ^ 32) :
    c ∈ rectangle rows cols ↔
      c.IsProper ∧ c.row.toNat ≤ rows ∧ c.col.toNat ≤ cols := by
  simp only [rectangle, List.mem_flatMap, List.mem_map, List.mem_range'_1, CellRef.IsProper]
  have hsize : UInt32.size = 2 ^ 32 := rfl
  constructor
  · rintro ⟨row, hrow, col, hcol, rfl⟩
    have hrn : (UInt32.ofNat row).toNat = row := UInt32.toNat_ofNat_of_lt' (by omega)
    have hcn : (UInt32.ofNat col).toNat = col := UInt32.toNat_ofNat_of_lt' (by omega)
    simp only [hrn, hcn]
    omega
  · rintro ⟨⟨hrow, hcol⟩, hrows, hcols⟩
    refine ⟨c.row.toNat, by omega, c.col.toNat, by omega, ?_⟩
    rw [UInt32.ofNat_toNat, UInt32.ofNat_toNat]

namespace Area

theorem flatMap_cells_grid {a : Area} (h : a.start = origin) :
    a.grid.rows.flatMap GridRow.cells = rectangle a.finish.row.toNat a.finish.col.toNat := by
  have hspan (last : UInt32) : span 1 last = (List.range' 1 last.toNat).map UInt32.ofNat := rfl
  simp only [grid, h, origin, hspan, rectangle, List.flatMap_map, List.map_map]
  rfl

-- An area from `A1` on has all proper cells up to its last one.
theorem contains_iff_of_start {a : Area} {c : CellRef} (h : a.start = origin) :
    a.Contains c ↔
      c.IsProper ∧ c.row.toNat ≤ a.finish.row.toNat ∧ c.col.toNat ≤ a.finish.col.toNat := by
  simp only [Contains, h, origin, UInt32.le_iff_toNat_le, CellRef.IsProper]
  change ((1 ≤ _ ∧ _) ∧ 1 ≤ _ ∧ _) ↔ _
  omega

theorem contains_iff_mem_rectangle {a : Area} {c : CellRef} (h : a.start = origin) :
    a.Contains c ↔ c ∈ rectangle a.finish.row.toNat a.finish.col.toNat := by
  rw [contains_iff_of_start h, mem_rectangle a.finish.row.toNat_lt a.finish.col.toNat_lt]

end Area

end LinkedSheets
