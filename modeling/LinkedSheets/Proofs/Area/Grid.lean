import LinkedSheets.Proofs.Area.Extent

/-!
# Grids

The grid of an area is all of its cells in their order, cut into rows. Its measures are the numbers
that 32 and 64 bits hold, as long as rows and columns count from 1.
-/

namespace LinkedSheets.Area

variable {a : Area} {first last : UInt32}

/-- The numbers from `first` to `last`, counted without a bound. -/
def spanLength (first last : UInt32) : Nat := last.toNat + 1 - first.toNat

theorem length_span (first last : UInt32) : (span first last).length = spanLength first last := by
  rw [span, List.length_map, List.length_range', spanLength]

-- Between two numbers of 32 bits there is none that has more.
theorem toNat_ofNat_of_mem_range' {n : Nat}
    (h : n ∈ List.range' first.toNat (last.toNat + 1 - first.toNat)) :
    (UInt32.ofNat n).toNat = n := by
  have hlast := last.toNat_lt
  rw [List.mem_range'_1] at h
  exact UInt32.toNat_ofNat_of_lt' (show n < 2 ^ 32 by omega)

theorem mem_span {n : UInt32} : n ∈ span first last ↔ first ≤ n ∧ n ≤ last := by
  rw [span, List.mem_map, UInt32.le_iff_toNat_le, UInt32.le_iff_toNat_le]
  constructor
  · rintro ⟨k, hk, rfl⟩
    have htoNat := toNat_ofNat_of_mem_range' hk
    rw [List.mem_range'_1] at hk
    omega
  · intro h
    refine ⟨n.toNat, ?_, UInt32.ofNat_toNat⟩
    rw [List.mem_range'_1]
    omega

theorem pairwise_span (first last : UInt32) : (span first last).Pairwise (· < ·) := by
  rw [span, List.pairwise_map]
  refine List.Pairwise.imp_of_mem (fun {i j} hi hj hlt => ?_) List.pairwise_lt_range'
  rw [UInt32.lt_iff_toNat_lt, toNat_ofNat_of_mem_range' hi, toNat_ofNat_of_mem_range' hj]
  exact hlt

theorem sub_add_one_lt (last : UInt32) (hpos : 1 ≤ first.toNat) :
    last.toNat - first.toNat + 1 < 2 ^ 32 := by
  have hlast := last.toNat_lt
  omega

-- The count from one number to another wraps around only if it starts at zero.
theorem toNat_sub_add_one (hle : first ≤ last) (hpos : 1 ≤ first.toNat) :
    (last - first + 1).toNat = spanLength first last := by
  have hlt := sub_add_one_lt last hpos
  have hle' := UInt32.le_iff_toNat_le.mp hle
  have hone : (1 : UInt32).toNat = 1 := rfl
  rw [UInt32.toNat_add, UInt32.toNat_sub_of_le _ _ hle, hone, Nat.mod_eq_of_lt hlt, spanLength]
  omega

theorem toNat_width (h : a.start.IsProper) :
    a.width.toNat = spanLength a.start.col a.finish.col :=
  toNat_sub_add_one a.col_le h.2

theorem toNat_height (h : a.start.IsProper) :
    a.height.toNat = spanLength a.start.row a.finish.row :=
  toNat_sub_add_one a.row_le h.1

-- Two numbers of 32 bits have a product of 64 bits.
theorem width_mul_height_lt (a : Area) : a.width.toNat * a.height.toNat < 2 ^ 64 :=
  (Nat.mul_lt_mul'' a.width.toNat_lt a.height.toNat_lt).trans_eq (by norm_num)

theorem toNat_cellCount (a : Area) : a.cellCount.toNat = a.width.toNat * a.height.toNat := by
  rw [cellCount, UInt64.toNat_mul, UInt32.toNat_toUInt64, UInt32.toNat_toUInt64,
    Nat.mod_eq_of_lt a.width_mul_height_lt]

/-- The cells of an area, row by row. -/
def cells (a : Area) : List CellRef := a.grid.rows.flatMap GridRow.cells

theorem cells_eq (a : Area) :
    a.cells = (span a.start.row a.finish.row).flatMap fun row =>
      (span a.start.col a.finish.col).map fun col => ⟨row, col⟩ := by
  rw [cells, grid, List.flatMap_map]

theorem mem_cells {c : CellRef} : c ∈ a.cells ↔ a.Contains c := by
  obtain ⟨row, col⟩ := c
  simp only [cells_eq, List.mem_flatMap, List.mem_map, mem_span, CellRef.mk.injEq, Contains]
  constructor
  · rintro ⟨row, hrow, col, hcol, rfl, rfl⟩
    exact ⟨hrow, hcol⟩
  · rintro ⟨hrow, hcol⟩
    exact ⟨row, hrow, col, hcol, rfl, rfl⟩

-- Within a row the columns increase, and a later row has only later cells.
theorem pairwise_cells (a : Area) : a.cells.Pairwise (· < ·) := by
  rw [cells_eq, List.pairwise_flatMap]
  constructor
  · intro row _
    rw [List.pairwise_map]
    exact (pairwise_span _ _).imp fun hlt => Or.inr ⟨rfl, hlt⟩
  · apply (pairwise_span _ _).imp
    intro row row' hlt c hc d hd
    obtain ⟨col, -, rfl⟩ := List.mem_map.mp hc
    obtain ⟨col', -, rfl⟩ := List.mem_map.mp hd
    exact Or.inl hlt

theorem nodup_cells (a : Area) : a.cells.Nodup := by
  apply a.pairwise_cells.imp
  rintro c d (hrow | ⟨-, hcol⟩) rfl
  · exact UInt32.lt_irrefl _ hrow
  · exact UInt32.lt_irrefl _ hcol

theorem length_cells (a : Area) :
    a.cells.length = spanLength a.start.row a.finish.row * spanLength a.start.col a.finish.col := by
  simp only [cells_eq, List.length_flatMap, List.length_map, List.map_const', List.sum_replicate,
    length_span, smul_eq_mul]

theorem columns_grid (a : Area) :
    a.grid.columns = (span a.start.col a.finish.col).map Column.letters := rfl

theorem map_row_grid (a : Area) :
    a.grid.rows.map GridRow.row = span a.start.row a.finish.row := by
  rw [grid, List.map_map]
  exact List.map_id _

theorem mem_rows_grid {row : GridRow} (h : row ∈ a.grid.rows) :
    row.cells = (span a.start.col a.finish.col).map fun col => ⟨row.row, col⟩ := by
  obtain ⟨n, -, rfl⟩ := List.mem_map.mp h
  rfl

/-- Read row by row, a grid has the cells of its area in their order, each of them once. It has as
many columns, rows and cells as the area says, and every row has its cells below the labels of their
columns. -/
theorem grid_enumerates {a : Area} (h : a.start.IsProper) :
    (a.grid.rows.flatMap GridRow.cells).Pairwise (· < ·) ∧
    (a.grid.rows.flatMap GridRow.cells).Nodup ∧
    (∀ c, c ∈ a.grid.rows.flatMap GridRow.cells ↔ a.Contains c) ∧
    (a.grid.rows.flatMap GridRow.cells).length = a.cellCount.toNat ∧
    a.grid.columns.length = a.width.toNat ∧ a.grid.rows.length = a.height.toNat ∧
    ∀ row ∈ a.grid.rows, row.cells.length = a.width.toNat ∧ (∀ c ∈ row.cells, c.row = row.row) ∧
      row.cells.map CellRef.columnLetters = a.grid.columns := by
  refine ⟨a.pairwise_cells, a.nodup_cells, fun c => mem_cells, ?_, ?_, ?_, fun row hrow => ?_⟩
  · rw [toNat_cellCount, toNat_width h, toNat_height h, Nat.mul_comm]
    exact a.length_cells
  · rw [columns_grid, List.length_map, length_span, toNat_width h]
  · rw [← List.length_map GridRow.row, map_row_grid, length_span, toNat_height h]
  · rw [mem_rows_grid hrow]
    refine ⟨?_, fun c hc => ?_, ?_⟩
    · rw [List.length_map, length_span, toNat_width h]
    · obtain ⟨col, -, rfl⟩ := List.mem_map.mp hc
      rfl
    · rw [List.map_map, columns_grid]
      rfl

/-- The last four cells that there are, given by two corners the wrong way round. -/
def lastCells : Area := ofCorners ⟨4294967295, 4294967294⟩ ⟨4294967294, 4294967295⟩

theorem grid_enumerates_lastCells :
    lastCells.start.IsProper ∧ (lastCells.grid.rows.flatMap GridRow.cells).Nodup ∧
      (lastCells.grid.rows.flatMap GridRow.cells).length = 4 ∧
      (⟨4294967295, 4294967295⟩ : CellRef) ∈ lastCells.grid.rows.flatMap GridRow.cells := by
  have hproper : lastCells.start.IsProper := by decide +kernel
  have hcount : lastCells.cellCount.toNat = 4 := by decide +kernel
  obtain ⟨-, hnodup, hmem, hlength, -⟩ := grid_enumerates hproper
  refine ⟨hproper, hnodup, hlength.trans hcount, (hmem _).mpr ?_⟩
  exact lastCells.contains_finish

end LinkedSheets.Area
