import LinkedSheets.Cell.Reference
import LinkedSheets.Text.Lines

/-!
# Areas

Rectangles of cells, and their cells laid out row by row.
-/

namespace LinkedSheets

open Text

/-- A rectangle given by its top left and its bottom right cell. -/
structure Area where
  start : CellRef
  finish : CellRef
  row_le : start.row ≤ finish.row
  col_le : start.col ≤ finish.col
deriving DecidableEq

/-- One row of a grid. -/
structure GridRow where
  row : UInt32
  cells : List CellRef

structure Grid where
  columns : List String
  rows : List GridRow

theorem min_le_max (a b : UInt32) : min a b ≤ max a b := by
  rw [UInt32.le_iff_toNat_le]
  simp only [min, max]
  split <;> simp_all [UInt32.le_iff_toNat_le]
  omega

namespace Area

/-- The rectangle with two given corners. -/
def ofCorners (a b : CellRef) : Area where
  start := ⟨min a.row b.row, min a.col b.col⟩
  finish := ⟨max a.row b.row, max a.col b.col⟩
  row_le := min_le_max _ _
  col_le := min_le_max _ _

/-- Two references with a colon between them, or one. -/
def parse (text : String) : Except RefError Area :=
  let body := trim text.toList
  match splitOnce ':' body with
  | some (first, second) => do
      let a ← CellRef.parse (String.ofList first)
      let b ← CellRef.parse (String.ofList second)
      return ofCorners a b
  | none => do
      let c ← CellRef.parse (String.ofList body)
      return ofCorners c c

/-- The first cell of a sheet. -/
def origin : CellRef := ⟨1, 1⟩

/-- The rectangle from `A1` to the largest row and the largest column of some cells. -/
def bounding : List CellRef → Option Area
  | [] => none
  | c :: rest =>
      let row := rest.foldl (fun m x => max m x.row) c.row
      let col := rest.foldl (fun m x => max m x.col) c.col
      some (ofCorners origin ⟨row, col⟩)

/-- The bounding area of references; the first one that cannot be read is the error. -/
def boundingKeys (keys : List String) : Except RefError (Option Area) := do
  let cells ← keys.mapM CellRef.parse
  return bounding cells

def width (a : Area) : UInt32 := a.finish.col - a.start.col + 1

def height (a : Area) : UInt32 := a.finish.row - a.start.row + 1

def cellCount (a : Area) : UInt64 := a.width.toUInt64 * a.height.toUInt64

def text (a : Area) : String := a.start.text ++ ":" ++ a.finish.text

/-- The numbers from `first` to `last`, both included. -/
def span (first last : UInt32) : List UInt32 :=
  (List.range' first.toNat (last.toNat + 1 - first.toNat)).map UInt32.ofNat

def grid (a : Area) : Grid :=
  let cols := span a.start.col a.finish.col
  { columns := cols.map Column.letters
    rows := (span a.start.row a.finish.row).map fun row => ⟨row, cols.map fun col => ⟨row, col⟩⟩ }

end Area

end LinkedSheets
