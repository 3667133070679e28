import LinkedSheets.Cell.Column
import LinkedSheets.Text.Blank
import LinkedSheets.Text.Digits

/-!
# Cell references

A reference is the letters of a column followed by the number of a row, as in `B12`. Dollar signs,
which mark a part as absolute, may stand anywhere and mean nothing here.
-/

namespace LinkedSheets

open Text

/-- Rows and columns count from 1. -/
structure CellRef where
  row : UInt32
  col : UInt32
deriving DecidableEq

/-- A text without its dollar signs. -/
def stripAbsolute (s : String) : String := String.ofList (s.toList.filter (· ≠ '$'))

namespace CellRef

/-- Cells are ordered as a page shows them: by row, and by column within a row. -/
def lt (a b : CellRef) : Prop := a.row < b.row ∨ a.row = b.row ∧ a.col < b.col

instance : LT CellRef := ⟨lt⟩

instance (a b : CellRef) : Decidable (a < b) :=
  inferInstanceAs (Decidable (a.row < b.row ∨ a.row = b.row ∧ a.col < b.col))

def columnLetters (c : CellRef) : String := Column.letters c.col

/-- The canonical text of a cell. -/
def text (c : CellRef) : String := c.columnLetters ++ natText c.row.toNat

/-- The letters, as capitals, and the row number of a reference. -/
def split (reference : String) : Except RefError (String × UInt32) :=
  let body := (stripAbsolute (trimmed reference)).toList
  let letters := body.takeWhile Char.isAlpha
  let numerals := body.dropWhile Char.isAlpha
  if letters.isEmpty || numerals.isEmpty || !numerals.all Char.isDigit then
    .error (.invalid reference)
  else
    let row := ofDigits numerals
    if Column.bound ≤ row then .error (.outOfRange reference)
    else if row = 0 then .error (.invalid reference)
    else .ok (String.ofList (letters.map Char.toUpper), UInt32.ofNat row)

def parse (reference : String) : Except RefError CellRef := do
  let (letters, row) ← split reference
  let col ← Column.number letters
  return ⟨row, col⟩

end CellRef

end LinkedSheets
