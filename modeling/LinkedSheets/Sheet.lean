import LinkedSheets.Area
import LinkedSheets.Formula.Node
import LinkedSheets.Table
import LinkedSheets.Value

/-!
# Sheets

A sheet holds values and formulae under keys. The key of a reference is the canonical text of its
cell, so that `$a$1` and `A01` address the cell `A1`; a text that is no reference is a key of its
own, and makes itself felt only when the extent of the sheet is asked for.
-/

namespace LinkedSheets

open Text

structure Sheet where
  name : String
  values : Table String CellValue
  formulae : Table String Node

namespace Sheet

def ofName (name : String) : Sheet := ⟨name, .empty, .empty⟩

/-- The key under which a reference is stored. -/
def key (reference : String) : String :=
  match CellRef.parse reference with
  | .ok cell => cell.text
  | .error _ =>
      String.ofList ((stripAbsolute (trimmed reference)).toList.map Char.toUpper)

def putValue (s : Sheet) (reference : String) (v : CellValue) : Sheet :=
  { s with values := s.values.put (key reference) v }

def putFormula (s : Sheet) (reference : String) (n : Node) : Sheet :=
  { s with formulae := s.formulae.put (key reference) n }

def value? (s : Sheet) (cell : CellRef) : Option CellValue := s.values.get? cell.text

def formula? (s : Sheet) (cell : CellRef) : Option Node := s.formulae.get? cell.text

/-- The bounding area of the cells that have a value. -/
def extent (s : Sheet) : Except RefError (Option Area) := Area.boundingKeys s.values.keys

end Sheet

end LinkedSheets
