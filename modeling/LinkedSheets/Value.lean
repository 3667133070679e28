import LinkedSheets.Number.Binary64
import LinkedSheets.Text.Blank

/-!
# Cell values

An evaluated value is a kind and a literal text. Numbers are shown rounded to an integer, all other
values as they are written.
-/

namespace LinkedSheets

open Text

inductive ValueKind where
  | number
  | text
  | boolean
  | error
  | other (name : String)
deriving DecidableEq

def ValueKind.ofName (name : String) : ValueKind :=
  if name = "number" ∨ name = "numeric" then .number
  else if name = "string" ∨ name = "text" then .text
  else if name = "boolean" ∨ name = "boolean_true" ∨ name = "boolean_false" then .boolean
  else if name = "error" then .error
  else .other name

structure CellValue where
  kind : ValueKind
  literal : String
deriving DecidableEq

/-- The nearest integer in digits, a half going away from zero. Zero has no sign. -/
def Binary64.roundedText : Binary64 → String
  | .nan => "#NAN!"
  | .infinite _ => "#INF!"
  | .finite negative mantissa exponent =>
      let n := nearestInteger mantissa exponent
      if negative ∧ n ≠ 0 then "-" ++ natText n else natText n

/-- The text that a page shows. A number that cannot be read is shown as written. -/
def CellValue.shown (v : CellValue) : String :=
  match v.kind with
  | .number =>
      match Binary64.read? (trim v.literal.toList) with
      | some n => n.roundedText
      | none => v.literal
  | _ => v.literal

end LinkedSheets
