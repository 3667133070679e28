import LinkedSheets.Text.Digits

/-!
# Decimal numbers

`coefficient * 10 ^ exponent`, and reading one from digits with an optional fraction and exponent.
-/

namespace LinkedSheets

structure Decimal where
  coefficient : Nat
  exponent : Int
deriving DecidableEq

namespace Decimal

open Text

-- The number with digits `whole` before and `fraction` after the point, times ten to `scale`.
def ofParts (whole fraction : List Char) (scale : Int) : Decimal :=
  ⟨ofDigits (whole ++ fraction), scale - fraction.length⟩

/-- An integer of digits alone with an optional sign. However many digits it has, it is taken as it
is, so that the nearest binary number is that of the numeral itself. -/
def readScale? (cs : List Char) : Option Int :=
  let unsigned (ds : List Char) : Option Nat :=
    if ds.isEmpty || !ds.all Char.isDigit then none else some (ofDigits ds)
  match cs with
  | '-' :: ds => (unsigned ds).map fun n => -(n : Int)
  | '+' :: ds => (unsigned ds).map Int.ofNat
  | ds => (unsigned ds).map Int.ofNat

/-- An unsigned number as `12`, `1.5`, `.5`, `1.` or any of these followed by `e` and an integer.
One digit at least stands before or after the point. -/
def read? (cs : List Char) : Option Decimal :=
  let whole := cs.takeWhile Char.isDigit
  let afterWhole := cs.dropWhile Char.isDigit
  let (fraction, rest) := match afterWhole with
    | '.' :: more => (more.takeWhile Char.isDigit, more.dropWhile Char.isDigit)
    | _ => ([], afterWhole)
  if whole.isEmpty && fraction.isEmpty then none
  else match rest with
    | [] => some (ofParts whole fraction 0)
    | c :: more =>
        if c = 'e' ∨ c = 'E' then (readScale? more).map (ofParts whole fraction) else none

end Decimal

end LinkedSheets
