import LinkedSheets.Number.Decimal
import LinkedSheets.Number.Rounding

/-!
# Binary floating point numbers of 64 bits

The numbers are kept as sign, mantissa and exponent, and every operation is an exact one followed by
a rounding to the nearest number, so that what a literal or a product denotes can be computed and
reasoned about in whole numbers.
-/

namespace LinkedSheets

/-- A finite number is `mantissa * 2 ^ exponent` with its sign. In those that the operations below
produce the mantissa is below `2 ^ 53`, the exponent between `-1074` and `971`, and the mantissa
reaches `2 ^ 52` unless the exponent is the least one. -/
inductive Binary64 where
  | nan
  | infinite (negative : Bool)
  | finite (negative : Bool) (mantissa : Nat) (exponent : Int)
deriving DecidableEq

namespace Binary64

def leastExponent : Int := -1074
def greatestExponent : Int := 971
def precision : Nat := 53

def zero (negative : Bool) : Binary64 := .finite negative 0 leastExponent

-- `num / den` measured in units of `2 ^ unit`, again as a quotient.
def inUnits (num den : Nat) (unit : Int) : Nat × Nat :=
  if 0 ≤ unit then (num, den * Nat.pow 2 unit.toNat) else (num * Nat.pow 2 (-unit).toNat, den)

/-- The exponent of the grid that `num / den` is rounded on: the one on which it has `precision`
binary digits before the point, or the least exponent if that is larger. -/
def gridExponent (num den : Nat) : Int :=
  -- On the grid `low` the quotient lies between `2 ^ (precision - 1)` and `2 ^ (precision + 1)`.
  let low : Int := (num.log2 : Int) - den.log2 - precision
  let (n, d) := inUnits num den low
  max (if n / d < Nat.pow 2 precision then low else low + 1) leastExponent

-- The number with a given sign and magnitude; too large a magnitude is infinite.
def make (negative : Bool) (mantissa : Nat) (exponent : Int) : Binary64 :=
  -- Rounding up can produce one binary digit more than there is room for.
  let (m, e) := if mantissa = Nat.pow 2 precision then (Nat.pow 2 (precision - 1), exponent + 1)
    else (mantissa, exponent)
  if e ≤ greatestExponent then .finite negative m e else .infinite negative

-- The number nearest to `num / den`; a half goes to the even mantissa.
def ofRatio (negative : Bool) (num den : Nat) : Binary64 :=
  if num = 0 then zero negative
  else
    let unit := gridExponent num den
    let (n, d) := inUnits num den unit
    make negative (roundHalfEven n d) unit

-- Decimals beyond this power of ten are larger than any finite number.
def largestScale : Int := 400

/-- The number nearest to a decimal. The first two cases, which are beyond all finite numbers and
nearer to zero than to any other number, only save computing a large power of ten. -/
def ofDecimal (negative : Bool) (d : Decimal) : Binary64 :=
  if d.coefficient = 0 then zero negative
  else if largestScale < d.exponent then .infinite negative
  else if (d.coefficient.log2 : Int) + 1 + 3 * d.exponent < leastExponent - 1 then zero negative
  else if 0 ≤ d.exponent then ofRatio negative (d.coefficient * Nat.pow 10 d.exponent.toNat) 1
  else ofRatio negative d.coefficient (Nat.pow 10 (-d.exponent).toNat)

def ofInt (i : Int) : Binary64 := ofDecimal (i < 0) ⟨i.natAbs, 0⟩

-- The product with a whole number, rounded to nearest.
def scale (factor : Nat) : Binary64 → Binary64
  | .nan => .nan
  | .infinite negative => .infinite negative
  | .finite negative m e =>
      if 0 ≤ e then ofRatio negative (m * factor * Nat.pow 2 e.toNat) 1
      else ofRatio negative (m * factor) (Nat.pow 2 (-e).toNat)

-- The integer nearest to the magnitude of `mantissa * 2 ^ exponent`; a half goes up.
def nearestInteger (mantissa : Nat) (exponent : Int) : Nat :=
  if 0 ≤ exponent then mantissa * Nat.pow 2 exponent.toNat
  else roundHalfUp mantissa (Nat.pow 2 (-exponent).toNat)

open Text in
/-- A number as written: a decimal, `inf`, `infinity` or `nan` in letters of either case, and before
any of these an optional sign. -/
def read? (cs : List Char) : Option Binary64 :=
  let unsigned (negative : Bool) (cs : List Char) : Option Binary64 :=
    let word := cs.map Char.toLower
    if word = "inf".toList ∨ word = "infinity".toList then some (.infinite negative)
    else if word = "nan".toList then some .nan
    else (Decimal.read? cs).map (ofDecimal negative)
  match cs with
  | '-' :: rest => unsigned true rest
  | '+' :: rest => unsigned false rest
  | _ => unsigned false cs

end Binary64

end LinkedSheets
