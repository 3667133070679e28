import LinkedSheets.Number.Shortest

/-!
# Layouts of numbers

How the digits of a number are laid out. Each use has its layout as a value.
-/

namespace LinkedSheets

open Text

structure NumberLayout where
  /-- Whether a number whose first digit has this power of ten is written without exponent. -/
  isPositional : Int → Bool
  /-- Whether a whole number ends in `.0`. -/
  pointZero : Bool
  /-- Which of two decimals of the same length is written that are equally near to the number. -/
  half : HalfRule

namespace NumberLayout

-- The digits of a decimal with a point among, before or after them.
def positional (pointZero : Bool) (digits : List Char) (exponent : Int) : List Char :=
  if 0 ≤ exponent then
    digits ++ List.replicate exponent.toNat '0' ++ (if pointZero then ['.', '0'] else [])
  else
    let places := (-exponent).toNat
    if places < digits.length then
      digits.take (digits.length - places) ++ '.' :: digits.drop (digits.length - places)
    else '0' :: '.' :: List.replicate (places - digits.length) '0' ++ digits

-- One digit, the others after a point, and the power of ten of the first with its sign.
def scientific (digits : List Char) (power : Int) : List Char :=
  let mantissa := match digits with
    | [] => []
    | [d] => [d]
    | d :: more => d :: '.' :: more
  mantissa ++ 'e' :: (if power < 0 then '-' else '+') :: Text.digits power.natAbs

def decimal (layout : NumberLayout) (d : Decimal) : List Char :=
  let ds := digits d.coefficient
  let power := d.exponent + ds.length - 1
  if layout.isPositional power then positional layout.pointZero ds d.exponent
  else scientific ds power

def signed (negative : Bool) (cs : List Char) : List Char := if negative then '-' :: cs else cs

def write (layout : NumberLayout) : Binary64 → List Char
  | .nan => "NaN".toList
  | .infinite negative => signed negative "inf".toList
  | .finite negative mantissa exponent =>
      signed negative <|
        if mantissa = 0 then layout.decimal ⟨0, 0⟩
        else layout.decimal (Binary64.shortest layout.half mantissa exponent)

end NumberLayout

end LinkedSheets
