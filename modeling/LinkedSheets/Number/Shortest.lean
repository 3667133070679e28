import LinkedSheets.Number.Binary64

/-!
# Shortest decimals

The decimal with the fewest digits among those that lie nearer to a binary number than to any other
binary number, and of these the nearest; where two are equally near, a rule for halves decides. A
decimal half way to a neighbour counts if the mantissa is even, since reading it goes to the even
one.
-/

namespace LinkedSheets.Binary64

/-- How far decimals may lie from `mantissa * 2 ^ exponent`, in quarters of `2 ^ exponent`: below a
power of two the neighbours are twice as close. -/
def quartersBelow (mantissa : Nat) (exponent : Int) : Nat :=
  if mantissa = Nat.pow 2 (precision - 1) ∧ leastExponent < exponent then 1 else 2

/-- Factors `a` and `b` for which `d * 10 ^ power` and `k * 2 ^ exponent / 4` compare as `d * a` and
`k * b`. -/
def commonScale (power exponent : Int) : Nat × Nat :=
  let quarter := exponent - 2
  (Nat.pow 10 power.toNat * Nat.pow 2 (-quarter).toNat,
    Nat.pow 10 (-power).toNat * Nat.pow 2 quarter.toNat)

/-- A multiple of `10 ^ power` that reads back as the number: the nearer one of its two neighbours
on that decimal grid, if any is close enough. -/
def decimalAt? (half : HalfRule) (mantissa : Nat) (exponent power : Int) : Option Nat :=
  let m := mantissa
  let (a, b) := commonScale power exponent
  let least := (4 * m - quartersBelow m exponent) * b
  let greatest := (4 * m + 2) * b
  let value := 4 * m * b
  let isClose (d : Nat) : Bool :=
    if m % 2 = 0 then least ≤ d * a && d * a ≤ greatest else least < d * a && d * a < greatest
  let below := value / a
  let above := below + 1
  if isClose below && isClose above then some (half.round value a)
  else if isClose below then some below
  else if isClose above then some above
  else none

-- The first grid with such a decimal, from `10 ^ power` towards finer ones.
def searchGrid (half : HalfRule) (mantissa : Nat) (exponent : Int) : Nat → Int → Decimal
  | 0, power =>
      let (a, b) := commonScale power exponent
      ⟨4 * mantissa * b / a, power⟩
  | fuel + 1, power =>
      match decimalAt? half mantissa exponent power with
      | some d => ⟨d, power⟩
      | none => searchGrid half mantissa exponent fuel (power - 1)

-- The shortest decimal of `mantissa * 2 ^ exponent`, which is not zero.
def shortest (half : HalfRule) (mantissa : Nat) (exponent : Int) : Decimal :=
  -- Seventeen digits always suffice, and the first grid is coarser than the number.
  let start := ((mantissa.log2 : Int) + 1 + exponent) * 30103 / 100000 + 2
  searchGrid half mantissa exponent 24 start

end LinkedSheets.Binary64
