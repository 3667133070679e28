/-!
# Hexadecimal digits
-/

namespace LinkedSheets.Text

/-- A digit of base sixteen; the letters are capitals. -/
def hexDigit (d : Nat) : Char :=
  if d < 10 then Char.ofNat ('0'.toNat + d) else Char.ofNat ('A'.toNat + (d - 10))

def hexValue? (c : Char) : Option Nat :=
  if '0' ≤ c ∧ c ≤ '9' then some (c.toNat - '0'.toNat)
  else if 'A' ≤ c ∧ c ≤ 'F' then some (c.toNat - 'A'.toNat + 10)
  else if 'a' ≤ c ∧ c ≤ 'f' then some (c.toNat - 'a'.toNat + 10)
  else none

/-- The base sixteen digits of a number, in small letters and without leading zeros. -/
def hexDigits (n : Nat) : List Char :=
  if n < 16 then [(hexDigit n).toLower] else hexDigits (n / 16) ++ [(hexDigit (n % 16)).toLower]
termination_by n

/-- The number that hexadecimal digits of either case write. -/
def ofHex? (cs : List Char) : Option Nat :=
  cs.foldlM (fun n c => (hexValue? c).map (n * 16 + ·)) 0

theorem hexValue?_hexDigit {d : Nat} (h : d < 16) : hexValue? (hexDigit d) = some d := by
  match d, h with
  | 0, _ | 1, _ | 2, _ | 3, _ | 4, _ | 5, _ | 6, _ | 7, _ | 8, _ | 9, _ => decide
  | 10, _ | 11, _ | 12, _ | 13, _ | 14, _ | 15, _ => decide
  | d + 16, h => omega

end LinkedSheets.Text
