import LinkedSheets.Cell.Error

/-!
# Columns

Columns are numbered from 1 and written in letters, a bijective numeration of base 26: `A` is 1, `Z`
is 26, `AA` is 27. A number has 32 bits.
-/

namespace LinkedSheets.Column

/-- Rows and columns lie below this bound. -/
def bound : Nat := Nat.pow 2 32

/-- The `i`-th capital letter, counted from zero. -/
def letter (i : Nat) : Char := Char.ofNat ('A'.toNat + i)

/-- `A` and `a` have the value 1, `Z` and `z` the value 26. -/
def letterValue (c : Char) : Nat := c.toUpper.toNat - 'A'.toNat + 1

def lettersOf : Nat → List Char
  | 0 => []
  | n + 1 => lettersOf (n / 26) ++ [letter (n % 26)]
termination_by n => n
decreasing_by exact Nat.lt_succ_of_le (Nat.div_le_self n 26)

/-- The letters of a column; zero has none. -/
def letters (column : UInt32) : String := String.ofList (lettersOf column.toNat)

/-- The number that letters write, whatever its size. -/
def value (cs : List Char) : Nat := cs.foldl (fun n c => n * 26 + letterValue c) 0

/-- Reads on after letters with the value `acc`. The first character that is no letter or makes the
number too large decides on the error, which holds the `whole` text. -/
def numberFrom (whole : String) (acc : Nat) : List Char → Except RefError UInt32
  | [] => .ok (UInt32.ofNat acc)
  | c :: rest =>
      if c.isAlpha then
        let next := acc * 26 + letterValue c
        if next < bound then numberFrom whole next rest else .error (.outOfRange whole)
      else .error (.invalid whole)

def number (text : String) : Except RefError UInt32 :=
  if text.isEmpty then .error (.invalid text) else numberFrom text 0 text.toList

end LinkedSheets.Column
