import LinkedSheets.Number.Layout
import LinkedSheets.Text.Digits
import LinkedSheets.Text.Hex

/-!
# JSON values and their text

Whole numbers of 64 bits, with or without sign, are kept exactly, all others as binary floating
point numbers. Objects keep their fields in order.
-/

namespace LinkedSheets

open Text

inductive JsonNumber where
  | integer (value : Int)
  | float (value : Binary64)
deriving DecidableEq

inductive Json where
  | null
  | bool (value : Bool)
  | number (value : JsonNumber)
  | string (value : String)
  | array (items : List Json)
  | object (fields : List (String × Json))

namespace JsonNumber

/-- Numbers have a fraction, or from ten to the sixteenth on and below a hundred-thousandth an
exponent. The last digit of two equally near decimals is even. -/
def layout : NumberLayout where
  isPositional power := -5 ≤ power && power < 16
  pointZero := true
  half := .toEven

def text : JsonNumber → String
  | .integer i => intText i
  | .float x => String.ofList (layout.write x)

def leastInteger : Int := -Int.ofNat (Nat.pow 2 63)
def greatestInteger : Int := Int.ofNat (Nat.pow 2 64) - 1

/-- The number that a literal denotes, given by its digits before and after the point and by its
power of ten, where it has them. Minus zero is no integer. Numbers that are too large are none.

A binary number is the nearest one, rounded once. A reader that rounds twice, by scaling the leading
digits with a rounded power of ten, agrees with this only for the literals that it rounds correctly:
it takes `1.1e-30` for the number above the nearest. -/
def ofLiteral? (negative : Bool) (whole : List Char) (fraction : Option (List Char))
    (scale : Option Int) : Option JsonNumber :=
  let float : Option JsonNumber :=
    match Binary64.ofDecimal negative (.ofParts whole (fraction.getD []) (scale.getD 0)) with
    | .finite sign m e => some (.float (.finite sign m e))
    | _ => none
  if fraction.isSome || scale.isSome then float
  else
    let n : Nat := ofDigits whole
    if negative then
      if n ≠ 0 ∧ leastInteger ≤ -(n : Int) then some (.integer (-(n : Int))) else float
    else if (n : Int) ≤ greatestInteger then some (.integer n) else float

end JsonNumber

namespace Json

def escapeChar (c : Char) : List Char :=
  if c = '"' then ['\\', '"']
  else if c = '\\' then ['\\', '\\']
  else if c = '\n' then ['\\', 'n']
  else if c = '\r' then ['\\', 'r']
  else if c = '\t' then ['\\', 't']
  else if c = '\x08' then ['\\', 'b']
  else if c = '\x0c' then ['\\', 'f']
  else if c.toNat < 0x20 then ['\\', 'u'] ++ padded '0' 4 (hexDigits c.toNat)
  else [c]

def writeString (s : String) : String :=
  "\"" ++ String.ofList (s.toList.flatMap escapeChar) ++ "\""

def commaSeparated (texts : List String) : String := String.intercalate "," texts

mutual

-- The text of a value without any space.
def write : Json → String
  | .null => "null"
  | .bool true => "true"
  | .bool false => "false"
  | .number n => n.text
  | .string s => writeString s
  | .array items => "[" ++ commaSeparated (writeItems items) ++ "]"
  | .object fields => "\x7b" ++ commaSeparated (writeFields fields) ++ "\x7d"

def writeItems : List Json → List String
  | [] => []
  | j :: rest => write j :: writeItems rest

def writeFields : List (String × Json) → List String
  | [] => []
  | (k, j) :: rest => (writeString k ++ ":" ++ write j) :: writeFields rest

end

def isContainer : Json → Bool
  | .array _ => true
  | .object _ => true
  | _ => false

-- A value as a literal: strings stand for themselves and null is empty.
def literal : Json → String
  | .string s => s
  | .null => ""
  | j => j.write

end Json

end LinkedSheets
