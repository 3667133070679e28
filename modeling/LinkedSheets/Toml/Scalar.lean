import LinkedSheets.Number.Binary64
import LinkedSheets.Text.Hex
import LinkedSheets.Time.Moment

/-!
# TOML scalars other than strings

Truth values, integers, floating point numbers, dates and times. Only whether they are well formed
is of interest.
-/

namespace LinkedSheets.Toml

open Text

-- The characters that such a scalar may consist of, a space inside a date and time apart.
def isScalarChar (c : Char) : Bool :=
  c.isAlphanum || c = '_' || c = '+' || c = '-' || c = '.' || c = ':'

def withoutSign : List Char → List Char
  | '+' :: cs => cs
  | '-' :: cs => cs
  | cs => cs

-- Digits of some kind, with single underscores between them.
def ungroup? (isDigit : Char → Bool) : List Char → Option (List Char)
  | [] => none
  | [c] => if isDigit c then some [c] else none
  | c :: '_' :: cs => if isDigit c then (ungroup? isDigit cs).map (c :: ·) else none
  | c :: cs => if isDigit c then (ungroup? isDigit cs).map (c :: ·) else none

-- Decimal digits without leading zeros.
def wholePart? (cs : List Char) : Option (List Char) := do
  let ds ← ungroup? Char.isDigit cs
  if ds.head? = some '0' ∧ ds ≠ ['0'] then none else some ds

def greatestInteger : Nat := Nat.pow 2 63 - 1

def isDecimalInteger (cs : List Char) : Bool :=
  match wholePart? (withoutSign cs) with
  | none => false
  | some ds =>
      ofDigits ds ≤ (if cs.head? = some '-' then greatestInteger + 1 else greatestInteger)

def valueIn (base : Nat) (ds : List Char) : Nat :=
  ds.foldl (fun n c => n * base + (hexValue? c).getD 0) 0

def isBasedInteger (base : Nat) (cs : List Char) : Bool :=
  match ungroup? (fun c => (hexValue? c).any (· < base)) cs with
  | none => false
  | some ds => valueIn base ds ≤ greatestInteger

def isInteger : List Char → Bool
  | '0' :: 'x' :: cs => isBasedInteger 16 cs
  | '0' :: 'o' :: cs => isBasedInteger 8 cs
  | '0' :: 'b' :: cs => isBasedInteger 2 cs
  | cs => isDecimalInteger cs

def isExponentMark (c : Char) : Bool := c = 'e' || c = 'E'

-- A fraction, an exponent, or both, after the whole part.
def isTail : List Char → Bool
  | '.' :: cs =>
      let fraction := cs.takeWhile (fun c => !isExponentMark c)
      (ungroup? Char.isDigit fraction).isSome &&
        match cs.dropWhile (fun c => !isExponentMark c) with
        | [] => true
        | _ :: scale => (ungroup? Char.isDigit (withoutSign scale)).isSome
  | c :: scale => isExponentMark c && (ungroup? Char.isDigit (withoutSign scale)).isSome
  | [] => false

-- A number may lie below all that have a finite form, but not above them.
def isFloat (cs : List Char) : Bool :=
  let unsigned := withoutSign cs
  if unsigned = "inf".toList || unsigned = "nan".toList then true
  else
    let isWhole (c : Char) : Bool := c.isDigit || c = '_'
    (wholePart? (unsigned.takeWhile isWhole)).isSome && isTail (unsigned.dropWhile isWhole) &&
      match Binary64.read? (cs.filter (· ≠ '_')) with
      | some (.finite ..) => true
      | some (.infinite negative) => negative
      | _ => false

def daysIn (year month : Nat) : Nat :=
  if month = 2 then (if Date.isLeap year then 29 else 28)
  else if month ∈ [4, 6, 9, 11] then 30 else 31

-- A date; the rest follows it.
def takeDate? (cs : List Char) : Option (List Char) := do
  let (year, rest) ← Moment.readNumber? 4 cs
  let (month, rest) ← Moment.readNumber? 2 (← Moment.readMark? '-' rest)
  let (day, rest) ← Moment.readNumber? 2 (← Moment.readMark? '-' rest)
  if 1 ≤ month ∧ month ≤ 12 ∧ 1 ≤ day ∧ day ≤ daysIn year month then some rest else none

-- A time of day; the rest follows it.
def takeTime? (cs : List Char) : Option (List Char) := do
  let (hour, rest) ← Moment.readNumber? 2 cs
  let (minute, rest) ← Moment.readNumber? 2 (← Moment.readMark? ':' rest)
  let (second, rest) ← Moment.readNumber? 2 (← Moment.readMark? ':' rest)
  if 24 ≤ hour ∨ 60 ≤ minute ∨ 60 < second then none
  else match rest with
    | '.' :: more =>
        if (more.takeWhile Char.isDigit).isEmpty then none else some (more.dropWhile Char.isDigit)
    | _ => some rest

def isOffset : List Char → Bool
  | [c] => c = 'Z' || c = 'z'
  | sign :: cs =>
      (sign = '+' || sign = '-') &&
        match Moment.readNumber? 2 cs with
        | some (hours, ':' :: more) =>
            match Moment.readNumber? 2 more with
            | some (minutes, []) => hours < 24 && minutes < 60
            | _ => false
        | _ => false
  | [] => false

def isDateOrTime (cs : List Char) : Bool :=
  match takeDate? cs with
  | some [] => true
  | some (mark :: rest) =>
      (mark = 'T' || mark = 't' || mark = ' ') &&
        match takeTime? rest with
        | some [] => true
        | some offset => isOffset offset
        | none => false
  | none => takeTime? cs = some []

def isScalar (cs : List Char) : Bool :=
  cs = "true".toList || cs = "false".toList || isInteger cs || isFloat cs || isDateOrTime cs

/-- The characters of a scalar at the beginning of a text, and the rest. A date may be followed by a
space and a time. -/
def spanScalar (cs : List Char) : List Char × List Char :=
  let token := cs.takeWhile isScalarChar
  let rest := cs.dropWhile isScalarChar
  match rest with
  | ' ' :: c :: more =>
      if takeDate? token = some [] && c.isDigit then
        (token ++ ' ' :: (c :: more).takeWhile isScalarChar, (c :: more).dropWhile isScalarChar)
      else (token, rest)
  | _ => (token, rest)

end LinkedSheets.Toml
