import LinkedSheets.Text.Digits
import LinkedSheets.Time.Calendar

/-!
# Moments

A point in time as a clock shows it, with the clock's offset from universal time.
-/

namespace LinkedSheets

open Text

/-- A leap second is second 60. The offset is in seconds and positive east of Greenwich. -/
structure Moment where
  date : Date
  hour : Nat
  minute : Nat
  second : Nat
  nanosecond : Nat
  offset : Int
deriving DecidableEq

namespace Moment

-- The seconds since 1970 in universal time, in which a leap second has no number of its own.
def epochSeconds (t : Moment) : Int :=
  t.date.toEpochDays * 86400 + t.hour * 3600 + t.minute * 60 + min t.second 59 - t.offset

-- What a clock with a given offset shows that many seconds after 1970.
def ofEpoch (seconds : Int) (nanosecond : Nat) (offset : Int) : Moment :=
  let shown := seconds + offset
  let ofDay := (shown % 86400).toNat
  { date := .ofEpochDays (shown / 86400)
    hour := ofDay / 3600
    minute := ofDay / 60 % 60
    second := ofDay % 60
    nanosecond := nanosecond
    offset := offset }

-- A number of exactly `count` digits.
def readNumber? (count : Nat) (cs : List Char) : Option (Nat × List Char) :=
  let ds := cs.take count
  if ds.length = count && ds.all Char.isDigit then some (ofDigits ds, cs.drop count) else none

def readMark? (mark : Char) : List Char → Option (List Char)
  | c :: rest => if c = mark then some rest else none
  | [] => none

-- An offset as `Z` or as hours and minutes with a sign.
def readOffset? : List Char → Option Int
  | [c] => if c = 'Z' ∨ c = 'z' then some 0 else none
  | sign :: rest => do
      let (hours, rest) ← readNumber? 2 rest
      let rest ← readMark? ':' rest
      let (minutes, rest) ← readNumber? 2 rest
      if rest.isEmpty then
        let seconds : Int := hours * 3600 + minutes * 60
        if sign = '+' then some seconds else if sign = '-' then some (-seconds) else none
      else none
  | [] => none

-- A fraction of a second; digits beyond the ninth are dropped.
def readNanoseconds (cs : List Char) : Nat × List Char :=
  match cs with
  | '.' :: rest =>
      let ds := rest.takeWhile Char.isDigit
      (ofDigits (ds ++ List.replicate (9 - ds.length) '0' |>.take 9), rest.dropWhile Char.isDigit)
  | _ => (0, cs)

-- What stands between a date and a time: a `T` or a space.
def readDateEnd? : List Char → Option (List Char)
  | c :: rest => if c = 'T' ∨ c = 't' ∨ c = ' ' then some rest else none
  | [] => none

-- A moment as in `2024-02-29T23:59:59.5-03:30`.
def read? (text : String) : Option Moment := do
  let (year, rest) ← readNumber? 4 text.toList
  let (month, rest) ← readNumber? 2 (← readMark? '-' rest)
  let (day, rest) ← readNumber? 2 (← readMark? '-' rest)
  let (hour, rest) ← readNumber? 2 (← readDateEnd? rest)
  let (minute, rest) ← readNumber? 2 (← readMark? ':' rest)
  let (second, rest) ← readNumber? 2 (← readMark? ':' rest)
  let (nanosecond, rest) := readNanoseconds rest
  let offset ← readOffset? rest
  return ⟨⟨year, month, day⟩, hour, minute, second, nanosecond, offset⟩

end Moment

end LinkedSheets
