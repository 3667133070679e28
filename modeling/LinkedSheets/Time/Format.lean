import LinkedSheets.Time.Moment

/-!
# Timestamp formats

A format is a text in which `%` begins a directive for a part of a moment, as in `%Y-%m-%d`. A
format is valid if all its directives are known; a moment can be written in it if, besides, none of
them only makes sense when reading.
-/

namespace LinkedSheets

open Text

namespace TimeFormat

/-- How a number is filled up to its width. -/
inductive Pad where
  | none
  | zero
  | space
deriving DecidableEq

inductive Field where
  | year
  | century
  | yearOfCentury
  | isoYear
  | isoYearOfCentury
  | quarter
  | month
  | day
  | weekFromSunday
  | weekFromMonday
  | isoWeek
  | daysFromSunday
  | weekday
  | dayOfYear
  | hour
  | hour12
  | minute
  | second
  | nanosecond
  | epochSeconds
deriving DecidableEq

/-- How far an offset is written. -/
inductive OffsetStyle where
  | hours
  | minutes (colon : Bool)
  | seconds
deriving DecidableEq

inductive Item where
  | literal (c : Char)
  | number (field : Field) (pad : Pad)
  | weekdayName (long : Bool)
  | monthName (long : Bool)
  | meridiem (capital : Bool)
  /-- A fraction of a second with so many digits. -/
  | fraction (digits : Nat) (point : Bool)
  /-- The point and three, six or nine digits, or nothing if the fraction is zero. -/
  | shortFraction
  | zoneName
  | offset (style : OffsetStyle)
  /-- An offset that is read leniently and cannot be written. -/
  | lenientOffset
  | standard
  | unknown
deriving DecidableEq

-- The number that a letter stands for, with the filling that goes with it.
def numberOf? (c : Char) : Option (Field × Pad) :=
  match c with
  | 'Y' => some (.year, .zero)
  | 'C' => some (.century, .zero)
  | 'y' => some (.yearOfCentury, .zero)
  | 'G' => some (.isoYear, .zero)
  | 'g' => some (.isoYearOfCentury, .zero)
  | 'q' => some (.quarter, .none)
  | 'm' => some (.month, .zero)
  | 'd' => some (.day, .zero)
  | 'e' => some (.day, .space)
  | 'U' => some (.weekFromSunday, .zero)
  | 'W' => some (.weekFromMonday, .zero)
  | 'V' => some (.isoWeek, .zero)
  | 'w' => some (.daysFromSunday, .none)
  | 'u' => some (.weekday, .none)
  | 'j' => some (.dayOfYear, .zero)
  | 'H' => some (.hour, .zero)
  | 'k' => some (.hour, .space)
  | 'I' => some (.hour12, .zero)
  | 'l' => some (.hour12, .space)
  | 'M' => some (.minute, .zero)
  | 'S' => some (.second, .zero)
  | 'f' => some (.nanosecond, .zero)
  | 's' => some (.epochSeconds, .none)
  | _ => none

def num (field : Field) : Item := .number field .zero

def hourMinute : List Item := [num .hour, .literal ':', num .minute]

def clock : List Item := hourMinute ++ [.literal ':', num .second]

def monthDayYear : List Item :=
  [num .month, .literal '/', num .day, .literal '/', num .yearOfCentury]

-- The items of a directive of one letter that is no number.
def lettered (c : Char) : List Item :=
  match c with
  | 'A' => [.weekdayName true]
  | 'a' => [.weekdayName false]
  | 'B' => [.monthName true]
  | 'b' => [.monthName false]
  | 'h' => [.monthName false]
  | 'D' => monthDayYear
  | 'x' => monthDayYear
  | 'F' => [num .year, .literal '-', num .month, .literal '-', num .day]
  | 'R' => hourMinute
  | 'T' => clock
  | 'X' => clock
  | 'r' =>
      [num .hour12, .literal ':', num .minute, .literal ':', num .second, .literal ' ',
        .meridiem true]
  | 'c' =>
      [.weekdayName false, .literal ' ', .monthName false, .literal ' ', .number .day .space,
        .literal ' '] ++ clock ++ [.literal ' ', num .year]
  | 'v' =>
      [.number .day .space, .literal '-', .monthName false, .literal '-', num .year]
  | 'P' => [.meridiem false]
  | 'p' => [.meridiem true]
  | 'Z' => [.zoneName]
  | 'z' => [.offset (.minutes false)]
  | '+' => [.standard]
  | 't' => [.literal '\t']
  | 'n' => [.literal '\n']
  | '%' => [.literal '%']
  | _ => [.unknown]

def directive (c : Char) : List Item :=
  match numberOf? c with
  | some (field, pad) => [.number field pad]
  | none => lettered c

-- Only numbers can be filled up in another way than their own.
def repadded (pad : Pad) (c : Char) : List Item :=
  match numberOf? c with
  | some (field, _) => [.number field pad]
  | none => [.unknown]

-- The items of a format. What follows an unknown directive does not count.
def items : List Char → List Item
  | [] => []
  | '%' :: '-' :: c :: rest => repadded .none c ++ items rest
  | '%' :: '0' :: c :: rest => repadded .zero c ++ items rest
  | '%' :: '_' :: c :: rest => repadded .space c ++ items rest
  | '%' :: '#' :: 'z' :: rest => .lenientOffset :: items rest
  | '%' :: ':' :: ':' :: ':' :: 'z' :: rest => .offset .hours :: items rest
  | '%' :: ':' :: ':' :: 'z' :: rest => .offset .seconds :: items rest
  | '%' :: ':' :: 'z' :: rest => .offset (.minutes true) :: items rest
  | '%' :: '.' :: '3' :: 'f' :: rest => .fraction 3 true :: items rest
  | '%' :: '.' :: '6' :: 'f' :: rest => .fraction 6 true :: items rest
  | '%' :: '.' :: '9' :: 'f' :: rest => .fraction 9 true :: items rest
  | '%' :: '.' :: 'f' :: rest => .shortFraction :: items rest
  | '%' :: '3' :: 'f' :: rest => .fraction 3 false :: items rest
  | '%' :: '6' :: 'f' :: rest => .fraction 6 false :: items rest
  | '%' :: '9' :: 'f' :: rest => .fraction 9 false :: items rest
  | ['%'] => [.unknown]
  | '%' :: c :: rest => directive c ++ items rest
  | c :: rest => .literal c :: items rest

def isValid (format : String) : Bool := !(items format.toList).contains .unknown

def weekdayNames : List String :=
  ["Monday", "Tuesday", "Wednesday", "Thursday", "Friday", "Saturday", "Sunday"]

def monthNames : List String :=
  ["January", "February", "March", "April", "May", "June", "July", "August", "September",
    "October", "November", "December"]

def nameAt (names : List String) (long : Bool) (i : Nat) : List Char :=
  let name := (names.getD i "").toList
  if long then name else name.take 3

-- An integer filled up to `width` characters, its sign being one of them.
def writeInt (pad : Pad) (width : Nat) (i : Int) : List Char :=
  let sign := if i < 0 then ['-'] else []
  let ds := digits i.natAbs
  match pad with
  | .none => sign ++ ds
  | .zero => sign ++ padded '0' (width - sign.length) ds
  | .space => padded ' ' width (sign ++ ds)

/-- A year has four digits at least. Years that need another number of digits, or a sign, are always
written with a sign. -/
def writeYear (pad : Pad) (year : Int) : List Char :=
  if 0 ≤ year && year < 10000 then writeInt pad 4 year
  else
    let sign := if year < 0 then '-' else '+'
    let ds := digits year.natAbs
    match pad with
    | .none => sign :: ds
    | .zero => sign :: padded '0' 4 ds
    | .space => padded ' ' 5 (sign :: ds)

def two (n : Nat) : List Char := padded '0' 2 (digits n)

def writeField (t : Moment) (pad : Pad) : Field → List Char
  | .year => writeYear pad t.date.year
  | .century => writeInt pad 2 (t.date.year / 100)
  | .yearOfCentury => writeInt pad 2 (t.date.year % 100)
  | .isoYear => writeYear pad t.date.isoWeek.1
  | .isoYearOfCentury => writeInt pad 2 (t.date.isoWeek.1 % 100)
  | .quarter => digits t.date.quarter
  | .month => writeInt pad 2 t.date.month
  | .day => writeInt pad 2 t.date.day
  | .weekFromSunday => writeInt pad 2 t.date.weekFromSunday
  | .weekFromMonday => writeInt pad 2 t.date.weekFromMonday
  | .isoWeek => writeInt pad 2 t.date.isoWeek.2
  | .daysFromSunday => digits t.date.daysFromSunday
  | .weekday => digits (t.date.daysFromMonday + 1)
  | .dayOfYear => writeInt pad 3 t.date.ordinal
  | .hour => writeInt pad 2 t.hour
  | .hour12 => writeInt pad 2 ((t.hour + 11) % 12 + 1)
  | .minute => writeInt pad 2 t.minute
  | .second => writeInt pad 2 t.second
  | .nanosecond => writeInt pad 9 t.nanosecond
  | .epochSeconds => writeInt pad 9 t.epochSeconds

-- The first `count` of the nine digits after the point of the seconds.
def fractionDigits (t : Moment) (count : Nat) : List Char :=
  (padded '0' 9 (digits t.nanosecond)).take count

def shortFraction (t : Moment) : List Char :=
  if t.nanosecond = 0 then []
  else if t.nanosecond % 1000000 = 0 then '.' :: fractionDigits t 3
  else if t.nanosecond % 1000 = 0 then '.' :: fractionDigits t 6
  else '.' :: fractionDigits t 9

def offsetSign (offset : Int) : Char := if offset < 0 then '-' else '+'

-- Seconds round to the nearest minute where minutes are the end, and are cut off otherwise.
def writeOffset (offset : Int) : OffsetStyle → List Char
  | .hours => offsetSign offset :: two (offset.natAbs / 3600)
  | .minutes colon =>
      let minutes := (offset.natAbs + 30) / 60
      offsetSign offset :: two (minutes / 60) ++ (if colon then [':'] else []) ++ two (minutes % 60)
  | .seconds =>
      let seconds := offset.natAbs
      offsetSign offset :: two (seconds / 3600) ++ ':' :: two (seconds / 60 % 60) ++
        ':' :: two (seconds % 60)

-- Zones have no names but their offsets.
def zoneName (offset : Int) : List Char :=
  let seconds := offset.natAbs
  offsetSign offset :: two (seconds / 3600) ++ ':' :: two (seconds / 60 % 60) ++
    (if seconds % 60 = 0 then [] else ':' :: two (seconds % 60))

-- Date, time and offset as in `2024-02-29T23:59:59.123-03:30`.
def standardText (t : Moment) : List Char :=
  writeYear .zero t.date.year ++ '-' :: two t.date.month ++ '-' :: two t.date.day ++
    'T' :: two t.hour ++ ':' :: two t.minute ++ ':' :: two t.second ++ shortFraction t ++
    writeOffset t.offset (.minutes true)

def writeItem? (t : Moment) : Item → Option (List Char)
  | .literal c => some [c]
  | .number field pad => some (writeField t pad field)
  | .weekdayName long => some (nameAt weekdayNames long t.date.daysFromMonday)
  | .monthName long => some (nameAt monthNames long (t.date.month - 1))
  | .meridiem capital =>
      let text := if t.hour < 12 then "am" else "pm"
      some (if capital then text.toList.map Char.toUpper else text.toList)
  | .fraction digits point => some ((if point then ['.'] else []) ++ fractionDigits t digits)
  | .shortFraction => some (shortFraction t)
  | .zoneName => some (zoneName t.offset)
  | .offset style => some (writeOffset t.offset style)
  | .lenientOffset => none
  | .standard => some (standardText t)
  | .unknown => none

-- A moment in a format, if all items of the format can be written.
def write? (format : String) (t : Moment) : Option String :=
  ((items format.toList).mapM (writeItem? t)).map fun texts => String.ofList texts.flatten

end TimeFormat

end LinkedSheets
