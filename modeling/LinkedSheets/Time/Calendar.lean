/-!
# Calendar

Dates of the Gregorian calendar, which is also used for the years before it, and their places in the
week, the year and the week-based year.
-/

namespace LinkedSheets

/-- Months and days count from 1; there is a year zero. -/
structure Date where
  year : Int
  month : Nat
  day : Nat
deriving DecidableEq

namespace Date

def isLeap (year : Int) : Bool := year % 4 = 0 && (year % 100 ≠ 0 || year % 400 = 0)

-- The days of a common year before the month.
def daysBefore (month : Nat) : Nat :=
  [0, 31, 59, 90, 120, 151, 181, 212, 243, 273, 304, 334].getD (month - 1) 0

-- The number of the day in its year, from 1.
def ordinal (d : Date) : Nat :=
  daysBefore d.month + d.day + (if 2 < d.month && isLeap d.year then 1 else 0)

-- The days between the first of January of the year 1 and that of a year.
def daysToYear (year : Int) : Int :=
  let y := year - 1
  365 * y + y / 4 - y / 100 + y / 400

-- The days since the first of January 1970.
def toEpochDays (d : Date) : Int := daysToYear d.year + d.ordinal - 1 - daysToYear 1970

-- The days since the last Monday.
def daysFromMonday (d : Date) : Nat := ((d.toEpochDays + 3) % 7).toNat

def daysFromSunday (d : Date) : Nat := (d.daysFromMonday + 1) % 7

-- Weeks begin on Sundays; the days before the first Sunday are in week zero.
def weekFromSunday (d : Date) : Nat := (d.ordinal + 6 - d.daysFromSunday) / 7

-- Weeks begin on Mondays; the days before the first Monday are in week zero.
def weekFromMonday (d : Date) : Nat := (d.ordinal + 6 - d.daysFromMonday) / 7

-- A year has 53 weeks if it begins or ends on a Thursday, and 52 otherwise.
def weeksInYear (year : Int) : Nat :=
  if daysFromMonday ⟨year, 1, 1⟩ = 3 || daysFromMonday ⟨year, 12, 31⟩ = 3 then 53 else 52

/-- The week-based year and the week in it. The first week of a year is the one with its first
Thursday, so that the days around New Year may belong to a neighbouring year. -/
def isoWeek (d : Date) : Int × Nat :=
  let week := (d.ordinal + 9 - d.daysFromMonday) / 7
  if week = 0 then (d.year - 1, weeksInYear (d.year - 1))
  else if weeksInYear d.year < week then (d.year + 1, 1)
  else (d.year, week)

def quarter (d : Date) : Nat := (d.month - 1) / 3 + 1

-- The month in which the day of a year lies.
def monthOf (leap : Bool) (dayOfYear : Nat) : Nat :=
  let before (month : Nat) : Nat := daysBefore month + (if 2 < month && leap then 1 else 0)
  ((List.range 12).filter fun i => before (i + 1) < dayOfYear).length

-- The date that lies some days after the first of January 1970.
def ofEpochDays (days : Int) : Date :=
  let fromYear1 := days + daysToYear 1970
  -- The mean length of a year is off by less than one year over any span.
  let guess := fromYear1 * 400 / 146097 + 1
  let year :=
    if fromYear1 < daysToYear guess then guess - 1
    else if daysToYear (guess + 1) ≤ fromYear1 then guess + 1
    else guess
  let dayOfYear := (fromYear1 - daysToYear year).toNat + 1
  let month := monthOf (isLeap year) dayOfYear
  ⟨year, month, dayOfYear - (ordinal ⟨year, month, 0⟩)⟩

end Date

end LinkedSheets
