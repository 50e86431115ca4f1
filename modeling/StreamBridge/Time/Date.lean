/-! Dates of the Gregorian calendar, extended to all years, and the days since 1970-01-01 that they
number. Years are counted from March inside, so that a leap day ends its year. -/

namespace StreamBridge.Time

/-- A date: the year may be zero or negative. -/
structure Date where
  year : Int
  month : Nat
  day : Nat
deriving DecidableEq, Repr

/-- Whether a year has a leap day. -/
def isLeapYear (year : Int) : Bool := year % 4 == 0 && (year % 100 != 0 || year % 400 == 0)

/-- The days of a month. -/
def daysInMonth (year : Int) (month : Nat) : Nat :=
  if month == 2 then if isLeapYear year then 29 else 28
  else if month == 4 || month == 6 || month == 9 || month == 11 then 30
  else 31

/-- Whether a date is one of the calendar. -/
def Date.exists (date : Date) : Bool :=
  1 ≤ date.month && date.month ≤ 12 && 1 ≤ date.day && date.day ≤ daysInMonth date.year date.month

/-- The days of four hundred years. -/
def daysInEra : Nat := 146097

/-- The days from 0000-03-01 to 1970-01-01. -/
def epochShift : Int := 719468

/-- The days before a month of a year that starts in March; months are counted from zero. -/
def daysBeforeMonth (month : Nat) : Nat := (153 * month + 2) / 5

/-- The day of a date within four hundred years that start on a first of March; the year is counted
within them. -/
def dayOfEra (year month day : Nat) : Nat :=
  year * 365 + year / 4 - year / 100 + daysBeforeMonth month + day

/-- The days since 1970-01-01 that a date numbers. -/
def Date.toDays (date : Date) : Int :=
  let year := if date.month ≤ 2 then date.year - 1 else date.year
  let month := if date.month ≤ 2 then date.month + 9 else date.month - 3
  (year / 400) * daysInEra + dayOfEra (year % 400).toNat month (date.day - 1) - epochShift

/-- The year within four hundred that a day of them lies in. -/
def yearOfEra (day : Nat) : Nat := (day - day / 1460 + day / 36524 - day / 146096) / 365

/-- The date of a day number. -/
def Date.ofDays (days : Int) : Date :=
  let shifted := days + epochShift
  let day := (shifted % daysInEra).toNat
  let year := yearOfEra day
  let dayOfYear := day - (365 * year + year / 4 - year / 100)
  let month := (5 * dayOfYear + 2) / 153
  { year := (shifted / daysInEra) * 400 + year + (if month < 10 then 0 else 1)
    month := if month < 10 then month + 3 else month - 9
    day := dayOfYear - daysBeforeMonth month + 1 }

end StreamBridge.Time
