/-! # Calendar dates

Days of the Gregorian calendar, extended to all years, and their numbers counted from the first of January
1970.  A year is taken to begin in March, so that a leap day comes last, and years are grouped in eras of 400
years, which all have the same number of days. -/

namespace Falsify

/-- A day of the calendar. -/
structure Date where
  year : Int
  month : Nat
  day : Nat
  deriving DecidableEq, Inhabited

namespace Date

/-- The number of days in an era. -/
def eraDays : Int := 146097

/-- The number of the first of January 1970, counted from the first of March of the year 0. -/
def epoch : Int := 719468

/-- Whether a year has a leap day. -/
def isLeapYear (year : Int) : Bool := year % 4 = 0 && (year % 100 ≠ 0 || year % 400 = 0)

/-- The number of days in a month of a year. -/
def monthDays (year : Int) : Nat → Nat
  | 2 => if isLeapYear year then 29 else 28
  | 4 | 6 | 9 | 11 => 30
  | 1 | 3 | 5 | 7 | 8 | 10 | 12 => 31
  | _ => 0

/-- Whether the calendar has the day. -/
def isValid (d : Date) : Bool := 1 ≤ d.day && d.day ≤ monthDays d.year d.month

/-- The number of a day, counted from the first of January 1970. -/
def dayNumber (d : Date) : Int :=
  let year := if d.month ≤ 2 then d.year - 1 else d.year
  let month : Int := if d.month ≤ 2 then d.month + 9 else d.month - 3
  let yearOfEra := year % 400
  -- Five months, of 31, 30, 31, 30 and 31 days, make 153 days.
  let dayOfYear := (153 * month + 2) / 5 + d.day - 1
  let dayOfEra := yearOfEra * 365 + yearOfEra / 4 - yearOfEra / 100 + dayOfYear
  year / 400 * eraDays + dayOfEra - epoch

/-- The day with a number. -/
def ofDayNumber (n : Int) : Date :=
  let n := n + epoch
  let dayOfEra := n % eraDays
  let yearOfEra := (dayOfEra - dayOfEra / 1460 + dayOfEra / 36524 - dayOfEra / 146096) / 365
  let dayOfYear := dayOfEra - (365 * yearOfEra + yearOfEra / 4 - yearOfEra / 100)
  let month := (5 * dayOfYear + 2) / 153
  let day := dayOfYear - (153 * month + 2) / 5 + 1
  let year := n / eraDays * 400 + yearOfEra
  if month < 10 then ⟨year, (month + 3).toNat, day.toNat⟩ else ⟨year + 1, (month - 9).toNat, day.toNat⟩

end Date

end Falsify
