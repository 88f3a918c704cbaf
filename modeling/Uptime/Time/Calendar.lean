/-!
# The proleptic Gregorian calendar

Dates and the number of days since 1970-01-01. A year is counted from March here, so that the leap
day is its last day; an era is 400 such years, 146097 days. Laws relating `Date.dayNumber` and
`Date.ofDayNumber` belong to the time theory.
-/

namespace Uptime

/-- A date; months and days count from one. -/
structure Date where
  year : Int
  month : Nat
  day : Nat
deriving DecidableEq, Repr

namespace Date

/-- Whether February has 29 days. -/
def isLeapYear (year : Int) : Bool := year % 4 == 0 && (year % 100 != 0 || year % 400 == 0)

/-- The number of days of a month. -/
def daysInMonth (year : Int) (month : Nat) : Nat :=
  if month = 2 then if isLeapYear year then 29 else 28
  else if month = 4 || month = 6 || month = 9 || month = 11 then 30
  else 31

/-- The years that can be represented. -/
def firstYear : Int := -262143
def lastYear : Int := 262142

/-- Whether the date exists in the calendar and its year can be represented. -/
def isValid (d : Date) : Bool :=
  firstYear ≤ d.year && d.year ≤ lastYear && 1 ≤ d.month && d.month ≤ 12 &&
    1 ≤ d.day && d.day ≤ daysInMonth d.year d.month

/-- Days of the year, counted from March, before the month with that number from March. -/
def daysBeforeMonth (fromMarch : Nat) : Nat := (153 * fromMarch + 2) / 5

/-- The number of days since 1970-01-01. -/
def dayNumber (d : Date) : Int :=
  let year := if d.month ≤ 2 then d.year - 1 else d.year
  let dayOfYear := daysBeforeMonth ((d.month + 9) % 12) + d.day - 1
  let yearOfEra := year % 400
  year / 400 * 146097 + (yearOfEra * 365 + yearOfEra / 4 - yearOfEra / 100 + dayOfYear) - 719468

/-- The date that many days after 1970-01-01. -/
def ofDayNumber (n : Int) : Date :=
  let n := n + 719468
  let dayOfEra := (n % 146097).toNat
  let yearOfEra := (dayOfEra - dayOfEra / 1460 + dayOfEra / 36524 - dayOfEra / 146096) / 365
  let dayOfYear := dayOfEra - (365 * yearOfEra + yearOfEra / 4 - yearOfEra / 100)
  let fromMarch := (5 * dayOfYear + 2) / 153
  let month := if fromMarch < 10 then fromMarch + 3 else fromMarch - 9
  { year := n / 146097 * 400 + yearOfEra + if month ≤ 2 then 1 else 0
    month := month
    day := dayOfYear - daysBeforeMonth fromMarch + 1 }

end Date

end Uptime
