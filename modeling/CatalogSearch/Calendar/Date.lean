/-!
# Calendar dates

Dates of the Gregorian calendar, extended to all years, and their distance in days from the first of
January 1970. Months and days are counted from zero.
-/

namespace CatalogSearch

/-- A date of the calendar. -/
structure Date where
  year : Int
  month : Nat
  day : Nat
deriving DecidableEq

namespace Date

/-- Every fourth year is a leap year, except for those centuries that 400 does not divide. -/
def isLeap (year : Int) : Bool :=
  year % 4 == 0 && (year % 100 != 0 || year % 400 == 0)

/-- The lengths of the months from January on. -/
def monthLengths (leap : Bool) : List Nat :=
  [31, if leap then 29 else 28, 31, 30, 31, 30, 31, 31, 30, 31, 30, 31]

/-- The number of days from the first day of the year 1 to that of another year. -/
def daysBeforeYear (year : Int) : Int :=
  365 * (year - 1) + (year - 1) / 4 - (year - 1) / 100 + (year - 1) / 400

/-- The number of days of a year before one of its months. -/
def daysBeforeMonth (leap : Bool) (month : Nat) : Nat :=
  ((monthLengths leap).take month).foldr (· + ·) 0

/-- The day count of the first day of the year 1970 since that of the year 1. -/
def epochDay : Int := 719162

/-- The number of days since the first of January 1970. -/
def toDay (date : Date) : Int :=
  daysBeforeYear date.year + daysBeforeMonth (isLeap date.year) date.month + date.day - epochDay

/-- The year of the given day since the first of the year 1. The quotient is right or off by one. -/
def yearOfDay (day : Int) : Int :=
  let year := 400 * day / 146097 + 1
  if day < daysBeforeYear year then year - 1
  else if daysBeforeYear (year + 1) ≤ day then year + 1
  else year

/-- Splits a day of the year into a month and a day of the month. -/
def splitMonths : List Nat → Nat → Nat × Nat
  | [], day => (0, day)
  | length :: rest, day =>
      if day < length then (0, day)
      else
        let (month, remainder) := splitMonths rest (day - length)
        (month + 1, remainder)

/-- The date of the given day since the first of January 1970. -/
def ofDay (day : Int) : Date :=
  let year := yearOfDay (day + epochDay)
  let dayOfYear := (day + epochDay - daysBeforeYear year).toNat
  let (month, dayOfMonth) := splitMonths (monthLengths (isLeap year)) dayOfYear
  ⟨year, month, dayOfMonth⟩

end Date

end CatalogSearch
