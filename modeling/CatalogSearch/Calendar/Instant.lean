import CatalogSearch.Calendar.Date

/-!
# Instants

An instant is a day and a time of this day in universal time, down to nanoseconds, within the years
that the calendar covers. Outside it is known by the milliseconds since the first moment of 1970.
-/

namespace CatalogSearch

namespace Calendar

/-- The first year of the calendar. -/
def firstYear : Int := -262143

/-- The last year of the calendar. -/
def lastYear : Int := 262142

/-- The first day of the calendar, since the first of January 1970. -/
def firstDay : Int := Date.toDay ⟨firstYear, 0, 0⟩

/-- The last day of the calendar, since the first of January 1970. -/
def lastDay : Int := Date.toDay ⟨lastYear, 11, 30⟩

/-- The number of seconds of a day. -/
def secondsPerDay : Nat := 86400

/-- The number of milliseconds of a day. -/
def millisecondsPerDay : Int := 86400000

end Calendar

/-- A time of a day: its second and the nanoseconds into it. A leap second belongs to the second
before it, which then has twice as many nanoseconds. -/
structure TimeOfDay where
  second : Nat
  nanosecond : Nat
  inDay : second < Calendar.secondsPerDay
  inSecond : nanosecond < 2000000000
deriving DecidableEq

namespace TimeOfDay

/-- The beginning of a day. -/
def midnight : TimeOfDay :=
  ⟨0, 0, by decide, by decide⟩

/-- The whole milliseconds since midnight. -/
def milliseconds (time : TimeOfDay) : Nat :=
  1000 * time.second + time.nanosecond / 1000000

end TimeOfDay

/-- An instant within the calendar: a day, counted from the first of January 1970, and a time. -/
structure Instant where
  day : Int
  time : TimeOfDay
  notBefore : Calendar.firstDay ≤ day
  notAfter : day ≤ Calendar.lastDay
deriving DecidableEq

namespace Instant

/-- The first instant of the calendar. -/
def earliest : Instant :=
  ⟨Calendar.firstDay, .midnight, by decide, by decide⟩

/-- The first instant of the year 1970. -/
def epoch : Instant :=
  ⟨0, .midnight, by decide, by decide⟩

/-- The whole milliseconds since the first instant of 1970. -/
def milliseconds (instant : Instant) : Int :=
  instant.day * Calendar.millisecondsPerDay + instant.time.milliseconds

/-- The date of an instant. -/
def date (instant : Instant) : Date :=
  Date.ofDay instant.day

/-- The instant at a time of a day, if the calendar covers the day. -/
def onDay? (day : Int) (time : TimeOfDay) : Option Instant :=
  if covered : Calendar.firstDay ≤ day ∧ day ≤ Calendar.lastDay then
    some ⟨day, time, covered.1, covered.2⟩
  else
    none

/-- The instant the given number of months earlier, at the same time of day. A day that the target
month does not have counts on into the next month. There is none outside the calendar. -/
def monthsBefore? (instant : Instant) (months : Int) : Option Instant :=
  let date := instant.date
  let total := 12 * date.year + date.month - months
  let year := total / 12
  if Calendar.firstYear ≤ year ∧ year ≤ Calendar.lastYear then
    onDay? (Date.toDay ⟨year, (total % 12).toNat, 0⟩ + date.day) instant.time
  else
    none

end Instant

end CatalogSearch
