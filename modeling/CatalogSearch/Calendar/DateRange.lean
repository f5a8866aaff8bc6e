import CatalogSearch.Calendar.Instant
import CatalogSearch.Codec.Record

/-!
# Date ranges

A range of instants in milliseconds, both ends included, and the ranges described as the last so
many units of time.
-/

namespace CatalogSearch

/-- A range of milliseconds since 1970. -/
structure DateRange where
  earliest : Int64
  latest : Int64
deriving DecidableEq

/-- A unit of time. -/
inductive TimeUnit where
  | minutes
  | hours
  | days
  | weeks
  | months
  | years
deriving DecidableEq

/-- The last `count` units of time. -/
structure RelativeDate where
  unit : TimeUnit
  count : Int64
deriving DecidableEq

namespace DateRange

/-- Whether an instant lies in a range, whose ends belong to it. -/
def contains (range : DateRange) (milliseconds : Int64) : Bool :=
  range.earliest ≤ milliseconds && milliseconds ≤ range.latest

/-- The written form of a range, which names its type. -/
def toJson (range : DateRange) : Json :=
  .object [("type", .string "date-range"), ("from", .number (.ofInt64 range.earliest)),
    ("to", .number (.ofInt64 range.latest))]

/-- A range from its two ends. Other members, the type among them, are left aside. -/
def decode : Decoder DateRange :=
  ((Record.done mk).andThen (Record.required "from" Decode.signed64)
    |>.andThen (Record.required "to" Decode.signed64)).decode "DateRange" false

end DateRange

namespace TimeUnit

/-- The units by name, in the order in which an error lists them. -/
def named : List (String × TimeUnit) :=
  [("minutes", .minutes), ("hours", .hours), ("days", .days), ("weeks", .weeks),
    ("months", .months), ("years", .years)]

/-- The unit with the given name, if there is one. -/
def ofName? (name : String) : Option TimeUnit :=
  named.lookup name

/-- The name of a unit in a query. -/
def name : TimeUnit → String
  | .minutes => "minutes"
  | .hours => "hours"
  | .days => "days"
  | .weeks => "weeks"
  | .months => "months"
  | .years => "years"

/-- A unit is written as its name. -/
def toJson (unit : TimeUnit) : Json :=
  .string unit.name

/-- A unit from its name. -/
def decode : Decoder TimeUnit :=
  Decode.variant named

/-- How a unit reaches back: by a number of milliseconds or by a number of months. -/
inductive Step where
  | milliseconds (count : Int)
  | months (count : Int)

/-- The step of one unit. -/
def step : TimeUnit → Step
  | .minutes => .milliseconds 60000
  | .hours => .milliseconds 3600000
  | .days => .milliseconds 86400000
  | .weeks => .milliseconds 604800000
  | .months => .months 1
  | .years => .months 12

end TimeUnit

namespace RelativeDate

/-- The written form of a relative date, which names its type. -/
def toJson (relative : RelativeDate) : Json :=
  .object [("type", .string "relative-date"), ("unit", relative.unit.toJson),
    ("num", .number (.ofInt64 relative.count))]

/-- A relative date from its unit and its number. Other members are left aside. -/
def decode : Decoder RelativeDate :=
  ((Record.done mk).andThen (Record.required "unit" TimeUnit.decode)
    |>.andThen (Record.required "num" Decode.signed64)).decode "RelativeDate" false

/-- The beginning of the range that ends now. Products and differences that leave 64 bits stop at
the last number, and months outside the calendar at its first instant. -/
def beginning (relative : RelativeDate) (now : Instant) : Int64 :=
  match relative.unit.step with
  | .milliseconds count =>
      saturate (now.milliseconds - (saturate (relative.count.toInt * count)).toInt)
  | .months count =>
      let begun := now.monthsBefore? (saturate (relative.count.toInt * count)).toInt
      saturate (begun.getD .earliest).milliseconds

/-- The range that ends now. -/
def resolve (relative : RelativeDate) (now : Instant) : DateRange :=
  ⟨relative.beginning now, saturate now.milliseconds⟩

end RelativeDate

end CatalogSearch
