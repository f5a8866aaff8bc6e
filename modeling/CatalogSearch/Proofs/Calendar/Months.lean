import CatalogSearch.Calendar.Instant
import Mathlib.Order.Monotone.Basic

/-!
# Days and months of the calendar

Every day has one date (`Date.toDay_ofDay`, `Date.ofDay_toDay`). The months of all years are
numbered in one sequence, and a month begins as many days after the one before it as that one has
(`Date.firstOfMonth_succ`), so the beginnings of months are in order.
-/

namespace CatalogSearch

namespace Date

/-- The number of days of a year. -/
def yearLength (leap : Bool) : Nat :=
  if leap then 366 else 365

/-- Every year begins as many days after the year before as that one has. -/
theorem daysBeforeYear_succ (year : Int) :
    daysBeforeYear (year + 1) = daysBeforeYear year + yearLength (isLeap year) := by
  unfold daysBeforeYear yearLength isLeap
  by_cases four : year % 4 = 0 <;> by_cases hundred : year % 100 = 0 <;>
    by_cases fourHundred : year % 400 = 0 <;> simp [four, hundred, fourHundred] <;> omega

/-- The year of a day begins no later than the day, and the next one after it. -/
theorem yearOfDay_bounds (day : Int) :
    daysBeforeYear (yearOfDay day) ≤ day ∧ day < daysBeforeYear (yearOfDay day + 1) := by
  unfold yearOfDay
  dsimp only
  split
  · unfold daysBeforeYear at *
    omega
  · split <;> unfold daysBeforeYear at * <;> omega

/-- The number of days of a month, which is counted from zero. -/
def monthLength (leap : Bool) (month : Nat) : Nat :=
  (monthLengths leap).getD month 0

/-- A month has between 28 and 31 days. -/
theorem monthLength_bounds (leap : Bool) {month : Nat} (inside : month < 12) :
    28 ≤ monthLength leap month ∧ monthLength leap month ≤ 31 := by
  revert month leap
  decide

/-- Every month begins as many days after the month before as that one has. -/
theorem daysBeforeMonth_succ (leap : Bool) {month : Nat} (inside : month < 12) :
    daysBeforeMonth leap (month + 1) = daysBeforeMonth leap month + monthLength leap month := by
  revert month leap
  decide

/-- The months of a year make up the year. -/
theorem daysBeforeMonth_twelve (leap : Bool) :
    daysBeforeMonth leap 12 = yearLength leap := by
  cases leap <;> rfl

/-- A day of a year is split into a month and a day that this month has. -/
theorem splitMonths_bounds {lengths : List Nat} {day : Nat}
    (inside : day < lengths.foldr (· + ·) 0) :
    (splitMonths lengths day).1 < lengths.length ∧
      (splitMonths lengths day).2 < lengths.getD (splitMonths lengths day).1 0 ∧
      (lengths.take (splitMonths lengths day).1).foldr (· + ·) 0 + (splitMonths lengths day).2 =
        day := by
  induction lengths generalizing day with
  | nil => exact absurd inside (Nat.not_lt_zero day)
  | cons length rest ih =>
      unfold splitMonths
      split
      · rename_i first
        exact ⟨Nat.succ_pos _, first, by simp⟩
      · rename_i later
        rw [List.foldr_cons] at inside
        obtain ⟨month, remainder, whole⟩ := ih (show day - length < _ by omega)
        refine ⟨Nat.succ_lt_succ month, remainder, ?_⟩
        rw [List.take_succ_cons, List.foldr_cons, Nat.add_assoc, whole]
        omega

/-- Whether the month is one of the twelve and has the day. -/
structure IsValid (date : Date) : Prop where
  month : date.month < 12
  day : date.day < monthLength (isLeap date.year) date.month

section OfDay

variable (day : Int)

/-- The day of its year, which that year has. -/
theorem dayOfYear_lt :
    (day + epochDay - daysBeforeYear (yearOfDay (day + epochDay))).toNat <
      (monthLengths (isLeap (yearOfDay (day + epochDay)))).foldr (· + ·) 0 := by
  have bounds := yearOfDay_bounds (day + epochDay)
  have sum (leap : Bool) : (monthLengths leap).foldr (· + ·) 0 = yearLength leap := by
    cases leap <;> rfl
  rw [daysBeforeYear_succ] at bounds
  rw [sum]
  omega

theorem isValid_ofDay : (ofDay day).IsValid :=
  have bounds := splitMonths_bounds (dayOfYear_lt day)
  ⟨bounds.1, bounds.2.1⟩

/-- The date of a day stands for this day. -/
theorem toDay_ofDay : (ofDay day).toDay = day := by
  have whole := (splitMonths_bounds (dayOfYear_lt day)).2.2
  have begun := (yearOfDay_bounds (day + epochDay)).1
  unfold toDay ofDay daysBeforeMonth
  dsimp only
  omega

end OfDay

/-- The number of a month in the sequence of all months, which starts with the year 0. -/
def monthNumber (date : Date) : Int :=
  12 * date.year + date.month

section MonthNumber

variable {date : Date} (inside : date.month < 12)

include inside

theorem monthNumber_div : date.monthNumber / 12 = date.year := by
  unfold monthNumber
  omega

theorem monthNumber_mod : (date.monthNumber % 12).toNat = date.month := by
  unfold monthNumber
  omega

end MonthNumber

/-- The first day of a month, given by its number. -/
def firstOfMonth (number : Int) : Int :=
  toDay ⟨number / 12, (number % 12).toNat, 0⟩

/-- The first day of a month, from the days before its year and those before it in the year. -/
theorem firstOfMonth_eq (number : Int) : firstOfMonth number =
    daysBeforeYear (number / 12) + daysBeforeMonth (isLeap (number / 12)) (number % 12).toNat -
      epochDay := by
  simp only [firstOfMonth, toDay, Int.natCast_zero, Int.add_zero]

/-- The day of a date is counted from the first of its month. -/
theorem toDay_eq_firstOfMonth_add {date : Date} (inside : date.month < 12) :
    date.toDay = firstOfMonth date.monthNumber + date.day := by
  rw [firstOfMonth_eq, monthNumber_div inside, monthNumber_mod inside, toDay]
  omega

/-- A month begins when all days of the one before it are over. -/
theorem firstOfMonth_succ (number : Int) : firstOfMonth (number + 1) =
    firstOfMonth number + monthLength (isLeap (number / 12)) (number % 12).toNat := by
  have inside : (number % 12).toNat < 12 := by omega
  have month := daysBeforeMonth_succ (isLeap (number / 12)) inside
  rw [firstOfMonth_eq, firstOfMonth_eq]
  by_cases last : number % 12 = 11
  · have next : (number + 1) / 12 = number / 12 + 1 := by omega
    have first : ((number + 1) % 12).toNat = 0 := by omega
    have whole : (number % 12).toNat + 1 = 12 := by omega
    rw [whole, daysBeforeMonth_twelve] at month
    have year := daysBeforeYear_succ (number / 12)
    have none : daysBeforeMonth (isLeap (number / 12 + 1)) 0 = 0 := rfl
    rw [next, first, none, year]
    omega
  · have same : (number + 1) / 12 = number / 12 := by omega
    have next : ((number + 1) % 12).toNat = (number % 12).toNat + 1 := by omega
    rw [same, next, month]
    omega

/-- Months that come later begin later, and only they. -/
theorem firstOfMonth_lt_iff {first second : Int} :
    firstOfMonth first < firstOfMonth second ↔ first < second := by
  refine StrictMono.lt_iff_lt (strictMono_int_of_lt_succ fun number => ?_)
  have length := monthLength_bounds (isLeap (number / 12)) (show (number % 12).toNat < 12 by omega)
  rw [firstOfMonth_succ]
  omega

/-- Months begin in their order. -/
theorem firstOfMonth_le_iff {first second : Int} :
    firstOfMonth first ≤ firstOfMonth second ↔ first ≤ second := by
  rw [← Int.not_lt, firstOfMonth_lt_iff, Int.not_lt]

/-- A date lies before a month exactly when its own month does. -/
theorem toDay_lt_firstOfMonth_iff {date : Date} (valid : date.IsValid) {number : Int} :
    date.toDay < firstOfMonth number ↔ date.monthNumber < number := by
  have inside := valid.day
  have day := toDay_eq_firstOfMonth_add valid.month
  have next := firstOfMonth_succ date.monthNumber
  rw [monthNumber_div valid.month, monthNumber_mod valid.month] at next
  constructor
  · intro before
    exact firstOfMonth_lt_iff.mp (by omega)
  · intro before
    have following := firstOfMonth_le_iff.mpr (Int.add_one_le_of_lt before)
    omega

/-- A day has only one date. -/
theorem eq_of_toDay_eq {first second : Date} (valid : first.IsValid) (other : second.IsValid)
    (same : first.toDay = second.toDay) : first = second := by
  have number : first.monthNumber = second.monthNumber := by
    have order (number : Int) : first.monthNumber < number ↔ second.monthNumber < number := by
      rw [← toDay_lt_firstOfMonth_iff valid, ← toDay_lt_firstOfMonth_iff other, same]
    have early := (order (first.monthNumber + 1)).mp (by omega)
    have late := (order (second.monthNumber + 1)).mpr (by omega)
    omega
  have year : first.year = second.year := by
    rw [← monthNumber_div valid.month, number, monthNumber_div other.month]
  have month : first.month = second.month := by
    rw [← monthNumber_mod valid.month, number, monthNumber_mod other.month]
  have day : first.day = second.day := by
    have counted := toDay_eq_firstOfMonth_add valid.month
    have otherCounted := toDay_eq_firstOfMonth_add other.month
    rw [number] at counted
    omega
  cases first
  cases second
  rw [mk.injEq]
  exact ⟨year, month, day⟩

theorem ofDay_toDay {date : Date} (valid : date.IsValid) : ofDay date.toDay = date :=
  eq_of_toDay_eq (isValid_ofDay _) valid (toDay_ofDay _)

end Date

namespace Calendar

/-- The calendar begins with the first month of its first year. -/
theorem firstDay_eq : firstDay = Date.firstOfMonth (12 * firstYear) := by
  decide

/-- The calendar ends with the last month of its last year. -/
theorem lastDay_eq : lastDay + 1 = Date.firstOfMonth (12 * (lastYear + 1)) := by
  decide

end Calendar

section Years

variable {date : Date}

/-- The calendar begins with its first year. -/
theorem Date.firstDay_le_toDay_iff (valid : date.IsValid) :
    Calendar.firstDay ≤ date.toDay ↔ Calendar.firstYear ≤ date.year := by
  have month := valid.month
  rw [Calendar.firstDay_eq, ← Int.not_lt, toDay_lt_firstOfMonth_iff valid, monthNumber]
  omega

/-- The calendar ends with its last year. -/
theorem Date.toDay_le_lastDay_iff (valid : date.IsValid) :
    date.toDay ≤ Calendar.lastDay ↔ date.year ≤ Calendar.lastYear := by
  have month := valid.month
  rw [← Int.lt_add_one_iff, Calendar.lastDay_eq, toDay_lt_firstOfMonth_iff valid, monthNumber]
  omega

/-- The days of the calendar are those of its years. -/
theorem Date.year_bounds (valid : date.IsValid)
    (covered : Calendar.firstDay ≤ date.toDay ∧ date.toDay ≤ Calendar.lastDay) :
    Calendar.firstYear ≤ date.year ∧ date.year ≤ Calendar.lastYear :=
  ⟨(firstDay_le_toDay_iff valid).mp covered.1, (toDay_le_lastDay_iff valid).mp covered.2⟩

end Years

end CatalogSearch
