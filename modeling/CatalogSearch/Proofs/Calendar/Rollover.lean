import CatalogSearch.Proofs.Calendar.RelativeDates
import Mathlib.Logic.Function.Iterate

/-!
# Calendar rollover

Going back by months keeps the day of the month. A day that the month found there does not have
counts on into the next one, by three days at most (`Month.rolled`). This is where relative dates of
months and years begin as long as they stay within the calendar (`RelativeDate.resolve_rolled`). If
they leave it they begin at its earliest instant, on whichever side they leave it, so a range that
should lie after now can reach all the way back (`RelativeDate.latest_le_earliest_iff`).
-/

namespace CatalogSearch

/-- A month of a year, counted from zero. -/
structure Month where
  year : Int
  index : Nat
  inYear : index < 12
deriving DecidableEq

namespace Month

variable (month : Month)

/-- The month after a month. -/
def next : Month :=
  if last : month.index = 11 then ⟨month.year + 1, 0, by decide⟩
  else ⟨month.year, month.index + 1, by have := month.inYear; omega⟩

/-- The month before a month. -/
def previous : Month :=
  if month.index = 0 then ⟨month.year - 1, 11, by decide⟩
  else ⟨month.year, month.index - 1, by have := month.inYear; omega⟩

/-- The month so many months before another one, or after it if their number is negative. -/
def before : Int → Month
  | .ofNat count => previous^[count] month
  | .negSucc count => next^[count + 1] month

/-- The number of a month in the sequence of all months, which starts with the year 0. -/
def number : Int :=
  12 * month.year + month.index

theorem number_next : month.next.number = month.number + 1 := by
  unfold next number
  split <;> dsimp only <;> omega

theorem number_previous : month.previous.number = month.number - 1 := by
  unfold previous number
  split <;> dsimp only <;> omega

/-- Stepping back counts down the number. -/
theorem number_iterate_previous (count : Nat) :
    (previous^[count] month).number = month.number - count := by
  induction count generalizing month with
  | zero => exact (Int.sub_zero _).symm
  | succ count ih =>
      rw [Function.iterate_succ_apply, ih, number_previous]
      omega

/-- Stepping on counts up the number. -/
theorem number_iterate_next (count : Nat) :
    (next^[count] month).number = month.number + count := by
  induction count generalizing month with
  | zero => exact (Int.add_zero _).symm
  | succ count ih =>
      rw [Function.iterate_succ_apply, ih, number_next]
      omega

theorem number_before (count : Int) : (month.before count).number = month.number - count := by
  cases count with
  | ofNat count => exact month.number_iterate_previous count
  | negSucc count =>
      rw [before, number_iterate_next]
      omega

/-- The date of a day of a month, counted from zero. -/
def dated (day : Nat) : Date :=
  ⟨month.year, month.index, day⟩

theorem number_div : month.number / 12 = month.year :=
  @Date.monthNumber_div (month.dated 0) month.inYear

theorem number_mod : (month.number % 12).toNat = month.index :=
  @Date.monthNumber_mod (month.dated 0) month.inYear

/-- The number of days of a month. -/
def length : Nat :=
  Date.monthLength (Date.isLeap month.year) month.index

/-- A month has between 28 and 31 days. -/
theorem length_bounds : 28 ≤ month.length ∧ month.length ≤ 31 :=
  Date.monthLength_bounds _ month.inYear

/-- The last day of a month, since the first of January 1970. -/
def lastDay : Int :=
  (month.dated (month.length - 1)).toDay

theorem toDay_dated (day : Nat) :
    (month.dated day).toDay = Date.firstOfMonth month.number + day :=
  Date.toDay_eq_firstOfMonth_add month.inYear

/-- The next month begins behind the last day of this one. -/
theorem firstOfMonth_next :
    Date.firstOfMonth month.next.number = Date.firstOfMonth month.number + month.length := by
  rw [number_next, Date.firstOfMonth_succ, number_div, number_mod]
  rfl

/-- The date of a day of a month, where a day that the month does not have counts on into the next
one. -/
def rolled (day : Nat) : Date :=
  if day < month.length then month.dated day else month.next.dated (day - month.length)

/-- Rolling over keeps the number of days behind the first of the month. -/
theorem toDay_rolled (day : Nat) :
    (month.rolled day).toDay = Date.firstOfMonth month.number + day := by
  unfold rolled
  split
  · exact month.toDay_dated day
  · rw [toDay_dated, firstOfMonth_next]
    omega

variable {day : Nat}

/-- A date that is rolled over is a valid date. -/
theorem isValid_rolled (small : day < 31) : (month.rolled day).IsValid := by
  have length := month.length_bounds
  have nextLength := month.next.length_bounds
  unfold rolled
  split
  · rename_i inside
    exact ⟨month.inYear, inside⟩
  · exact ⟨month.next.inYear, show day - month.length < month.next.length by omega⟩

/-- Rolling over does not lead to an earlier year. -/
theorem year_le_year_rolled : month.year ≤ (month.rolled day).year := by
  have later : month.year ≤ month.next.year := by
    unfold next
    split <;> dsimp only <;> omega
  unfold rolled
  split
  · exact Int.le_refl _
  · exact later

/-- No more than three days of a month are missing. -/
theorem toDay_rolled_le (small : day < 31) : (month.rolled day).toDay ≤ month.lastDay + 3 := by
  have length := month.length_bounds
  rw [toDay_rolled, lastDay, toDay_dated]
  omega

end Month

/-- Whether the calendar covers a year. -/
def Calendar.Covers (year : Int) : Prop :=
  firstYear ≤ year ∧ year ≤ lastYear

instance (year : Int) : Decidable (Calendar.Covers year) :=
  inferInstanceAs (Decidable (_ ∧ _))

namespace Instant

variable (now : Instant)

/-- The month of an instant. -/
def month : Month :=
  ⟨now.date.year, now.date.month, now.isValid_date.month⟩

/-- The date so many months before that of an instant. -/
def dateBefore (months : Int) : Date :=
  (now.month.before months).rolled now.date.day

theorem day_date_lt : now.date.day < 31 :=
  Nat.lt_of_lt_of_le now.isValid_date.day
    (Date.monthLength_bounds _ now.isValid_date.month).2

theorem isValid_dateBefore (months : Int) : (now.dateBefore months).IsValid :=
  Month.isValid_rolled _ now.day_date_lt

/-- The month some months earlier is that of the lower number. -/
theorem number_before (months : Int) :
    (now.month.before months).number = now.monthNumber - months :=
  now.month.number_before months

theorem year_before (months : Int) :
    (now.monthNumber - months) / 12 = (now.month.before months).year := by
  rw [← number_before, Month.number_div]

/-- The date some months earlier is the day at which going back by months arrives. -/
theorem toDay_dateBefore (months : Int) :
    (now.dateBefore months).toDay = now.dayEarlier months := by
  rw [dateBefore, Month.toDay_rolled, number_before, dayEarlier]

/-- The calendar covers the month so many months back, and not only its number. -/
theorem coversTarget_iff (months : Int) :
    now.CoversTarget months ↔ Calendar.Covers (now.month.before months).year := by
  rw [CoversTarget, year_before, Calendar.Covers]

/-- Whether the calendar covers the month so many months back and the date found there. -/
def Reaches (months : Int) : Prop :=
  Calendar.Covers (now.month.before months).year ∧ Calendar.Covers (now.dateBefore months).year

/-- Going back reaches a date exactly if the calendar covers its month and its day. -/
theorem reaches_iff (months : Int) :
    now.Reaches months ↔ now.CoversTarget months ∧ now.dayEarlier months ≤ Calendar.lastDay := by
  have later : (now.month.before months).year ≤ (now.dateBefore months).year :=
    Month.year_le_year_rolled _
  rw [coversTarget_iff, ← toDay_dateBefore,
    Date.toDay_le_lastDay_iff (now.isValid_dateBefore months)]
  exact ⟨fun reaches => ⟨reaches.1, reaches.2.2⟩,
    fun covers => ⟨covers.1, covers.1.1.trans later, covers.2⟩⟩

/-- Within the calendar, the date is the one counted on from the month and the time stays. -/
theorem exists_of_reaches {months : Int} (reaches : now.Reaches months) :
    ∃ begun, now.monthsBefore? months = some begun ∧ begun.date = now.dateBefore months ∧
      begun.time = now.time ∧ begun.milliseconds = now.monthsEarlier months := by
  obtain ⟨target, last⟩ := (now.reaches_iff months).mp reaches
  refine ⟨_, now.monthsBefore?_eq_some target last, ?_, rfl, rfl⟩
  change Date.ofDay (now.dayEarlier months) = _
  rw [← toDay_dateBefore, Date.ofDay_toDay (now.isValid_dateBefore months)]

/-- There is no instant on a date that going back does not reach. -/
theorem monthsBefore?_of_not_reaches {months : Int} (outside : ¬now.Reaches months) :
    now.monthsBefore? months = none :=
  now.monthsBefore?_eq_none (mt (now.reaches_iff months).mpr outside)

/-- Going ahead leaves the calendar only at its end. -/
theorem reaches_iff_of_nonpos {months : Int} (ahead : months ≤ 0) :
    now.Reaches months ↔ (now.dateBefore months).year ≤ Calendar.lastYear := by
  have year := now.year_date_bounds.1
  have later : (now.month.before months).year ≤ (now.dateBefore months).year :=
    Month.year_le_year_rolled _
  have first : Calendar.firstYear ≤ (now.month.before months).year := by
    rw [← year_before]
    unfold monthNumber Date.monthNumber
    omega
  exact ⟨fun reaches => reaches.2.2,
    fun last => ⟨⟨first, later.trans last⟩, first.trans later, last⟩⟩

/-- A number of months that is no word leads out of the calendar, and so does the nearest word. -/
theorem monthsBefore?_saturate (months : Int) :
    now.monthsBefore? (saturate months).toInt = now.monthsBefore? months := by
  by_cases word : IsWord months
  · rw [toInt_saturate_of_isWord word]
  · have year := now.year_date_bounds
    have month := now.isValid_date.month
    have far (count : Int) (large : count ≤ -9223372036854775808 ∨ 9223372036854775807 ≤ count) :
        now.monthsBefore? count = none := by
      refine now.monthsBefore?_eq_none fun covered => ?_
      obtain ⟨first, last⟩ := covered.1
      unfold monthNumber Date.monthNumber Calendar.firstYear Calendar.lastYear at *
      omega
    have nearest := toInt_saturate months
    unfold IsWord at word
    rw [far months (by omega), far _ (by omega)]

end Instant

/-- The number of months that so many units of the calendar are. -/
def TimeUnit.months? : TimeUnit → Int → Option Int
  | .months, count => some count
  | .years, count => some (12 * count)
  | _, _ => none

namespace RelativeDate

variable {unit : TimeUnit} {count : Int64} {months : Int} {now : Instant}

/-- A range of months begins at the instant some months earlier, or at the earliest one. -/
theorem beginning_eq_of_months? (calendar : unit.months? count.toInt = some months) :
    beginning ⟨unit, count⟩ now =
      saturate ((now.monthsBefore? months).getD .earliest).milliseconds := by
  cases unit with
  | months =>
      cases calendar
      rw [← now.monthsBefore?_saturate, ← Int.mul_one count.toInt]
      rfl
  | years =>
      cases calendar
      rw [← now.monthsBefore?_saturate, Int.mul_comm]
      rfl
  | _ => cases calendar

/-- Whichever end of the calendar is passed, the range begins at the earliest instant. -/
theorem beginning_of_not_reaches (calendar : unit.months? count.toInt = some months)
    (outside : ¬ now.Reaches months) :
    beginning ⟨unit, count⟩ now = saturate Instant.earliest.milliseconds := by
  rw [beginning_eq_of_months? calendar, now.monthsBefore?_of_not_reaches outside]
  rfl

/-- **Going back by months is calendar rollover.** Where the calendar covers the month that lies so
many months back and the date found there, a relative date of months or years begins on this date,
at the time of day of now. The date has the day of the month of now, counted on into the next month
if need be, and lies three days past the end of its month at most. -/
theorem resolve_rolled (calendar : unit.months? count.toInt = some months)
    (target : Calendar.Covers (now.month.before months).year)
    (result : Calendar.Covers ((now.month.before months).rolled now.date.day).year) :
    ∃ begun : Instant, (resolve ⟨unit, count⟩ now).earliest.toInt = begun.milliseconds ∧
      begun.date = (now.month.before months).rolled now.date.day ∧
      begun.time = now.time ∧
      begun.date.toDay ≤ (now.month.before months).lastDay + 3 := by
  obtain ⟨begun, found, date, time, -⟩ := now.exists_of_reaches ⟨target, result⟩
  refine ⟨begun, ?_, date, time, date ▸ Month.toDay_rolled_le _ now.day_date_lt⟩
  change (beginning ⟨unit, count⟩ now).toInt = _
  rw [beginning_eq_of_months? calendar, found]
  exact toInt_saturate_of_isWord begun.isWord_milliseconds

/-- Three days past a February of a year before the year 0, a month ahead of the end of January. -/
theorem resolve_rolled_february :
    ∃ now : Instant, now.date = ⟨-1, 0, 30⟩ ∧
      TimeUnit.months.months? (-1 : Int64).toInt = some (-1) ∧
      Calendar.Covers (now.month.before (-1)).year ∧
      (now.month.before (-1)).rolled now.date.day = ⟨-1, 2, 2⟩ ∧
      ∃ begun : Instant, (resolve ⟨.months, -1⟩ now).earliest.toInt = begun.milliseconds ∧
        begun.date = (now.month.before (-1)).rolled now.date.day ∧
        begun.time = now.time ∧
        begun.date.toDay ≤ (now.month.before (-1)).lastDay + 3 := by
  let now : Instant := ⟨-719863, ⟨3, 400250000, by decide, by decide⟩, by decide, by decide⟩
  have target : Calendar.Covers (now.month.before (-1)).year := by decide
  have rolled : (now.month.before (-1)).rolled now.date.day = ⟨-1, 2, 2⟩ := by decide
  have result : Calendar.Covers ((now.month.before (-1)).rolled now.date.day).year := by
    rw [rolled]
    decide
  exact ⟨now, by decide, rfl, target, rolled,
    @resolve_rolled .months (-1) (-1) now rfl target result⟩

section Ahead

theorem distance_nonpos (ahead : count ≤ 0) : distance unit count ≤ 0 :=
  distance_zero unit ▸ distance_le_distance ahead

/-- Months that are counted ahead are not counted back. -/
theorem months?_nonpos (calendar : unit.months? count.toInt = some months) (ahead : count ≤ 0) :
    months ≤ 0 := by
  have nonpos : count.toInt ≤ 0 := Int64.le_iff_toInt_le.mp ahead
  cases unit with
  | months => cases calendar; exact nonpos
  | years => cases calendar; omega
  | _ => cases calendar

/-- A range of fixed units begins the distance before now, cut to a word. -/
theorem beginning_eq_of_months?_eq_none (fixed : unit.months? count.toInt = none) :
    beginning ⟨unit, count⟩ now = saturate (now.milliseconds - distance unit count) := by
  rw [beginning_eq]
  cases unit with
  | months => cases fixed
  | years => cases fixed
  | _ => rfl

/-- **Relative dates that lie ahead.** With no or a negative number of units, a relative date
begins no earlier than it ends, unless it is one of months or years that passes the last year of the
calendar, and now is not the earliest instant. -/
theorem latest_le_earliest_iff (ahead : count ≤ 0) :
    (resolve ⟨unit, count⟩ now).latest ≤ (resolve ⟨unit, count⟩ now).earliest ↔
      ∀ months, unit.months? count.toInt = some months →
        ((now.month.before months).rolled now.date.day).year ≤ Calendar.lastYear ∨
          now.milliseconds = Instant.earliest.milliseconds := by
  change saturate now.milliseconds ≤ beginning ⟨unit, count⟩ now ↔ _
  cases calendar : unit.months? count.toInt with
  | none =>
      have nonpos : distance unit count ≤ 0 := distance_nonpos ahead
      rw [beginning_eq_of_months?_eq_none calendar]
      exact iff_of_true (saturate_le_saturate (by omega)) nofun
  | some months =>
      have nonpos := months?_nonpos calendar ahead
      simp only [Option.some.injEq, forall_eq']
      by_cases result : (now.dateBefore months).year ≤ Calendar.lastYear
      · obtain ⟨begun, found, -, -, whole⟩ :=
          now.exists_of_reaches ((now.reaches_iff_of_nonpos nonpos).mpr result)
        have later := now.monthsEarlier_le nonpos
        rw [now.monthsEarlier_zero, ← whole] at later
        rw [beginning_eq_of_months? calendar, found]
        exact iff_of_true (saturate_le_saturate later) (.inl result)
      · have earliest := now.earliest_milliseconds_le
        rw [beginning_of_not_reaches calendar (mt (now.reaches_iff_of_nonpos nonpos).mp result),
          Int64.le_iff_toInt_le, toInt_saturate_of_isWord now.isWord_milliseconds,
          toInt_saturate_of_isWord Instant.earliest.isWord_milliseconds]
        exact ⟨fun order => .inr (by omega), fun either =>
          either.elim (fun covered => absurd covered result) Int.le_of_eq⟩

/-- Eleven months ahead of the end of January lies the end of the last year of the calendar. -/
theorem latest_le_earliest_december :
    ∃ now : Instant, now.date = ⟨Calendar.lastYear, 0, 30⟩ ∧ (-11 : Int64) ≤ 0 ∧
      (resolve ⟨.months, -11⟩ now).latest ≤ (resolve ⟨.months, -11⟩ now).earliest := by
  let now : Instant := ⟨Calendar.lastDay - 334, .midnight, by decide, by decide⟩
  refine ⟨now, by decide, by decide,
    (latest_le_earliest_iff (by decide)).mpr fun months given => ?_⟩
  obtain rfl : -11 = months := Option.some.inj given
  exact .inl (by decide)

/-- Ten million months ahead are behind the last year, and the range begins at the first. -/
theorem months_ahead_reach_back :
    ¬ ∀ (unit : TimeUnit) (now : Instant) (count : Int64), count ≤ 0 →
      (resolve ⟨unit, count⟩ now).latest ≤ (resolve ⟨unit, count⟩ now).earliest := by
  intro never
  have order := never .months .epoch (-10000000) (by decide)
  exact absurd order (by decide)

end Ahead

end RelativeDate

end CatalogSearch
