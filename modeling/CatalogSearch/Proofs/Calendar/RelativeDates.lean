import CatalogSearch.Calendar.DateRange
import CatalogSearch.Proofs.Calendar.Months

/-!
# Relative dates in order

A longer relative date begins earlier. The months of the calendar are not equally long, yet going
back further by whole months always arrives at an earlier day, since the firsts of months are in
order and the same number of days is counted from each (`Instant.monthsEarlier_lt`). Only where
numbers are cut to 64 bits or the calendar ends do different relative dates begin alike
(`RelativeDate.resolve_ordered`).
-/

namespace CatalogSearch

/-- Whether a number is one of 64 signed bits. -/
def IsWord (number : Int) : Prop :=
  -9223372036854775808 ≤ number ∧ number < 9223372036854775808

instance (number : Int) : Decidable (IsWord number) :=
  inferInstanceAs (Decidable (_ ∧ _))

/-- A number outside of 64 bits is cut to the nearest word. -/
theorem toInt_saturate (number : Int) : (saturate number).toInt =
    max (-9223372036854775808) (min number 9223372036854775807) := by
  have least : Int64.minValue.toInt = -9223372036854775808 := rfl
  have greatest : Int64.maxValue.toInt = 9223372036854775807 := rfl
  unfold saturate Int64.ofIntClamp
  split
  · split
    · rw [Int64.toInt_ofIntLE]
      omega
    · omega
  · omega

/-- A word is not cut. -/
theorem toInt_saturate_of_isWord {number : Int} (word : IsWord number) :
    (saturate number).toInt = number := by
  rw [toInt_saturate]
  unfold IsWord at word
  omega

/-- Cutting keeps numbers in order. -/
theorem saturate_le_saturate {first second : Int} (order : first ≤ second) :
    saturate first ≤ saturate second := by
  rw [Int64.le_iff_toInt_le, toInt_saturate, toInt_saturate]
  omega

/-- Different numbers stay apart unless both are cut at the same end. -/
theorem saturate_lt_saturate {first second : Int} (order : first < second)
    (aboveLeast : -9223372036854775808 < second) (belowGreatest : first < 9223372036854775807) :
    saturate first < saturate second := by
  rw [Int64.lt_iff_toInt_lt, toInt_saturate, toInt_saturate]
  omega

namespace Calendar

theorem firstDay_value : firstDay = -96465292 := by
  decide

theorem lastDay_value : lastDay = 95026236 := by
  decide

end Calendar

/-- A time of day is shorter than a day and a second. -/
theorem TimeOfDay.milliseconds_lt (time : TimeOfDay) : time.milliseconds < 86401000 := by
  have inDay := time.inDay
  have inSecond := time.inSecond
  unfold milliseconds Calendar.secondsPerDay at *
  omega

namespace Instant

variable (now : Instant)

/-- The number of the month of an instant in the sequence of all months. -/
def monthNumber : Int :=
  now.date.monthNumber

theorem isValid_date : now.date.IsValid :=
  Date.isValid_ofDay _

theorem toDay_date : now.date.toDay = now.day :=
  Date.toDay_ofDay now.day

/-- The date of an instant lies in a year that the calendar covers. -/
theorem year_date_bounds :
    Calendar.firstYear ≤ now.date.year ∧ now.date.year ≤ Calendar.lastYear := by
  refine Date.year_bounds now.isValid_date ?_
  rw [toDay_date]
  exact ⟨now.notBefore, now.notAfter⟩

/-- The day of an instant is counted from the first of its month. -/
theorem day_eq : now.day = Date.firstOfMonth now.monthNumber + now.date.day := by
  rw [← toDay_date]
  exact Date.toDay_eq_firstOfMonth_add now.isValid_date.month

/-- The milliseconds of an instant fit in 64 bits. -/
theorem isWord_milliseconds : IsWord now.milliseconds := by
  have notBefore := now.notBefore
  have notAfter := now.notAfter
  have time := now.time.milliseconds_lt
  rw [Calendar.firstDay_value] at notBefore
  rw [Calendar.lastDay_value] at notAfter
  unfold IsWord milliseconds Calendar.millisecondsPerDay
  omega

/-- No instant has fewer milliseconds than the earliest. -/
theorem earliest_milliseconds_le : earliest.milliseconds ≤ now.milliseconds := by
  have notBefore := now.notBefore
  have first : earliest.milliseconds = Calendar.firstDay * Calendar.millisecondsPerDay :=
    Int.add_zero _
  rw [first]
  unfold milliseconds Calendar.millisecondsPerDay
  omega

/-- The day the given number of months earlier, whether or not the calendar covers it. -/
def dayEarlier (months : Int) : Int :=
  Date.firstOfMonth (now.monthNumber - months) + now.date.day

/-- The milliseconds at the time of day of now, the given number of months earlier. -/
def monthsEarlier (months : Int) : Int :=
  now.dayEarlier months * Calendar.millisecondsPerDay + now.time.milliseconds

/-- Whether the calendar covers the year of the month so many months back. -/
def CoversTarget (months : Int) : Prop :=
  Calendar.firstYear ≤ (now.monthNumber - months) / 12 ∧
    (now.monthNumber - months) / 12 ≤ Calendar.lastYear

instance (months : Int) : Decidable (now.CoversTarget months) :=
  inferInstanceAs (Decidable (_ ∧ _))

theorem monthsBefore?_eq (months : Int) : now.monthsBefore? months =
    if now.CoversTarget months then onDay? (now.dayEarlier months) now.time else none :=
  rfl

theorem CoversTarget.first {months : Int} {now : Instant} (target : now.CoversTarget months) :
    Calendar.firstYear ≤ (now.monthNumber - months) / 12 :=
  target.1

/-- A month of the calendar begins on one of its days. -/
theorem firstDay_le_dayEarlier {months : Int}
    (covered : Calendar.firstYear ≤ (now.monthNumber - months) / 12) :
    Calendar.firstDay ≤ now.dayEarlier months := by
  have first := Calendar.firstDay_eq
  have order := Date.firstOfMonth_le_iff.mpr
    (show 12 * Calendar.firstYear ≤ now.monthNumber - months by omega)
  unfold dayEarlier
  omega

/-- Within the calendar the day changes and the time of day stays. -/
theorem monthsBefore?_eq_some {months : Int} (target : now.CoversTarget months)
    (last : now.dayEarlier months ≤ Calendar.lastDay) :
    now.monthsBefore? months =
      some ⟨now.dayEarlier months, now.time, now.firstDay_le_dayEarlier target.first, last⟩ := by
  rw [monthsBefore?_eq, if_pos target, onDay?,
    dif_pos ⟨now.firstDay_le_dayEarlier target.first, last⟩]

/-- There is no instant outside of the calendar. -/
theorem monthsBefore?_eq_none {months : Int}
    (outside : ¬(now.CoversTarget months ∧ now.dayEarlier months ≤ Calendar.lastDay)) :
    now.monthsBefore? months = none := by
  rw [monthsBefore?_eq]
  split
  · rename_i target
    exact dif_neg fun covered => outside ⟨target, covered.2⟩
  · rfl

/-- Going back by no months leads back to now. -/
theorem monthsEarlier_zero : now.monthsEarlier 0 = now.milliseconds := by
  rw [monthsEarlier, dayEarlier, Int.sub_zero, ← day_eq, milliseconds]

/-- Going back further by months arrives earlier. -/
theorem monthsEarlier_lt {first second : Int} (further : first < second) :
    now.monthsEarlier second < now.monthsEarlier first := by
  have order := Date.firstOfMonth_lt_iff.mpr
    (show now.monthNumber - second < now.monthNumber - first by omega)
  unfold monthsEarlier dayEarlier Calendar.millisecondsPerDay
  omega

/-- Going back further does not lead to a later instant. -/
theorem monthsEarlier_le {first second : Int} (further : first ≤ second) :
    now.monthsEarlier second ≤ now.monthsEarlier first := by
  rcases Int.lt_or_eq_of_le further with less | rfl
  · exact Int.le_of_lt (now.monthsEarlier_lt less)
  · exact Int.le_refl _

/-- Going back never leaves the calendar at its end. -/
theorem covers_of_nonneg {months : Int} (back : 0 ≤ months) :
    (now.monthNumber - months) / 12 ≤ Calendar.lastYear ∧
      now.dayEarlier months ≤ Calendar.lastDay := by
  have year := now.year_date_bounds.2
  have day := now.notAfter
  have month := now.isValid_date.month
  have order := Date.firstOfMonth_le_iff.mpr
    (show now.monthNumber - months ≤ now.monthNumber by omega)
  rw [day_eq] at day
  refine ⟨?_, ?_⟩
  · unfold monthNumber Date.monthNumber
    omega
  · unfold dayEarlier
    omega

/-- Going back arrives at the calendar day, or else at the earliest instant. -/
theorem milliseconds_monthsBefore?_of_nonneg {months : Int} (back : 0 ≤ months) :
    ((now.monthsBefore? months).getD earliest).milliseconds =
      if Calendar.firstYear ≤ (now.monthNumber - months) / 12 then now.monthsEarlier months
      else earliest.milliseconds := by
  obtain ⟨year, day⟩ := now.covers_of_nonneg back
  split
  · rename_i first
    rw [now.monthsBefore?_eq_some ⟨first, year⟩ day]
    rfl
  · rename_i first
    rw [now.monthsBefore?_eq_none fun covered => first covered.1.1]
    rfl

/-- A month of the calendar does not begin before it. -/
theorem earliest_le_monthsEarlier {months : Int}
    (covered : Calendar.firstYear ≤ (now.monthNumber - months) / 12) :
    earliest.milliseconds ≤ now.monthsEarlier months := by
  have first := now.firstDay_le_dayEarlier covered
  have whole : earliest.milliseconds = Calendar.firstDay * Calendar.millisecondsPerDay :=
    Int.add_zero _
  rw [whole]
  unfold monthsEarlier Calendar.millisecondsPerDay
  omega

end Instant

/-- What becomes of arithmetic on words that leaves them. A step that nothing guards overflows. The
result of a guarded step is given up, like an instant outside the calendar. -/
inductive WordFault where
  | overflow
  | outside
deriving DecidableEq

/-- A step on words whose result is one unless the fault occurs. -/
def onWords (fault : WordFault) (number : Int) : Except WordFault Int :=
  if IsWord number then .ok number else .error fault

section OnWords

variable {α : Type} {fault : WordFault} {number : Int} {next : Int → Except WordFault α}

theorem onWords_of_isWord (word : IsWord number) : onWords fault number = .ok number :=
  if_pos word

theorem onWords_bind (word : IsWord number) : (onWords fault number >>= next) = next number := by
  rw [onWords_of_isWord word]
  rfl

/-- A computation stops at a number that is no word. -/
theorem onWords_bind_of_not (far : ¬ IsWord number) :
    (onWords fault number >>= next) = .error fault := by
  rw [onWords, if_neg far]
  rfl

end OnWords

namespace Instant

variable (now : Instant)

/-- The milliseconds of an instant, in the steps of a computation on words. -/
def millisecondsOnWords : Except WordFault Int := do
  let days ← onWords .overflow (now.day * Calendar.secondsPerDay)
  let seconds ← onWords .overflow (days + now.time.second)
  let whole ← onWords .overflow (seconds * 1000)
  onWords .overflow (whole + (now.time.nanosecond / 1000000 : Nat))

/-- The instant in the month with the given number, in the steps of a computation on words. -/
def inMonthOnWords (month : Int) : Except WordFault Instant :=
  if Calendar.firstYear ≤ month / 12 ∧ month / 12 ≤ Calendar.lastYear then do
    let day ← onWords .overflow (Date.firstOfMonth month + now.date.day)
    (onDay? day now.time).elim (.error .outside) .ok
  else
    .error .outside

/-- The instant the given number of months earlier, in the steps of a computation on words. -/
def monthsBeforeOnWords (months : Int) : Except WordFault Instant := do
  let yearMonths ← onWords .outside (12 * now.date.year)
  let month ← onWords .outside (yearMonths + now.date.month)
  let target ← onWords .outside (month - months)
  now.inMonthOnWords target

/-- No step of counting the milliseconds of an instant overflows. -/
theorem millisecondsOnWords_eq : now.millisecondsOnWords = .ok now.milliseconds := by
  have notBefore := now.notBefore
  have notAfter := now.notAfter
  have second := now.time.inDay
  have nanosecond := now.time.inSecond
  have whole : (now.day * Calendar.secondsPerDay + now.time.second) * 1000 +
      (now.time.nanosecond / 1000000 : Nat) = now.milliseconds := by
    unfold milliseconds TimeOfDay.milliseconds Calendar.secondsPerDay Calendar.millisecondsPerDay
    omega
  rw [Calendar.firstDay_value] at notBefore
  rw [Calendar.lastDay_value] at notAfter
  unfold Calendar.secondsPerDay at second
  have days : IsWord (now.day * Calendar.secondsPerDay) := by
    unfold IsWord Calendar.secondsPerDay
    omega
  have seconds : IsWord (now.day * Calendar.secondsPerDay + now.time.second) := by
    unfold IsWord Calendar.secondsPerDay
    omega
  have thousands : IsWord ((now.day * Calendar.secondsPerDay + now.time.second) * 1000) := by
    unfold IsWord Calendar.secondsPerDay
    omega
  rw [millisecondsOnWords, onWords_bind days, onWords_bind seconds, onWords_bind thousands, whole,
    onWords_of_isWord now.isWord_milliseconds]

/-- No step of finding the day some months earlier overflows. -/
theorem inMonthOnWords_eq (months : Int) :
    now.inMonthOnWords (now.monthNumber - months) =
      (now.monthsBefore? months).elim (.error .outside) .ok := by
  have day := (Date.monthLength_bounds (Date.isLeap now.date.year) now.isValid_date.month).2
  have inMonth := now.isValid_date.day
  rw [monthsBefore?_eq, inMonthOnWords]
  by_cases target : now.CoversTarget months
  · have first := Calendar.firstDay_eq
    have last := Calendar.lastDay_eq
    have firstDay := Calendar.firstDay_value
    have lastDay := Calendar.lastDay_value
    have early := Date.firstOfMonth_le_iff.mpr
      (show 12 * Calendar.firstYear ≤ now.monthNumber - months by have := target.1; omega)
    have late := Date.firstOfMonth_lt_iff.mpr
      (show now.monthNumber - months < 12 * (Calendar.lastYear + 1) by have := target.2; omega)
    have word : IsWord (now.dayEarlier months) := by
      unfold IsWord dayEarlier
      omega
    rw [if_pos target]
    exact (if_pos target).trans (onWords_bind word)
  · rw [if_neg target]
    exact if_neg target

/-- On words no step overflows, and the guarded ones leave them only outside the calendar. -/
theorem monthsBeforeOnWords_eq (months : Int) : now.monthsBeforeOnWords months =
    (now.monthsBefore? months).elim (.error .outside) .ok := by
  have year := now.year_date_bounds
  have month := now.isValid_date.month
  have yearMonths : IsWord (12 * now.date.year) := by
    unfold IsWord Calendar.firstYear Calendar.lastYear at *
    omega
  have number : IsWord (12 * now.date.year + now.date.month) := by
    unfold IsWord Calendar.firstYear Calendar.lastYear at *
    omega
  rw [monthsBeforeOnWords, onWords_bind yearMonths, onWords_bind number]
  by_cases target : IsWord (now.monthNumber - months)
  · exact (onWords_bind target).trans (now.inMonthOnWords_eq months)
  · -- A month that is not a word is far from the calendar.
    have far : ¬ now.CoversTarget months := by
      unfold CoversTarget IsWord Calendar.firstYear Calendar.lastYear at *
      omega
    rw [monthsBefore?_eq, if_neg far]
    exact onWords_bind_of_not target

end Instant

/-- An instant is before another one if its day is, or if its time is on the same day. -/
instance : LT Instant :=
  ⟨fun first second => first.day < second.day ∨ first.day = second.day ∧
    (first.time.second < second.time.second ∨ first.time.second = second.time.second ∧
      first.time.nanosecond < second.time.nanosecond)⟩

instance (first second : Instant) : Decidable (first < second) :=
  inferInstanceAs (Decidable (_ ∨ _ ∧ (_ ∨ _ ∧ _)))

namespace TimeUnit.Step

/-- Whether the step always has the same length, unlike one of months. -/
def IsFixed : Step → Prop
  | .milliseconds _ => True
  | .months _ => False

/-- The number of milliseconds or months that the step counts. -/
def length : Step → Int
  | .milliseconds count => count
  | .months count => count

/-- The milliseconds so many milliseconds or months before now, or those of the earliest instant. -/
def back (now : Instant) : Step → Int → Int
  | .milliseconds _, distance => now.milliseconds - distance
  | .months _, distance => ((now.monthsBefore? distance).getD .earliest).milliseconds

/-- Whether going back so far neither leaves the words nor arrives in a month outside the
calendar. -/
def Reaches (now : Instant) : Step → Int → Prop
  | .milliseconds _, distance => IsWord (now.milliseconds - distance)
  | .months _, distance => now.CoversTarget distance

variable {now : Instant} {step : Step} {first second : Int}

/-- Going back by months arrives at the earliest instant if the calendar does not cover the month.
-/
theorem back_months {count distance : Int} (back : 0 ≤ distance) :
    (months count).back now distance =
      if Calendar.firstYear ≤ (now.monthNumber - distance) / 12 then now.monthsEarlier distance
      else Instant.earliest.milliseconds :=
  now.milliseconds_monthsBefore?_of_nonneg back

/-- Going back by nothing leads back to now. -/
theorem back_zero : step.back now 0 = now.milliseconds := by
  cases step with
  | milliseconds count => exact Int.sub_zero _
  | months count =>
      have year := now.year_date_bounds.1
      have covered : Calendar.firstYear ≤ (now.monthNumber - 0) / 12 := by
        unfold Instant.monthNumber Date.monthNumber
        omega
      rw [back_months (Int.le_refl 0), if_pos covered, now.monthsEarlier_zero]

/-- Going back further does not arrive later. -/
theorem back_le_back (back : 0 ≤ first) (order : first ≤ second) :
    step.back now second ≤ step.back now first := by
  cases step with
  | milliseconds count => exact Int.sub_le_sub_left order _
  | months count =>
      rw [back_months back, back_months (Int.le_trans back order)]
      by_cases near : Calendar.firstYear ≤ (now.monthNumber - first) / 12
      · rw [if_pos near]
        split
        · exact now.monthsEarlier_le order
        · exact now.earliest_le_monthsEarlier near
      · rw [if_neg near, if_neg (by omega)]

/-- Going back further arrives earlier unless there is nothing earlier. -/
theorem back_lt_back (back : 0 ≤ first) (order : first < second)
    (reaches : step.Reaches now second) : step.back now second < step.back now first := by
  cases step with
  | milliseconds count => exact Int.sub_lt_sub_left order _
  | months count =>
      have covered := reaches.1
      rw [back_months back, if_pos (by omega), back_months (by omega), if_pos covered]
      exact now.monthsEarlier_lt order

/-- Going back by months does not leave the millisecond of the earliest instant. By milliseconds it
always arrives before now. -/
theorem back_lt_now_iff (back : 0 < first) : step.back now first < now.milliseconds ↔
    step.IsFixed ∨ Instant.earliest.milliseconds < now.milliseconds := by
  cases step with
  | milliseconds count => exact iff_of_true (Int.sub_lt_self _ back) (.inl trivial)
  | months count =>
      have earlier := now.monthsEarlier_zero ▸ now.monthsEarlier_lt back
      rw [back_months (by omega), IsFixed, false_or]
      split
      · rename_i covered
        exact iff_of_true earlier
          (Int.lt_of_le_of_lt (now.earliest_le_monthsEarlier covered) earlier)
      · rfl

/-- An instant that going back reaches has a word for its milliseconds. -/
theorem isWord_back (back : 0 ≤ first) (reaches : step.Reaches now first) :
    IsWord (step.back now first) := by
  cases step with
  | milliseconds count => exact reaches
  | months count =>
      have covered := reaches.1
      have latest := now.monthsEarlier_le back
      have earliest := now.earliest_le_monthsEarlier covered
      rw [now.monthsEarlier_zero] at latest
      rw [back_months back, if_pos covered]
      exact ⟨Int.le_trans Instant.earliest.isWord_milliseconds.1 earliest,
        Int.lt_of_le_of_lt latest now.isWord_milliseconds.2⟩

end TimeUnit.Step

namespace RelativeDate

/-- The beginning of the range that ends now, in the steps of a computation on words. -/
def beginningOnWords (relative : RelativeDate) (now : Instant) : Except WordFault Int64 :=
  match relative.unit.step with
  | .milliseconds count => do
      let latest ← now.millisecondsOnWords
      let distance := saturate (relative.count.toInt * count)
      .ok (saturate (latest - distance.toInt))
  | .months count =>
      let distance := saturate (relative.count.toInt * count)
      match now.monthsBeforeOnWords distance.toInt with
      | .ok begun => begun.millisecondsOnWords.map saturate
      | .error .outside => Instant.earliest.millisecondsOnWords.map saturate
      | .error .overflow => .error .overflow

/-- No step overflows, for a negative number of units either. -/
theorem beginningOnWords_eq (relative : RelativeDate) (now : Instant) :
    relative.beginningOnWords now = .ok (relative.beginning now) := by
  unfold beginningOnWords beginning
  cases relative.unit.step with
  | milliseconds count =>
      dsimp only
      rw [now.millisecondsOnWords_eq]
      rfl
  | months count =>
      dsimp only
      rw [now.monthsBeforeOnWords_eq]
      cases now.monthsBefore? (saturate (relative.count.toInt * count)).toInt with
      | none => exact congrArg (Except.map saturate) Instant.earliest.millisecondsOnWords_eq
      | some begun => exact congrArg (Except.map saturate) begun.millisecondsOnWords_eq

/-- Whether neither the product nor the way back is cut. -/
structure IsExact (relative : RelativeDate) (now : Instant) : Prop where
  product : IsWord (relative.count.toInt * relative.unit.step.length)
  reaches : relative.unit.step.Reaches now (relative.count.toInt * relative.unit.step.length)

/-- The number of milliseconds or months that so many units reach back. -/
def distance (unit : TimeUnit) (count : Int64) : Int :=
  (saturate (count.toInt * unit.step.length)).toInt

/-- A range begins where going back arrives, cut to a word. -/
theorem beginning_eq (unit : TimeUnit) (count : Int64) (now : Instant) :
    beginning ⟨unit, count⟩ now = saturate (unit.step.back now (distance unit count)) := by
  unfold beginning distance TimeUnit.Step.back TimeUnit.Step.length
  cases unit.step <;> rfl

/-- Every unit has a length. -/
theorem length_step_pos (unit : TimeUnit) : 0 < unit.step.length := by
  cases unit <;> decide

theorem distance_zero (unit : TimeUnit) : distance unit 0 = 0 := by
  rw [distance, Int64.toInt_zero, Int.zero_mul]
  rfl

/-- A range without length begins now. -/
theorem beginning_zero (unit : TimeUnit) (now : Instant) :
    beginning ⟨unit, 0⟩ now = saturate now.milliseconds := by
  rw [beginning_eq, distance_zero, TimeUnit.Step.back_zero]

section Order

variable {unit : TimeUnit} {now : Instant} {first second : Int64}

/-- More units make no smaller distance. -/
theorem distance_le_distance (order : first ≤ second) :
    distance unit first ≤ distance unit second :=
  Int64.le_iff_toInt_le.mp <| saturate_le_saturate <|
    Int.mul_le_mul_of_nonneg_right (Int64.le_iff_toInt_le.mp order)
      (Int.le_of_lt (length_step_pos unit))

theorem distance_nonneg (back : 0 ≤ first) : 0 ≤ distance unit first :=
  distance_zero unit ▸ distance_le_distance back

/-- More units reach further back unless fewer do as far as words allow. -/
theorem distance_lt_distance (back : 0 ≤ first) (order : first < second)
    (product : first.toInt * unit.step.length < 9223372036854775807) :
    distance unit first < distance unit second := by
  have positive := length_step_pos unit
  have nonneg : 0 ≤ first.toInt * unit.step.length :=
    Int.mul_nonneg (Int64.le_iff_toInt_le.mp back) (Int.le_of_lt positive)
  have less : first.toInt * unit.step.length < second.toInt * unit.step.length :=
    Int.mul_lt_mul_of_pos_right (Int64.lt_iff_toInt_lt.mp order) positive
  exact Int64.lt_iff_toInt_lt.mp (saturate_lt_saturate less (by omega) product)

theorem distance_pos (back : 0 < first) : 0 < distance unit first :=
  distance_zero unit ▸ distance_lt_distance (Int64.le_refl 0) back (by simp)

theorem distance_of_isExact (exact : IsExact ⟨unit, first⟩ now) :
    distance unit first = first.toInt * unit.step.length :=
  toInt_saturate_of_isWord exact.product

/-- A longer range begins no later. -/
theorem beginning_le_beginning (back : 0 ≤ first) (order : first ≤ second) :
    beginning ⟨unit, second⟩ now ≤ beginning ⟨unit, first⟩ now := by
  rw [beginning_eq, beginning_eq]
  exact saturate_le_saturate <|
    TimeUnit.Step.back_le_back (distance_nonneg back) (distance_le_distance order)

/-- A range begins before now exactly if its unit is a fixed one or now is not within the
millisecond of the earliest instant. -/
theorem beginning_lt_now_iff (back : 0 < first) :
    beginning ⟨unit, first⟩ now < saturate now.milliseconds ↔
      unit.step.IsFixed ∨ Instant.earliest.milliseconds < now.milliseconds := by
  have word := now.isWord_milliseconds
  have greatest := word.2
  have least : -9223372036854775808 < Instant.earliest.milliseconds := by decide
  have earliest := now.earliest_milliseconds_le
  have begun : unit.step.back now (distance unit first) < now.milliseconds ↔ _ :=
    TimeUnit.Step.back_lt_now_iff (distance_pos back)
  rw [beginning_eq, ← begun]
  refine ⟨fun less => ?_, fun less => saturate_lt_saturate less (by omega) (by omega)⟩
  rw [Int64.lt_iff_toInt_lt, toInt_saturate, toInt_saturate_of_isWord word] at less
  omega

/-- A longer range begins earlier if it is exact. -/
theorem beginning_lt_beginning (back : 0 ≤ first) (order : first < second)
    (exact : IsExact ⟨unit, second⟩ now) :
    beginning ⟨unit, second⟩ now < beginning ⟨unit, first⟩ now := by
  have fewer : first.toInt * unit.step.length < second.toInt * unit.step.length :=
    Int.mul_lt_mul_of_pos_right (Int64.lt_iff_toInt_lt.mp order) (length_step_pos unit)
  have product : second.toInt * unit.step.length < 9223372036854775808 := exact.product.2
  have further : distance unit first < distance unit second :=
    distance_lt_distance back order (by omega)
  have nonneg : 0 ≤ distance unit first := distance_nonneg back
  have reaches : unit.step.Reaches now (distance unit second) :=
    distance_of_isExact exact ▸ exact.reaches
  have less := TimeUnit.Step.back_lt_back nonneg further reaches
  -- Both instants are words, the later one because it is not after now.
  have least := (TimeUnit.Step.isWord_back (by omega) reaches).1
  have latest : unit.step.back now (distance unit first) ≤ unit.step.back now 0 :=
    TimeUnit.Step.back_le_back (Int.le_refl 0) nonneg
  have greatest := now.isWord_milliseconds.2
  rw [TimeUnit.Step.back_zero] at latest
  rw [beginning_eq, beginning_eq]
  exact saturate_lt_saturate less (by omega) (by omega)

end Order

/-- **Relative dates are ordered by their length.** The range ends now, begins no later than a
shorter one and begins now if it has no length. Otherwise it begins before now, except that one of
months or years does not within the millisecond of the earliest instant. It begins before any
shorter range unless its beginning is cut. No step of the computation overflows. -/
theorem resolve_ordered (unit : TimeUnit) (now : Instant) :
    (∀ count, (resolve ⟨unit, count⟩ now).latest.toInt = now.milliseconds) ∧
      (∀ first second : Int64, 0 ≤ first → first ≤ second →
        (resolve ⟨unit, second⟩ now).earliest ≤ (resolve ⟨unit, first⟩ now).earliest ∧
          (resolve ⟨unit, first⟩ now).earliest ≤ (resolve ⟨unit, first⟩ now).latest) ∧
      (resolve ⟨unit, 0⟩ now).earliest = (resolve ⟨unit, 0⟩ now).latest ∧
      (∀ count : Int64, 0 < count →
        ((resolve ⟨unit, count⟩ now).earliest < (resolve ⟨unit, count⟩ now).latest ↔
          unit.step.IsFixed ∨ Instant.earliest.milliseconds < now.milliseconds)) ∧
      (∀ first second : Int64, 0 ≤ first → first < second → IsExact ⟨unit, second⟩ now →
        (resolve ⟨unit, second⟩ now).earliest < (resolve ⟨unit, first⟩ now).earliest) ∧
      ∀ count, beginningOnWords ⟨unit, count⟩ now =
        .ok (resolve ⟨unit, count⟩ now).earliest := by
  refine ⟨fun _ => toInt_saturate_of_isWord now.isWord_milliseconds, fun first second back order =>
    ⟨beginning_le_beginning back order, ?_⟩, beginning_zero unit now, fun count back =>
    beginning_lt_now_iff back, fun first second back order exact =>
    beginning_lt_beginning back order exact, fun count => beginningOnWords_eq ⟨unit, count⟩ now⟩
  change beginning ⟨unit, first⟩ now ≤ saturate now.milliseconds
  rw [← beginning_zero unit now]
  exact beginning_le_beginning (Int64.le_refl 0) back

/-- Two months before the end of March 2023 are earlier than one, which spills into March. -/
theorem resolve_ordered_march :
    ∃ now : Instant, now.milliseconds = 1680264000000 ∧
      (0 : Int64) ≤ 1 ∧ (1 : Int64) < 2 ∧ Instant.earliest.milliseconds < now.milliseconds ∧
      IsExact ⟨.months, 2⟩ now ∧
      (resolve ⟨.months, 2⟩ now).earliest < (resolve ⟨.months, 1⟩ now).earliest ∧
      (resolve ⟨.months, 1⟩ now).earliest < (resolve ⟨.months, 1⟩ now).latest := by
  let now : Instant := ⟨19447, ⟨43200, 0, by decide, by decide⟩, by decide, by decide⟩
  have later : Instant.earliest.milliseconds < now.milliseconds := by decide
  have exact : IsExact ⟨.months, 2⟩ now := ⟨by decide, by decide, by decide⟩
  obtain ⟨-, -, -, beforeNow, apart, -⟩ := resolve_ordered .months now
  exact ⟨now, by decide, by decide, by decide, later, exact,
    apart 1 2 (by decide) (by decide) exact, (beforeNow 1 (by decide)).mpr (.inr later)⟩

/-- Half a millisecond after the earliest instant, the last month still has no length. -/
theorem month_without_length :
    ¬ ∀ (unit : TimeUnit) (now : Instant) (count : Int64), 0 < count → Instant.earliest < now →
      (resolve ⟨unit, count⟩ now).earliest < (resolve ⟨unit, count⟩ now).latest := by
  intro shorter
  let now : Instant :=
    ⟨Calendar.firstDay, ⟨0, 500000, by decide, by decide⟩, by decide, by decide⟩
  have less := shorter .months now 1 (by decide) (by decide)
  exact absurd less (by decide)

end RelativeDate

end CatalogSearch
