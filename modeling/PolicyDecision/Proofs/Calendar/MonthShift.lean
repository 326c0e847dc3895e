import Mathlib.Tactic.IntervalCases
import PolicyDecision.Proofs.Calendar.DayNumber

/-!
# Shifts by months

The months of the calendar are numbered one after the other, twelve to a year. A day that
is shifted by months lands in the month with the shifted number, on the same day of the
month or, where that month is too short, on its last day. Days keep their order under a
shift, and a shift can be taken back unless it had to move the day of the month.
-/

namespace PolicyDecision

/-- The number belongs to a month of the years -262143 to 262142. -/
def MonthInCalendar (number : Int) : Prop :=
  ∃ (year : Int) (month : Nat),
    -262143 ≤ year ∧ year ≤ 262142 ∧ 1 ≤ month ∧ month ≤ 12 ∧ 12 * year + month = number

theorem monthLength_pos
    (year : Int)
    {month : Nat}
    (first : 1 ≤ month)
    (last : month ≤ 12) : 1 ≤ monthLength year month := by
  cases leap : isLeapYear year <;> interval_cases month <;> simp [monthLength, leap]

namespace CalendarDay

variable {date other later otherLater : CalendarDay} {months : Int}

/-! ## The number of a month -/

/-- Twelve for each year, and the month of the year. -/
def monthNumber (date : CalendarDay) : Int :=
  12 * date.year + date.month

theorem year_eq_and_month_eq
    (sameMonth : date.monthNumber = other.monthNumber) :
    date.year = other.year ∧ date.month = other.month := by
  have bounds := And.intro date.month_pos date.isDayOfYear.month_le
  have otherBounds := And.intro other.month_pos other.isDayOfYear.month_le
  simp only [monthNumber] at sameMonth
  omega

theorem dayNumber_lt_of_monthNumber_lt
    (earlier : date.monthNumber < other.monthNumber) :
    date.dayNumber < other.dayNumber := by
  have bounds := And.intro date.month_pos date.isDayOfYear.month_le
  have otherBounds := And.intro other.month_pos other.isDayOfYear.month_le
  simp only [monthNumber] at earlier
  rcases (show date.year < other.year ∨ date.year = other.year by omega) with before | sameYear
  · have yearsApart : ¬daysBeforeYear other.year < daysBeforeYear (date.year + 1) := by
      rw [daysBeforeYear_lt_iff]
      omega
    have ends := date.holdsDay_dayNumber.2
    have starts := other.holdsDay_dayNumber.1
    omega
  · have monthsApart := date.isDayOfYear.offset_lt (show date.month < other.month by omega)
    have positive := other.valid.2.2.1
    rw [sameYear] at monthsApart
    simp only [dayNumber, sameYear]
    omega

/-- Days come in the order of their months, and within a month in the order of their
days of the month. -/
theorem dayNumber_le_iff :
    date.dayNumber ≤ other.dayNumber ↔
      date.monthNumber < other.monthNumber ∨
        date.monthNumber = other.monthNumber ∧ date.day ≤ other.day := by
  rcases lt_trichotomy date.monthNumber other.monthNumber with earlier | sameMonth | later
  · simp [earlier, (dayNumber_lt_of_monthNumber_lt earlier).le]
  · obtain ⟨year, month⟩ := year_eq_and_month_eq sameMonth
    have positive := date.valid.2.2.1
    have otherPositive := other.valid.2.2.1
    simp only [sameMonth, lt_irrefl, true_and, false_or, dayNumber, year, month]
    omega
  · have after := dayNumber_lt_of_monthNumber_lt later
    omega

/-! ## Shifted days -/

/-- The later day lies in the month with the shifted number, on the same day of the month
or, when that month is too short, on its last day. -/
structure IsShiftedBy (date : CalendarDay) (months : Int) (later : CalendarDay) : Prop where
  monthNumber_eq : later.monthNumber = date.monthNumber + months
  day_eq : later.day = min date.day (monthLength later.year later.month)

theorem addMonths?_eq_some_iff :
    date.addMonths? months = some later ↔ date.IsShiftedBy months later := by
  constructor
  · intro shifted
    obtain ⟨year, month, day⟩ := fields_of_ofFields? shifted
    refine ⟨?_, ?_⟩
    · simp only [monthNumber, year, month, monthIndex]
      omega
    · rw [day, year, month]
  · rintro ⟨sameMonth, sameDay⟩
    have bounds := And.intro later.month_pos later.isDayOfYear.month_le
    simp only [monthNumber] at sameMonth
    have year : (date.monthIndex + months) / 12 = later.year := by
      simp only [monthIndex]
      omega
    have month : ((date.monthIndex + months) % 12).toNat + 1 = later.month := by
      simp only [monthIndex]
      omega
    simp only [addMonths?, year, month, ← sameDay, ofFields?_fields]

/-- A shift leads somewhere exactly when the calendar has the month. -/
theorem isSome_addMonths?_iff :
    (date.addMonths? months).isSome ↔ MonthInCalendar (date.monthNumber + months) := by
  have positive := date.valid.2.2.1
  simp only [addMonths?, isSome_ofFields?_iff, IsCalendarDay, minimumYear, maximumYear]
  constructor
  · rintro ⟨first, last, -, -⟩
    refine ⟨_, ((date.monthIndex + months) % 12).toNat + 1, first, last, by omega, by omega, ?_⟩
    simp only [monthNumber, monthIndex]
    omega
  · rintro ⟨year, month, first, last, monthFirst, monthLast, number⟩
    have index : date.monthIndex + months = 12 * year + month - 1 := by
      simp only [monthNumber] at number
      simp only [monthIndex]
      omega
    have sameYear : (date.monthIndex + months) / 12 = year := by omega
    have sameMonth : ((date.monthIndex + months) % 12).toNat + 1 = month := by omega
    have days := monthLength_pos year monthFirst monthLast
    rw [sameYear, sameMonth]
    omega

/-- A day is never shifted behind a day that it does not come after. -/
theorem IsShiftedBy.dayNumber_le
    (shifted : date.IsShiftedBy months later)
    (otherShifted : other.IsShiftedBy months otherLater)
    (inOrder : date.dayNumber ≤ other.dayNumber) :
    later.dayNumber ≤ otherLater.dayNumber := by
  have landed := shifted.monthNumber_eq
  have otherLanded := otherShifted.monthNumber_eq
  refine dayNumber_le_iff.mpr ?_
  rcases dayNumber_le_iff.mp inOrder with earlier | ⟨sameMonth, dayInOrder⟩
  · exact .inl (by omega)
  · have sameLanding : later.monthNumber = otherLater.monthNumber := by omega
    obtain ⟨year, month⟩ := year_eq_and_month_eq sameLanding
    refine .inr ⟨sameLanding, ?_⟩
    rw [shifted.day_eq, otherShifted.day_eq, year, month]
    exact min_le_min_right _ dayInOrder

/-- The opposite shift leads back exactly when the day of the month did not have to be
moved. -/
theorem IsShiftedBy.neg_iff
    (shifted : date.IsShiftedBy months later) :
    later.IsShiftedBy (-months) date ↔ date.day ≤ monthLength later.year later.month := by
  have landed := shifted.day_eq
  have inMonth := date.valid.2.2.2
  constructor
  · rintro ⟨-, back⟩
    omega
  · intro fits
    refine ⟨?_, by omega⟩
    rw [shifted.monthNumber_eq]
    omega

end CalendarDay
end PolicyDecision
