import Mathlib.Algebra.Order.SuccPred
import PolicyDecision.Calendar.Day

/-!
# Numbered days

The numbers of the days run through the calendar without gaps: the day after a
day has the next number, every number belongs to one day of one year, and the day
with a number is found again as long as its year belongs to the calendar.
-/

namespace PolicyDecision

/-! ## Years -/

/-- The number of days of a year. -/
def yearLength (year : Int) : Nat := if isLeapYear year then 366 else 365

theorem daysBeforeYear_succ (year : Int) :
    daysBeforeYear (year + 1) = daysBeforeYear year + yearLength year := by
  unfold yearLength isLeapYear daysBeforeYear
  by_cases fourth : year % 4 = 0 <;> by_cases century : year % 100 = 0 <;>
    by_cases fourthCentury : year % 400 = 0 <;>
      simp [fourth, century, fourthCentury] <;> omega

theorem daysBeforeYear_lt_iff {year later : Int} :
    daysBeforeYear year < daysBeforeYear later ↔ year < later := by
  have increasing : StrictMono daysBeforeYear := by
    refine strictMono_int_of_lt_succ fun year => ?_
    rw [daysBeforeYear_succ, yearLength]
    split <;> omega
  exact increasing.lt_iff_lt

/-- Four hundred years have 146097 days, and the days before any year are close to
their share. -/
theorem daysBeforeYear_bounds (year : Int) :
    146097 * year - 396 ≤ 400 * daysBeforeYear year ∧
      400 * daysBeforeYear year ≤ 146097 * year + 699 := by
  unfold daysBeforeYear
  omega

/-- The day with the number lies in the year. -/
def HoldsDay (year number : Int) : Prop :=
  daysBeforeYear year ≤ number ∧ number < daysBeforeYear (year + 1)

/-- A day lies in one year only. -/
theorem HoldsDay.unique
    {year other number : Int}
    (holds : HoldsDay year number)
    (otherHolds : HoldsDay other number) : year = other := by
  have notLater := daysBeforeYear_lt_iff.mp (holds.1.trans_lt otherHolds.2)
  have notEarlier := daysBeforeYear_lt_iff.mp (otherHolds.1.trans_lt holds.2)
  omega

theorem holdsDay_yearOfDayNumber (number : Int) :
    HoldsDay (CalendarDay.yearOfDayNumber number) number := by
  unfold CalendarDay.yearOfDayNumber HoldsDay
  -- The guess is at most one year off, so one of the three cases is the right one.
  have before := daysBeforeYear_bounds (400 * number / 146097 - 1)
  have after := daysBeforeYear_bounds (400 * number / 146097 + 1 + 1)
  dsimp only
  split
  · rw [Int.sub_add_cancel]
    omega
  · split <;> omega

/-! ## Months -/

@[simp] theorem daysBeforeMonth_one (year : Int) : daysBeforeMonth year 1 = 0 := rfl

theorem daysBeforeMonth_succ
    (year : Int)
    {month : Nat}
    (positive : 1 ≤ month) :
    daysBeforeMonth year (month + 1) = daysBeforeMonth year month + monthLength year month := by
  obtain ⟨earlier, rfl⟩ := Nat.exists_eq_add_of_le' positive
  simp [daysBeforeMonth, List.range_succ]

theorem daysBeforeMonth_mono
    (year : Int)
    {month later : Nat}
    (positive : 1 ≤ month)
    (notAfter : month ≤ later) : daysBeforeMonth year month ≤ daysBeforeMonth year later := by
  induction later, notAfter using Nat.le_induction with
  | base => exact le_refl _
  | succ later notAfter inductionHypothesis =>
      rw [daysBeforeMonth_succ year (positive.trans notAfter)]
      omega

/-- The twelve months make up the year. -/
theorem daysBeforeMonth_thirteen (year : Int) : daysBeforeMonth year 13 = yearLength year := by
  unfold yearLength
  cases leap : isLeapYear year <;>
    simp [daysBeforeMonth, List.range_succ, monthLength, leap]

/-- The day of the month lies `offset` days after the first day of the year. -/
structure IsDayOfYear (year : Int) (month day offset : Nat) : Prop where
  month_pos : 1 ≤ month
  day_pos : 1 ≤ day
  day_le : day ≤ monthLength year month
  offset_eq : daysBeforeMonth year month + (day - 1) = offset

section IsDayOfYear

variable {year : Int} {month day offset : Nat}

theorem monthLength_of_not_month
    (noMonth : month = 0 ∨ 12 < month) : monthLength year month = 0 := by
  unfold monthLength
  split <;> omega

theorem IsDayOfYear.month_le (isDay : IsDayOfYear year month day offset) : month ≤ 12 := by
  have positive := isDay.day_pos
  have inMonth := isDay.day_le
  refine Nat.le_of_not_lt fun late => ?_
  rw [monthLength_of_not_month (.inr late)] at inMonth
  omega

/-- A day of a later month comes later. -/
theorem IsDayOfYear.offset_lt
    (isDay : IsDayOfYear year month day offset)
    {later : Nat}
    (isLater : month < later) : offset < daysBeforeMonth year later := by
  have days := daysBeforeMonth_mono year (Nat.le_add_left 1 month) isLater
  rw [daysBeforeMonth_succ year isDay.month_pos] at days
  have counted := isDay.offset_eq
  have inMonth := isDay.day_le
  have positive := isDay.day_pos
  omega

theorem IsDayOfYear.offset_lt_yearLength
    (isDay : IsDayOfYear year month day offset) : offset < yearLength year := by
  rw [← daysBeforeMonth_thirteen]
  exact isDay.offset_lt (Nat.lt_succ_of_le isDay.month_le)

/-- A year has one day with an offset. -/
theorem IsDayOfYear.unique
    {otherMonth otherDay : Nat}
    (isDay : IsDayOfYear year month day offset)
    (other : IsDayOfYear year otherMonth otherDay offset) :
    month = otherMonth ∧ day = otherDay := by
  have days := isDay.offset_eq
  have otherDays := other.offset_eq
  have notEarlier : ¬month < otherMonth := fun earlier => by
    have sooner := isDay.offset_lt earlier
    omega
  have notLater : ¬otherMonth < month := fun later => by
    have sooner := other.offset_lt later
    omega
  have sameMonth : month = otherMonth := by omega
  subst sameMonth
  have positive := isDay.day_pos
  have otherPositive := other.day_pos
  exact ⟨rfl, by omega⟩

/-- Going on from a month leads to the day of the year. -/
theorem isDayOfYear_monthAndDay
    {remaining : Nat}
    (positive : 1 ≤ month)
    (months : month + remaining = 12)
    (inYear : daysBeforeMonth year month + offset < yearLength year) :
    IsDayOfYear year (CalendarDay.monthAndDay year remaining month offset).1
      (CalendarDay.monthAndDay year remaining month offset).2
      (daysBeforeMonth year month + offset) := by
  induction remaining generalizing month offset with
  | zero =>
      refine ⟨positive, Nat.le_add_left 1 offset, ?_, rfl⟩
      rw [← daysBeforeMonth_thirteen, show 13 = month + 1 by omega,
        daysBeforeMonth_succ year positive] at inYear
      exact Nat.lt_of_add_lt_add_left inYear
  | succ remaining inductionHypothesis =>
      rw [CalendarDay.monthAndDay]
      split
      · rename_i inMonth
        exact ⟨positive, Nat.le_add_left 1 offset, inMonth, rfl⟩
      · rename_i beyond
        have days : daysBeforeMonth year (month + 1) + (offset - monthLength year month) =
            daysBeforeMonth year month + offset := by
          rw [daysBeforeMonth_succ year positive]
          omega
        rw [← days] at inYear ⊢
        exact inductionHypothesis (Nat.le_add_left 1 month) (by omega) inYear

end IsDayOfYear

/-! ## Days -/

namespace CalendarDay

theorem month_pos (date : CalendarDay) : 1 ≤ date.month := by
  obtain ⟨_, _, first, last⟩ := date.valid
  refine Nat.pos_of_ne_zero fun isZero => ?_
  rw [monthLength_of_not_month (.inl isZero)] at last
  omega

theorem isDayOfYear (date : CalendarDay) :
    IsDayOfYear date.year date.month date.day
      (daysBeforeMonth date.year date.month + (date.day - 1)) :=
  ⟨date.month_pos, date.valid.2.2.1, date.valid.2.2.2, rfl⟩

/-- A day is numbered from the first day of its year. -/
theorem dayNumber_eq_iff
    {date : CalendarDay}
    {offset : Nat} :
    date.dayNumber = daysBeforeYear date.year + offset ↔
      IsDayOfYear date.year date.month date.day offset := by
  have positive := date.valid.2.2.1
  constructor
  · intro numbered
    refine ⟨date.month_pos, positive, date.valid.2.2.2, ?_⟩
    simp only [dayNumber] at numbered
    omega
  · intro isDay
    have days := isDay.offset_eq
    simp only [dayNumber]
    omega

theorem holdsDay_dayNumber (date : CalendarDay) : HoldsDay date.year date.dayNumber := by
  have numbered := dayNumber_eq_iff.mpr date.isDayOfYear
  have inYear := date.isDayOfYear.offset_lt_yearLength
  rw [HoldsDay, daysBeforeYear_succ]
  omega

/-- The month and the day that are found from a number in the year. -/
theorem isDayOfYear_of_holdsDay
    {year number : Int}
    (holds : HoldsDay year number) :
    IsDayOfYear year (monthAndDay year 11 1 (number - daysBeforeYear year).toNat).1
      (monthAndDay year 11 1 (number - daysBeforeYear year).toNat).2
      (number - daysBeforeYear year).toNat := by
  have ends := holds.2
  rw [daysBeforeYear_succ] at ends
  have inYear :
      daysBeforeMonth year 1 + (number - daysBeforeYear year).toNat < yearLength year := by
    have starts := holds.1
    rw [daysBeforeMonth_one]
    omega
  have isDay := isDayOfYear_monthAndDay (le_refl 1) (show 1 + 11 = 12 from rfl) inYear
  rwa [daysBeforeMonth_one, Nat.zero_add] at isDay

/-- The day with a number is looked for in the year that holds it. -/
theorem ofDayNumber?_eq_of_holdsDay
    {year number : Int}
    (holds : HoldsDay year number) :
    ofDayNumber? number =
      ofFields? year (monthAndDay year 11 1 (number - daysBeforeYear year).toNat).1
        (monthAndDay year 11 1 (number - daysBeforeYear year).toNat).2 := by
  rw [holds.unique (holdsDay_yearOfDayNumber number)]
  rfl

/-- The day with a number is found from that number. -/
theorem ofDayNumber?_eq_some_iff
    {number : Int}
    {date : CalendarDay} : ofDayNumber? number = some date ↔ date.dayNumber = number := by
  constructor
  · intro found
    have holds := holdsDay_yearOfDayNumber number
    have isDay := isDayOfYear_of_holdsDay holds
    rw [ofDayNumber?_eq_of_holdsDay holds] at found
    obtain ⟨year, month, day⟩ := fields_of_ofFields? found
    rw [← month, ← day, ← year] at isDay
    rw [← year] at holds
    have starts := holds.1
    rw [dayNumber_eq_iff.mpr isDay]
    omega
  · rintro rfl
    have holds := date.holdsDay_dayNumber
    have starts := holds.1
    have inYear : date.dayNumber = daysBeforeYear date.year +
        (date.dayNumber - daysBeforeYear date.year).toNat := by omega
    obtain ⟨month, day⟩ :=
      (dayNumber_eq_iff.mp inYear).unique (isDayOfYear_of_holdsDay holds)
    rw [ofDayNumber?_eq_of_holdsDay holds, ← month, ← day, ofFields?_fields]

theorem isSome_ofFields?_iff {year : Int} {month day : Nat} :
    (ofFields? year month day).isSome ↔ IsCalendarDay year month day := by
  unfold ofFields?
  split <;> simp_all

/-- The days of the calendar are those of its years. -/
theorem isSome_ofDayNumber?_iff {number : Int} :
    (ofDayNumber? number).isSome ↔
      ∃ year, minimumYear ≤ year ∧ year ≤ maximumYear ∧ HoldsDay year number := by
  constructor
  · intro found
    have holds := holdsDay_yearOfDayNumber number
    rw [ofDayNumber?_eq_of_holdsDay holds, isSome_ofFields?_iff] at found
    exact ⟨_, found.1, found.2.1, holds⟩
  · rintro ⟨year, first, last, holds⟩
    have isDay := isDayOfYear_of_holdsDay holds
    rw [ofDayNumber?_eq_of_holdsDay holds, isSome_ofFields?_iff]
    exact ⟨first, last, isDay.day_pos, isDay.day_le⟩

/-! ## Succession -/

/-- The second day comes right after the first one: later in its month, on the first
day of the next month, or on the first day of the next year. -/
inductive IsFollowedBy (day next : CalendarDay) : Prop
  | inMonth :
      next.year = day.year → next.month = day.month → next.day = day.day + 1 →
        IsFollowedBy day next
  | nextMonth :
      day.day = monthLength day.year day.month →
        next.year = day.year → next.month = day.month + 1 → next.day = 1 → IsFollowedBy day next
  | nextYear :
      day.month = 12 → day.day = 31 →
        next.year = day.year + 1 → next.month = 1 → next.day = 1 → IsFollowedBy day next

/-- The day after a day has the next number. -/
theorem IsFollowedBy.dayNumber_eq
    {day next : CalendarDay}
    (follows : day.IsFollowedBy next) : next.dayNumber = day.dayNumber + 1 := by
  have positive := day.valid.2.2.1
  cases follows with
  | inMonth year month nextDay =>
      simp only [dayNumber, year, month, nextDay]
      omega
  | nextMonth lastDay year month nextDay =>
      simp only [dayNumber, year, month, nextDay, daysBeforeMonth_succ day.year day.month_pos]
      omega
  | nextYear lastMonth lastDay year month nextDay =>
      have wholeYear := daysBeforeMonth_succ day.year (show 1 ≤ 12 by decide)
      rw [daysBeforeMonth_thirteen] at wholeYear
      simp only [monthLength] at wholeYear
      simp only [dayNumber, year, month, nextDay, lastMonth, lastDay, daysBeforeYear_succ,
        daysBeforeMonth_one]
      omega

end CalendarDay
end PolicyDecision
