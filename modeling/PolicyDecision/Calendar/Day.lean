/-!
# Calendar days

Days of the proleptic Gregorian calendar with astronomical year numbers, their
position in the sequence of all days, and the shift of a day by whole months.
-/

namespace PolicyDecision

/-- The first year of the calendar. -/
def minimumYear : Int := -262143

/-- The last year of the calendar. -/
def maximumYear : Int := 262142

/-- The year has a twenty-ninth of February. -/
def isLeapYear (year : Int) : Bool :=
  year % 4 == 0 && (year % 100 != 0 || year % 400 == 0)

/-- The number of days of a month; there are none in a month that does not
exist. -/
def monthLength (year : Int) (month : Nat) : Nat :=
  match month with
  | 1 | 3 | 5 | 7 | 8 | 10 | 12 => 31
  | 4 | 6 | 9 | 11 => 30
  | 2 => if isLeapYear year then 29 else 28
  | _ => 0

/-- The three numbers name a day of the calendar. -/
def IsCalendarDay (year : Int) (month day : Nat) : Prop :=
  minimumYear ≤ year ∧ year ≤ maximumYear ∧ 1 ≤ day ∧ day ≤ monthLength year month

instance (year : Int) (month day : Nat) : Decidable (IsCalendarDay year month day) := by
  unfold IsCalendarDay
  infer_instance

/-- A day of the calendar. -/
structure CalendarDay where
  year : Int
  month : Nat
  day : Nat
  valid : IsCalendarDay year month day
  deriving DecidableEq

/-- The number of days from the start of year zero to the start of a year. -/
def daysBeforeYear (year : Int) : Int :=
  365 * year + (year + 3) / 4 - (year + 99) / 100 + (year + 399) / 400

/-- The number of days of a year before a month. -/
def daysBeforeMonth (year : Int) (month : Nat) : Nat :=
  (List.range (month - 1)).foldl (fun days earlier => days + monthLength year (earlier + 1)) 0

namespace CalendarDay

/-- The day of the given fields, if the calendar has it. -/
def ofFields? (year : Int) (month day : Nat) : Option CalendarDay :=
  if valid : IsCalendarDay year month day then some ⟨year, month, day, valid⟩ else none

/-- The fields of a calendar day make that day again. -/
@[simp] theorem ofFields?_fields (date : CalendarDay) :
    ofFields? date.year date.month date.day = some date := by
  simp [ofFields?, date.valid]

/-- A day made of fields has those fields. -/
theorem fields_of_ofFields?
    {year : Int} {month day : Nat} {date : CalendarDay}
    (made : ofFields? year month day = some date) :
    date.year = year ∧ date.month = month ∧ date.day = day := by
  simp only [ofFields?] at made
  split at made
  · cases made
    exact ⟨rfl, rfl, rfl⟩
  · cases made

/-- The number of days from the first day of year zero. -/
def dayNumber (date : CalendarDay) : Int :=
  daysBeforeYear date.year + daysBeforeMonth date.year date.month + (date.day - 1)

/-- The year that holds the day with a number. The mean length of a year puts
the first guess at most one year off. -/
def yearOfDayNumber (number : Int) : Int :=
  let guess := 400 * number / 146097
  if number < daysBeforeYear guess then guess - 1
  else if daysBeforeYear (guess + 1) ≤ number then guess + 1
  else guess

/-- The month and the day of the month that lie `offset` days after the first of
`month`, going at most `remaining` months further. -/
def monthAndDay (year : Int) : Nat → Nat → Nat → Nat × Nat
  | 0, month, offset => (month, offset + 1)
  | remaining + 1, month, offset =>
      if offset < monthLength year month then (month, offset + 1)
      else monthAndDay year remaining (month + 1) (offset - monthLength year month)

/-- The day with a number, if it lies in the years of the calendar. -/
def ofDayNumber? (number : Int) : Option CalendarDay :=
  let year := yearOfDayNumber number
  let (month, day) := monthAndDay year 11 1 (number - daysBeforeYear year).toNat
  ofFields? year month day

/-- The number of months from the start of year zero. -/
def monthIndex (date : CalendarDay) : Int :=
  12 * date.year + ((date.month : Int) - 1)

/-- The day shifted by a signed number of months. It moves to the end of the
target month when that month is too short for it. -/
def addMonths? (date : CalendarDay) (months : Int) : Option CalendarDay :=
  let index := date.monthIndex + months
  let year := index / 12
  let month := (index % 12).toNat + 1
  ofFields? year month (min date.day (monthLength year month))

/-- Shifting by no months changes nothing. -/
theorem addMonths?_zero (date : CalendarDay) : date.addMonths? 0 = some date := by
  obtain ⟨_, _, _, dayBound⟩ := date.valid
  have monthBounds : 1 ≤ date.month ∧ date.month ≤ 12 := by
    refine ⟨?_, ?_⟩
    · rcases Nat.eq_zero_or_pos date.month with zero | positive
      · rw [zero] at dayBound
        simp only [monthLength] at dayBound
        omega
      · exact positive
    · refine Nat.le_of_not_lt fun late => ?_
      have none : monthLength date.year date.month = 0 := by
        unfold monthLength
        split <;> omega
      omega
  have yearKept : (date.monthIndex + 0) / 12 = date.year := by
    simp only [monthIndex]
    omega
  have monthKept : ((date.monthIndex + 0) % 12).toNat + 1 = date.month := by
    simp only [monthIndex]
    omega
  simp only [addMonths?, yearKept, monthKept, Nat.min_eq_left dayBound, ofFields?_fields]

end CalendarDay
end PolicyDecision
