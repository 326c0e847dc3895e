import PolicyDecision.Calendar.Moment
import PolicyDecision.Duration.DayTime
import PolicyDecision.Duration.YearMonth

/-!
# Dates and date-times

Calendar days and local moments with an optional offset from universal time.
Arithmetic works on the local fields and keeps the offset. Two date-times are
the same instant when they agree after their offsets are taken off; if either
has no offset, their local fields decide.
-/

namespace PolicyDecision

/-- A calendar day with an optional offset. -/
structure Date where
  day : CalendarDay
  offset : Option Offset
  deriving DecidableEq

/-- A local moment with an optional offset. -/
structure DateTime where
  moment : LocalMoment
  offset : Option Offset
  deriving DecidableEq

namespace Date

/-- The date of the given fields without an offset, if the calendar has it. -/
def ofFields? (year : Int) (month day : Nat) : Option Date :=
  (CalendarDay.ofFields? year month day).map fun day => ⟨day, none⟩

/-- The date with the given offset instead of its own. -/
def withOffset (date : Date) (offset : Offset) : Date :=
  { date with offset := some offset }

/-- The date shifted by a year-month duration. -/
def addYearMonth? (date : Date) (duration : YearMonthDuration) : Option Date :=
  (date.day.addMonths? duration.months.toInt).map fun day => { date with day }

end Date

namespace DateTime

/-- The date-time of the given fields without an offset, if there is one. The
second is followed by milliseconds, which reach two thousand in a leap second. -/
def ofFields? (year : Int) (month day hour minute second millisecond : Nat) : Option DateTime := do
  let day ← CalendarDay.ofFields? year month day
  let time ← TimeOfDay.ofFields? hour minute second (millisecond * 1000000)
  return ⟨⟨day, time⟩, none⟩

/-- The date-time with the given offset instead of its own. -/
def withOffset (dateTime : DateTime) (offset : Offset) : DateTime :=
  { dateTime with offset := some offset }

/-- The date-time a day-time duration later. -/
def addDayTime? (dateTime : DateTime) (duration : DayTimeDuration) : Option DateTime :=
  (dateTime.moment.addNanoseconds? duration.nanoseconds).map fun moment =>
    { dateTime with moment }

/-- The date-time shifted by a year-month duration. -/
def addYearMonth? (dateTime : DateTime) (duration : YearMonthDuration) : Option DateTime :=
  (dateTime.moment.addMonths? duration.months.toInt).map fun moment => { dateTime with moment }

/-- Seconds from the start of year zero in universal time, for local terms with
the given offset. -/
def universalSecond (moment : LocalMoment) (offset : Offset) : Int :=
  moment.secondNumber - offset.seconds

/-- Both values denote the same instant. -/
def sameInstant (first second : DateTime) : Bool :=
  match first.offset, second.offset with
  | some left, some right =>
      universalSecond first.moment left == universalSecond second.moment right &&
        first.moment.time.nanosecond == second.moment.time.nanosecond
  | _, _ => first.moment == second.moment

/-- A date-time is the same instant as itself. -/
@[simp] theorem sameInstant_self (dateTime : DateTime) : dateTime.sameInstant dateTime = true := by
  unfold sameInstant
  split <;> simp_all

end DateTime
end PolicyDecision
