import PolicyDecision.Calendar.Day

/-!
# Moments

Times of day with nanoseconds, offsets from universal time, and local moments on
a calendar day. A minute may end in a leap second, which is kept as nanoseconds
of one thousand million or more in its fifty-ninth second.
-/

namespace PolicyDecision

/-- Nanoseconds of a second. -/
def nanosecondsPerSecond : Nat := 1000000000

/-- Seconds of a day. -/
def secondsPerDay : Nat := 86400

/-- The four numbers name a time of day. -/
def IsTimeOfDay (hour minute second nanosecond : Nat) : Prop :=
  hour < 24 ∧ minute < 60 ∧ second < 60 ∧ nanosecond < 2000000000 ∧
    (1000000000 ≤ nanosecond → second = 59)

instance (hour minute second nanosecond : Nat) :
    Decidable (IsTimeOfDay hour minute second nanosecond) := by
  unfold IsTimeOfDay
  infer_instance

/-- A time of day. -/
structure TimeOfDay where
  hour : Nat
  minute : Nat
  second : Nat
  nanosecond : Nat
  valid : IsTimeOfDay hour minute second nanosecond
  deriving DecidableEq

namespace TimeOfDay

/-- The time of the given fields, if there is one. -/
def ofFields? (hour minute second nanosecond : Nat) : Option TimeOfDay :=
  if valid : IsTimeOfDay hour minute second nanosecond then
    some ⟨hour, minute, second, nanosecond, valid⟩
  else none

/-- The fields of a time make that time again. -/
@[simp] theorem ofFields?_fields (time : TimeOfDay) :
    ofFields? time.hour time.minute time.second time.nanosecond = some time := by
  simp [ofFields?, time.valid]

/-- Whole seconds since midnight. -/
def secondOfDay (time : TimeOfDay) : Nat :=
  3600 * time.hour + 60 * time.minute + time.second

/-- The time that lies a number of nanoseconds after midnight, counted around
the clock, without leap seconds. -/
def ofNanosecondOfDay (position : Nat) : TimeOfDay where
  hour := position / 1000000000 % 86400 / 3600
  minute := position / 1000000000 % 3600 / 60
  second := position / 1000000000 % 60
  nanosecond := position % 1000000000
  valid := by unfold IsTimeOfDay; omega

end TimeOfDay

/-- An offset of local time from universal time, in seconds to the east. It is
less than a day either way. -/
structure Offset where
  seconds : Int
  lower : -86400 < seconds
  upper : seconds < 86400
  deriving DecidableEq

namespace Offset

/-- The offset of a number of seconds to the east, when it is less than a day. -/
def ofSeconds? (seconds : Int) : Option Offset :=
  if bounds : -86400 < seconds ∧ seconds < 86400 then some ⟨seconds, bounds.1, bounds.2⟩
  else none

end Offset

/-- A time on a calendar day, in local terms. -/
structure LocalMoment where
  day : CalendarDay
  time : TimeOfDay
  deriving DecidableEq

namespace LocalMoment

/-- Seconds since the start of year zero. -/
def secondNumber (moment : LocalMoment) : Int :=
  moment.day.dayNumber * 86400 + moment.time.secondOfDay

/-- The time falls into a leap second. -/
def isLeap (moment : LocalMoment) : Bool :=
  1000000000 ≤ moment.time.nanosecond

/-- Nanoseconds since midnight, from which a duration is counted. Going forward
from a leap second, the leap second takes no time of its own. -/
def startingPosition (moment : LocalMoment) (forward : Bool) : Int :=
  (moment.time.secondOfDay : Int) * 1000000000 + moment.time.nanosecond -
    (if moment.isLeap && forward then 1000000000 else 0)

/-- The moment a number of nanoseconds later, if the calendar has it. A change
that stays within a leap second and the second before it only moves the
nanoseconds. -/
def addNanoseconds? (moment : LocalMoment) (nanoseconds : Int) : Option LocalMoment :=
  if stays : 1000000000 ≤ moment.time.nanosecond ∧ -1000000000 < nanoseconds ∧
      nanoseconds < 1000000000 ∧ moment.time.nanosecond + nanoseconds < 2000000000 then
    some
      { moment with
        time :=
          { moment.time with
            nanosecond := (moment.time.nanosecond + nanoseconds).toNat
            valid := by
              obtain ⟨hour, minute, second, _, leap⟩ := moment.time.valid
              exact ⟨hour, minute, second, by omega, fun _ => leap stays.1⟩ } }
  else
    let position := moment.startingPosition (0 < nanoseconds) + nanoseconds
    (CalendarDay.ofDayNumber? (moment.day.dayNumber + position / 86400000000000)).map fun day =>
      ⟨day, TimeOfDay.ofNanosecondOfDay (position % 86400000000000).toNat⟩

/-- The moment shifted by a signed number of months, at the same time of day. -/
def addMonths? (moment : LocalMoment) (months : Int) : Option LocalMoment :=
  (moment.day.addMonths? months).map fun day => { moment with day }

end LocalMoment
end PolicyDecision
