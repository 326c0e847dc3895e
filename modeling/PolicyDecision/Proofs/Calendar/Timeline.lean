import PolicyDecision.Calendar.DateTime
import PolicyDecision.Proofs.Calendar.DayNumber

/-!
# The timeline

The moments outside leap seconds are the nanoseconds of the calendar's years, each
once. A day-time duration moves a moment along this line by its own length, as long
as the moment stays in those years.
-/

namespace PolicyDecision

namespace TimeOfDay

/-- Nanoseconds since midnight. -/
def nanosecondOfDay (time : TimeOfDay) : Nat :=
  time.secondOfDay * 1000000000 + time.nanosecond

theorem nanosecondOfDay_lt
    {time : TimeOfDay}
    (regular : time.nanosecond < 1000000000) : time.nanosecondOfDay < 86400000000000 := by
  obtain ⟨hour, minute, second, _⟩ := time.valid
  unfold nanosecondOfDay secondOfDay
  omega

theorem nanosecondOfDay_ofNanosecondOfDay
    {position : Nat}
    (inDay : position < 86400000000000) :
    (ofNanosecondOfDay position).nanosecondOfDay = position := by
  simp only [nanosecondOfDay, secondOfDay, ofNanosecondOfDay]
  omega

theorem ofNanosecondOfDay_nanosecondOfDay
    {time : TimeOfDay}
    (regular : time.nanosecond < 1000000000) :
    ofNanosecondOfDay time.nanosecondOfDay = time := by
  obtain ⟨hourBound, minuteBound, secondBound, _⟩ := time.valid
  cases time
  simp only [nanosecondOfDay, secondOfDay, ofNanosecondOfDay, mk.injEq] at *
  refine ⟨?_, ?_, ?_, ?_⟩ <;> omega

end TimeOfDay

namespace LocalMoment

/-- Nanoseconds since the start of year zero, as the wall clock and the calendar
count them. -/
def position (moment : LocalMoment) : Int :=
  moment.day.dayNumber * 86400000000000 + moment.time.nanosecondOfDay

/-- The moment at a position, if the calendar has it. -/
def ofPosition? (position : Int) : Option LocalMoment :=
  (CalendarDay.ofDayNumber? (position / 86400000000000)).map fun day =>
    ⟨day, .ofNanosecondOfDay (position % 86400000000000).toNat⟩

theorem nanosecond_lt
    {moment : LocalMoment}
    (regular : moment.isLeap = false) : moment.time.nanosecond < 1000000000 := by
  simpa [isLeap] using regular

/-- The moments outside leap seconds are those found at their positions. -/
theorem ofPosition?_eq_some_iff
    {position : Int}
    {moment : LocalMoment} :
    ofPosition? position = some moment ↔
      moment.isLeap = false ∧ moment.position = position := by
  have parts := Int.emod_add_mul_ediv position 86400000000000
  have inDay : (position % 86400000000000).toNat < 86400000000000 := by omega
  simp only [ofPosition?, Option.map_eq_some_iff, CalendarDay.ofDayNumber?_eq_some_iff]
  constructor
  · rintro ⟨day, numbered, rfl⟩
    refine ⟨decide_eq_false (Nat.not_le_of_lt (Nat.mod_lt _ (by decide))), ?_⟩
    rw [LocalMoment.position, numbered, TimeOfDay.nanosecondOfDay_ofNanosecondOfDay inDay]
    omega
  · rintro ⟨regular, rfl⟩
    have timeInDay := TimeOfDay.nanosecondOfDay_lt (nanosecond_lt regular)
    have sameDay : moment.position / 86400000000000 = moment.day.dayNumber := by
      unfold LocalMoment.position
      omega
    have sameTime : (moment.position % 86400000000000).toNat = moment.time.nanosecondOfDay := by
      unfold LocalMoment.position
      omega
    refine ⟨moment.day, sameDay.symm, ?_⟩
    rw [sameTime, TimeOfDay.ofNanosecondOfDay_nanosecondOfDay (nanosecond_lt regular)]

/-- The position lies in one of the years -262143 to 262142. -/
def InCalendar (position : Int) : Prop :=
  ∃ year, -262143 ≤ year ∧ year ≤ 262142 ∧ HoldsDay year (position / 86400000000000)

theorem isSome_ofPosition?_iff {position : Int} :
    (ofPosition? position).isSome ↔ InCalendar position := by
  rw [ofPosition?, Option.isSome_map, CalendarDay.isSome_ofDayNumber?_iff]
  rfl

/-- Outside leap seconds a moment moves by the nanoseconds that pass. -/
theorem addNanoseconds?_eq_ofPosition?
    {moment : LocalMoment}
    (regular : moment.isLeap = false)
    (nanoseconds : Int) :
    moment.addNanoseconds? nanoseconds = ofPosition? (moment.position + nanoseconds) := by
  have small := nanosecond_lt regular
  have starts : moment.startingPosition (0 < nanoseconds) = moment.time.nanosecondOfDay := by
    simp [startingPosition, regular, TimeOfDay.nanosecondOfDay]
  have sameDay : moment.day.dayNumber +
      (moment.time.nanosecondOfDay + nanoseconds) / 86400000000000 =
        (moment.position + nanoseconds) / 86400000000000 := by
    unfold position
    omega
  have sameTime : (moment.time.nanosecondOfDay + nanoseconds) % 86400000000000 =
      (moment.position + nanoseconds) % 86400000000000 := by
    unfold position
    omega
  rw [addNanoseconds?, dif_neg fun stays => absurd stays.1 (Nat.not_le_of_lt small)]
  dsimp only
  rw [starts, sameDay, sameTime, ofPosition?]

end LocalMoment

namespace DateTime

variable {dateTime : DateTime}

/-- A duration leads from a date-time to the one at the moved position with the same
offset. -/
theorem addDayTime?_eq_some_iff
    (regular : dateTime.moment.isLeap = false)
    {duration : DayTimeDuration}
    {later : DateTime} :
    dateTime.addDayTime? duration = some later ↔
      later.moment.isLeap = false ∧
        later.moment.position = dateTime.moment.position + duration.nanoseconds ∧
        later.offset = dateTime.offset := by
  rw [addDayTime?, LocalMoment.addNanoseconds?_eq_ofPosition? regular, Option.map_eq_some_iff]
  simp only [LocalMoment.ofPosition?_eq_some_iff]
  constructor
  · rintro ⟨moment, ⟨laterRegular, moved⟩, rfl⟩
    exact ⟨laterRegular, moved, rfl⟩
  · rintro ⟨laterRegular, moved, sameOffset⟩
    refine ⟨later.moment, ⟨laterRegular, moved⟩, ?_⟩
    rw [← sameOffset]

/-- A duration leads somewhere unless it leads out of the calendar. -/
theorem isSome_addDayTime?_iff
    (regular : dateTime.moment.isLeap = false)
    {duration : DayTimeDuration} :
    (dateTime.addDayTime? duration).isSome ↔
      LocalMoment.InCalendar (dateTime.moment.position + duration.nanoseconds) := by
  rw [addDayTime?, LocalMoment.addNanoseconds?_eq_ofPosition? regular, Option.isSome_map,
    LocalMoment.isSome_ofPosition?_iff]

end DateTime
end PolicyDecision
