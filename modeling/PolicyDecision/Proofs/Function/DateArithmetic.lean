import PolicyDecision.Proofs.Calendar.Timeline
import PolicyDecision.Proofs.Value.CanonicalText

/-!
# Durations on the timeline

The functions that add a day-time duration to a date-time, or subtract one from it,
are exact: they move the wall clock by the duration and keep the offset, and they
fail exactly when that leads out of the calendar. What has been added can therefore
be taken back, and durations can be added one by one or all at once.
-/

namespace PolicyDecision

/-! ## Outcomes -/

/-- The outcome is the date-time at the position with the offset if the position lies in
the calendar, and a failure if it does not. -/
structure Outcome.IsDateTimeAt
    (outcome : Outcome)
    (position : Int)
    (offset : Option Offset) : Prop where
  single_iff : ∀ value, outcome = .single value ↔
    ∃ moved : DateTime, value = .dateTime moved ∧ moved.moment.isLeap = false ∧
      moved.moment.position = position ∧ moved.offset = offset
  isSingle_iff : (∃ value, outcome = .single value) ↔ LocalMoment.InCalendar position
  isFailed_iff : (∃ status, outcome = .failed status) ↔ ¬LocalMoment.InCalendar position

/-- The outcome of moving a date-time that is found exactly where the calendar has one. -/
theorem Outcome.IsDateTimeAt.ofMoved
    {moved : Option DateTime}
    {position : Int}
    {offset : Option Offset}
    (found : ∀ there, moved = some there ↔
      there.moment.isLeap = false ∧ there.moment.position = position ∧ there.offset = offset)
    (inCalendar : moved.isSome ↔ LocalMoment.InCalendar position)
    (status : Status) :
    (match moved with
      | some there => Outcome.single (.dateTime there)
      | none => .failed status).IsDateTimeAt position offset := by
  cases moved with
  | some there =>
      refine ⟨fun value => ?_, by simpa using inCalendar, by simpa using inCalendar⟩
      simp only [← found, Option.some.injEq, Outcome.single.injEq]
      constructor
      · rintro rfl
        exact ⟨there, rfl, rfl⟩
      · rintro ⟨_, rfl, rfl⟩
        rfl
  | none =>
      refine ⟨fun value => ?_, by simpa using inCalendar, by simpa using inCalendar⟩
      simp [← found]

/-- A date-time outside leap seconds is the outcome when it is at the position. -/
theorem Outcome.IsDateTimeAt.eq_single
    {outcome : Outcome}
    {position : Int}
    {dateTime : DateTime}
    (isAt : outcome.IsDateTimeAt position dateTime.offset)
    (regular : dateTime.moment.isLeap = false)
    (there : dateTime.moment.position = position) : outcome = .single (.dateTime dateTime) :=
  (isAt.single_iff _).mpr ⟨dateTime, rfl, regular, there, rfl⟩

/-- A date-time that is the outcome is at the position and has the offset. -/
theorem Outcome.IsDateTimeAt.of_eq_single
    {outcome : Outcome}
    {position : Int}
    {offset : Option Offset}
    {dateTime : DateTime}
    (isAt : outcome.IsDateTimeAt position offset)
    (isOutcome : outcome = .single (.dateTime dateTime)) :
    dateTime.moment.isLeap = false ∧ dateTime.moment.position = position ∧
      dateTime.offset = offset := by
  obtain ⟨moved, same, isMoved⟩ := (isAt.single_iff _).mp isOutcome
  cases same
  exact isMoved

namespace DateFunction

/-- The duration as the function adds it: the opposite one when it subtracts. -/
def directed (function : DateFunction) (duration : DayTimeDuration) : DayTimeDuration :=
  if function.subtracts then duration.negate else duration

/-- The functions of a day-time duration move their operand by it or fail. -/
theorem apply_dayTime
    {function : DateFunction}
    (ofDayTime : function.durationDatatype = .dayTimeDuration)
    (dateTime : DateTime)
    (duration : DayTimeDuration) :
    (Function.date function).apply
        [.value (.dateTime dateTime), .value (.dayTimeDuration duration)] =
      match dateTime.addDayTime? (function.directed duration) with
      | some moved => .single (.dateTime moved)
      | none =>
          .failed
            ((Status.processingError ("Result of " ++ (Value.dateTime dateTime).text ++ " with " ++
              (Value.dayTimeDuration duration).text ++ " is out of range")).prefixed
                (Function.date function).shortId) := by
  have operand : Argument.simple function.operandDatatype (.value (.dateTime dateTime)) =
      .ok (.dateTime dateTime) := by
    cases function <;> first | rfl | cases ofDayTime
  have shifted : function.shift? (.dateTime dateTime) (.dayTimeDuration duration) =
      .ok ((dateTime.addDayTime? (function.directed duration)).map .dateTime) := rfl
  have second : Argument.simple function.durationDatatype (.value (.dayTimeDuration duration)) =
      .ok (.dayTimeDuration duration) := by
    rw [ofDayTime]
    rfl
  simp only [Function.apply, Function.compute, DateFunction.apply, Argument.two, ok_bind, operand,
    second, shifted]
  cases dateTime.addDayTime? (function.directed duration) <;> rfl

/-- The functions of a day-time duration are exact outside leap seconds. -/
theorem isDateTimeAt_apply
    (function : DateFunction)
    (ofDayTime : function.durationDatatype = .dayTimeDuration)
    {dateTime : DateTime}
    (regular : dateTime.moment.isLeap = false)
    (duration : DayTimeDuration) :
    ((Function.date function).apply
        [.value (.dateTime dateTime), .value (.dayTimeDuration duration)]).IsDateTimeAt
      (dateTime.moment.position + (function.directed duration).nanoseconds) dateTime.offset := by
  rw [apply_dayTime ofDayTime]
  exact .ofMoved (fun _ => DateTime.addDayTime?_eq_some_iff regular)
    (DateTime.isSome_addDayTime?_iff regular) _

end DateFunction

/-! ## Addition and subtraction -/

namespace DateTime

/-- The outcome of adding a day-time duration. -/
def plus (dateTime : DateTime) (duration : DayTimeDuration) : Outcome :=
  (Function.date .dateTimeAddDayTime).apply
    [.value (.dateTime dateTime), .value (.dayTimeDuration duration)]

/-- The outcome of subtracting a day-time duration. -/
def minus (dateTime : DateTime) (duration : DayTimeDuration) : Outcome :=
  (Function.date .dateTimeSubtractDayTime).apply
    [.value (.dateTime dateTime), .value (.dayTimeDuration duration)]

variable {dateTime : DateTime}

theorem isDateTimeAt_plus
    (regular : dateTime.moment.isLeap = false)
    (duration : DayTimeDuration) :
    (dateTime.plus duration).IsDateTimeAt
      (dateTime.moment.position + duration.nanoseconds) dateTime.offset :=
  DateFunction.isDateTimeAt_apply .dateTimeAddDayTime rfl regular duration

theorem isDateTimeAt_minus
    (regular : dateTime.moment.isLeap = false)
    (duration : DayTimeDuration) :
    (dateTime.minus duration).IsDateTimeAt
      (dateTime.moment.position - duration.nanoseconds) dateTime.offset :=
  DateFunction.isDateTimeAt_apply .dateTimeSubtractDayTime rfl regular duration

/-- What has been added can be taken back. -/
theorem minus_of_plus
    (regular : dateTime.moment.isLeap = false)
    {duration : DayTimeDuration}
    {later : DateTime}
    (added : dateTime.plus duration = .single (.dateTime later)) :
    later.minus duration = .single (.dateTime dateTime) := by
  obtain ⟨laterRegular, moved, sameOffset⟩ :=
    (isDateTimeAt_plus regular duration).of_eq_single added
  have back := isDateTimeAt_minus laterRegular duration
  rw [sameOffset] at back
  exact back.eq_single regular (by rw [moved, Int.add_sub_cancel])

/-- Durations that can be added one after the other can be added at once. -/
theorem plus_of_plus_plus
    (regular : dateTime.moment.isLeap = false)
    {first second sum : DayTimeDuration}
    (isSum : sum.nanoseconds = first.nanoseconds + second.nanoseconds)
    {between later : DateTime}
    (addedFirst : dateTime.plus first = .single (.dateTime between))
    (addedSecond : between.plus second = .single (.dateTime later)) :
    dateTime.plus sum = .single (.dateTime later) := by
  obtain ⟨betweenRegular, betweenMoved, betweenOffset⟩ :=
    (isDateTimeAt_plus regular first).of_eq_single addedFirst
  obtain ⟨laterRegular, laterMoved, laterOffset⟩ :=
    (isDateTimeAt_plus betweenRegular second).of_eq_single addedSecond
  have atOnce := isDateTimeAt_plus regular sum
  rw [← betweenOffset, ← laterOffset] at atOnce
  exact atOnce.eq_single laterRegular (by rw [laterMoved, betweenMoved, isSum, Int.add_assoc])

/-- Adding a day-time duration to a date-time that was read, or computed from such,
and subtracting one are exact on a timeline of nanoseconds that counts the days of
the calendar one after the other. No time changes nothing, what has been added can be
taken back, and durations can be added one by one or at once. -/
theorem dayTime_arithmetic_exact
    (obtained : Value.Obtained (.dateTime dateTime)) :
    (∀ duration : DayTimeDuration,
      (dateTime.plus duration).IsDateTimeAt
          (dateTime.moment.position + duration.nanoseconds) dateTime.offset ∧
        (dateTime.minus duration).IsDateTimeAt
          (dateTime.moment.position - duration.nanoseconds) dateTime.offset) ∧
    (∀ day next : CalendarDay, day.IsFollowedBy next → next.dayNumber = day.dayNumber + 1) ∧
    (∀ duration : DayTimeDuration, duration.isZero = true →
      dateTime.plus duration = .single (.dateTime dateTime) ∧
        dateTime.minus duration = .single (.dateTime dateTime)) ∧
    (∀ (duration : DayTimeDuration) (later : DateTime),
      dateTime.plus duration = .single (.dateTime later) →
        later.minus duration = .single (.dateTime dateTime)) ∧
    ∀ (first second sum : DayTimeDuration) (between later : DateTime),
      sum.nanoseconds = first.nanoseconds + second.nanoseconds →
        dateTime.plus first = .single (.dateTime between) →
        between.plus second = .single (.dateTime later) →
          dateTime.plus sum = .single (.dateTime later) := by
  have regular : dateTime.moment.isLeap = false := obtained.isLexical.1
  refine ⟨fun duration => ⟨isDateTimeAt_plus regular duration, isDateTimeAt_minus regular duration⟩,
    fun day next => CalendarDay.IsFollowedBy.dayNumber_eq, fun duration isZero => ?_,
    fun duration later => minus_of_plus regular,
    fun first second sum between later isSum => plus_of_plus_plus regular isSum⟩
  have noTime : duration.nanoseconds = 0 := by simpa [DayTimeDuration.isZero] using isZero
  exact ⟨(isDateTimeAt_plus regular duration).eq_single regular (by omega),
    (isDateTimeAt_minus regular duration).eq_single regular (by omega)⟩

/-- Sixty days and three quarters of a second lead from the end of the year before a
leap year over its leap day, and back. -/
theorem dayTime_arithmetic_exact_of_leapDay :
    let zone : Offset := ⟨19800, by decide, by decide⟩
    let start : DateTime :=
      ⟨⟨⟨-1, 12, 31, by decide⟩, ⟨23, 59, 59, 500000000, by decide⟩⟩, some zone⟩
    let later : DateTime := ⟨⟨⟨0, 3, 1, by decide⟩, ⟨0, 0, 0, 250000000, by decide⟩⟩, some zone⟩
    let duration : DayTimeDuration := ⟨5184000750000000, by decide⟩
    Value.parse .dateTime "-0001-12-31T23:59:59.5+05:30" = .ok (.dateTime start) ∧
      start.plus duration = .single (.dateTime later) ∧
      (Value.dateTime later).text = "0000-03-01T00:00:00.25+05:30" ∧
      later.minus duration = .single (.dateTime start) := by
  intro zone start later duration
  have denotes : Value.parse .dateTime "-0001-12-31T23:59:59.5+05:30" = .ok (.dateTime start) := by
    rfl
  obtain ⟨exact, -, -, back, -⟩ := dayTime_arithmetic_exact (.parsed (by decide) denotes)
  have added : start.plus duration = .single (.dateTime later) :=
    ((exact duration).1.single_iff _).mpr ⟨later, rfl, rfl, by decide, rfl⟩
  exact ⟨denotes, added, by decide, back duration later added⟩

end DateTime
end PolicyDecision
