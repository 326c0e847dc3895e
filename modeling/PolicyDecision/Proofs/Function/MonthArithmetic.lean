import PolicyDecision.Proofs.Calendar.MonthShift
import PolicyDecision.Proofs.Value.CanonicalText

/-!
# Months added to dates and date-times

The functions that add a year-month duration to a date or a date-time, or subtract one
from it, shift its day by the months of the duration and keep everything else. They fail
exactly when the calendar does not have the month. Days keep their order, while the times of
two days that are moved to the end of one month may change places. What has been added can be
taken back unless the day of the month had to be moved.
-/

namespace PolicyDecision

/-! ## Dates and date-times -/

/-- A value that lies on a day of the calendar. -/
inductive Dated
  | date (written : Date)
  | dateTime (written : DateTime)

namespace Dated

/-- The day of the value. -/
def day : Dated → CalendarDay
  | .date written => written.day
  | .dateTime written => written.moment.day

/-- The value on another day, with the same time and the same offset. -/
def onDay (dated : Dated) (day : CalendarDay) : Dated :=
  match dated with
  | .date written => .date { written with day }
  | .dateTime written => .dateTime { written with moment := { written.moment with day } }

/-- The value as an argument or a result. -/
def value : Dated → Value
  | .date written => .date written
  | .dateTime written => .dateTime written

/-- The function that adds a year-month duration. -/
def addition : Dated → DateFunction
  | .date _ => .dateAddYearMonth
  | .dateTime _ => .dateTimeAddYearMonth

/-- The function that subtracts a year-month duration. -/
def subtraction : Dated → DateFunction
  | .date _ => .dateSubtractYearMonth
  | .dateTime _ => .dateTimeSubtractYearMonth

@[simp] theorem day_onDay (dated : Dated) (day : CalendarDay) : (dated.onDay day).day = day := by
  cases dated <;> rfl

@[simp] theorem onDay_onDay (dated : Dated) (day other : CalendarDay) :
    (dated.onDay day).onDay other = dated.onDay other := by
  cases dated <;> rfl

@[simp] theorem onDay_day (dated : Dated) : dated.onDay dated.day = dated := by
  cases dated <;> rfl

theorem eq_of_value_eq
    {dated other : Dated}
    (same : dated.value = other.value) : dated = other := by
  cases dated <;> cases other <;> cases same <;> rfl

end Dated

/-! ## Outcomes -/

/-- The outcome is the value on the day shifted by the months if the calendar has their
month, and a failure if it does not. -/
structure Outcome.IsShifted (outcome : Outcome) (dated : Dated) (months : Int) : Prop where
  single_iff : ∀ value, outcome = .single value ↔
    ∃ later, dated.day.IsShiftedBy months later ∧ value = (dated.onDay later).value
  isSingle_iff :
    (∃ value, outcome = .single value) ↔ MonthInCalendar (dated.day.monthNumber + months)
  isFailed_iff :
    (∃ status, outcome = .failed status) ↔ ¬MonthInCalendar (dated.day.monthNumber + months)

namespace Outcome.IsShifted

variable {outcome : Outcome} {dated later : Dated} {months : Int}

/-- The outcome of a shift of the day, found exactly where the calendar has one. -/
theorem ofShifted
    (dated : Dated)
    (months : Int)
    (status : Status) :
    ((dated.day.addMonths? months).elim (Outcome.failed status) fun later =>
      .single (dated.onDay later).value).IsShifted dated months := by
  have inCalendar := @CalendarDay.isSome_addMonths?_iff dated.day months
  cases shifted : dated.day.addMonths? months with
  | some later =>
      rw [shifted] at inCalendar
      refine ⟨fun value => ?_, by simpa using inCalendar, by simpa using inCalendar⟩
      simp [← CalendarDay.addMonths?_eq_some_iff, shifted, eq_comm]
  | none =>
      rw [shifted] at inCalendar
      refine ⟨fun value => ?_, by simpa using inCalendar, by simpa using inCalendar⟩
      simp [← CalendarDay.addMonths?_eq_some_iff, shifted]

/-- The outcome is a value of the same kind exactly when that value is the same apart from
its shifted day. -/
theorem eq_single_iff
    (shifted : outcome.IsShifted dated months) :
    outcome = .single later.value ↔
      later = dated.onDay later.day ∧ dated.day.IsShiftedBy months later.day := by
  rw [shifted.single_iff]
  constructor
  · rintro ⟨landed, isShifted, same⟩
    cases Dated.eq_of_value_eq same
    simp [isShifted]
  · rintro ⟨same, isShifted⟩
    exact ⟨later.day, isShifted, congrArg Dated.value same⟩

end Outcome.IsShifted

/-! ## The functions -/

namespace DateFunction

/-- An operand and a duration of the declared datatypes give the shifted operand, or a
failure when there is none. -/
theorem apply_of_shift?
    {function : DateFunction}
    {operand duration : Value}
    {moved : Option Value}
    (operandTyped : operand.datatype = function.operandDatatype)
    (durationTyped : duration.datatype = function.durationDatatype)
    (shifted : function.shift? operand duration = .ok moved) :
    (Function.date function).apply [.value operand, .value duration] =
      moved.elim
        (.failed
          ((Status.processingError ("Result of " ++ operand.text ++ " with " ++ duration.text ++
            " is out of range")).prefixed (Function.date function).shortId))
        .single := by
  have first : Argument.simple function.operandDatatype (.value operand) = .ok operand :=
    if_pos operandTyped.symm
  have second : Argument.simple function.durationDatatype (.value duration) = .ok duration :=
    if_pos durationTyped.symm
  simp only [Function.apply, Function.compute, DateFunction.apply, Argument.two, ok_bind, first,
    second, shifted]
  cases moved <;> rfl

end DateFunction

namespace Dated

/-- The outcome of adding a year-month duration. -/
def plus (dated : Dated) (duration : YearMonthDuration) : Outcome :=
  (Function.date dated.addition).apply
    [.value dated.value, .value (.yearMonthDuration duration)]

/-- The outcome of subtracting a year-month duration. -/
def minus (dated : Dated) (duration : YearMonthDuration) : Outcome :=
  (Function.date dated.subtraction).apply
    [.value dated.value, .value (.yearMonthDuration duration)]

/-- A function of year-month durations shifts by the months of the duration that it adds. -/
theorem isShifted_apply
    {dated : Dated}
    {function : DateFunction}
    {duration directed : YearMonthDuration}
    (operandTyped : dated.value.datatype = function.operandDatatype)
    (durationTyped : function.durationDatatype = .yearMonthDuration)
    (isDirected : (if function.subtracts then duration.negate else duration) = directed) :
    ((Function.date function).apply
        [.value dated.value, .value (.yearMonthDuration duration)]).IsShifted
      dated directed.months.toInt := by
  have shifted : function.shift? dated.value (.yearMonthDuration duration) =
      .ok ((dated.day.addMonths? directed.months.toInt).map fun later =>
        (dated.onDay later).value) := by
    subst isDirected
    cases dated with
    | date written =>
        simp [DateFunction.shift?, value, day, onDay, Date.addYearMonth?, Function.comp_def]
    | dateTime written =>
        simp [DateFunction.shift?, value, day, onDay, DateTime.addYearMonth?,
          LocalMoment.addMonths?, Function.comp_def]
  have typed : (Value.yearMonthDuration duration).datatype = function.durationDatatype :=
    durationTyped.symm
  rw [DateFunction.apply_of_shift? operandTyped typed shifted, Option.elim_map]
  exact .ofShifted dated directed.months.toInt _

theorem isShifted_plus (dated : Dated) (duration : YearMonthDuration) :
    (dated.plus duration).IsShifted dated duration.months.toInt := by
  cases dated <;> exact isShifted_apply rfl rfl rfl

theorem isShifted_minus
    (dated : Dated)
    {duration : YearMonthDuration}
    (reversible : duration.IsReversible) :
    (dated.minus duration).IsShifted dated (-duration.months.toInt) := by
  rw [← reversible.months_negate]
  cases dated <;> exact isShifted_apply rfl rfl rfl

/-- The same months never bring a day behind one that it does not come after. -/
theorem dayNumber_le_of_isShifted
    {dated other later otherLater : Dated}
    {months : Int}
    {outcome otherOutcome : Outcome}
    (shifted : outcome.IsShifted dated months)
    (otherShifted : otherOutcome.IsShifted other months)
    (inOrder : dated.day.dayNumber ≤ other.day.dayNumber)
    (landed : outcome = .single later.value)
    (otherLanded : otherOutcome = .single otherLater.value) :
    later.day.dayNumber ≤ otherLater.day.dayNumber :=
  (shifted.eq_single_iff.mp landed).2.dayNumber_le
    (otherShifted.eq_single_iff.mp otherLanded).2 inOrder

/-- What has been added is taken back exactly when the day of the month was not moved. -/
theorem minus_of_plus_iff
    {dated later : Dated}
    {duration : YearMonthDuration}
    (reversible : duration.IsReversible)
    (added : dated.plus duration = .single later.value) :
    later.minus duration = .single dated.value ↔
      dated.day.day ≤ monthLength later.day.year later.day.month := by
  obtain ⟨sameRest, shifted⟩ := (dated.isShifted_plus duration).eq_single_iff.mp added
  have back : dated = later.onDay dated.day := by
    rw [sameRest, onDay_onDay, onDay_day]
  rw [(later.isShifted_minus reversible).eq_single_iff, ← shifted.neg_iff, and_iff_right back]

/-- A year-month duration that was read is added to a date or a date-time, and subtracted
from it, by shifting the day alone, and exactly within the months of the calendar. Days that
follow each other are numbered in turn, and the same duration keeps their order. Subtracting
what has been added leads back exactly when the day fits into the month between. -/
theorem yearMonth_arithmetic_exact
    {lexical : String}
    {duration : YearMonthDuration}
    (denotes : Value.parse .yearMonthDuration lexical = .ok (.yearMonthDuration duration)) :
    (∀ dated : Dated,
      (dated.plus duration).IsShifted dated duration.months.toInt ∧
        (dated.minus duration).IsShifted dated (-duration.months.toInt)) ∧
    (∀ day next : CalendarDay, day.IsFollowedBy next → next.dayNumber = day.dayNumber + 1) ∧
    (∀ dated other later otherLater : Dated,
      dated.day.dayNumber ≤ other.day.dayNumber →
        (dated.plus duration = .single later.value →
          other.plus duration = .single otherLater.value →
            later.day.dayNumber ≤ otherLater.day.dayNumber) ∧
        (dated.minus duration = .single later.value →
          other.minus duration = .single otherLater.value →
            later.day.dayNumber ≤ otherLater.day.dayNumber)) ∧
    ∀ dated later : Dated,
      dated.plus duration = .single later.value →
        (later.minus duration = .single dated.value ↔
          dated.day.day ≤ monthLength later.day.year later.day.month) := by
  have reversible : duration.IsReversible :=
    (Value.isLexical_of_read (by decide) (Value.parse_eq_ok_iff.mp denotes)).2
  have plus (dated : Dated) := dated.isShifted_plus duration
  have minus (dated : Dated) := dated.isShifted_minus reversible
  refine ⟨fun dated => ⟨plus dated, minus dated⟩,
    fun day next => CalendarDay.IsFollowedBy.dayNumber_eq,
    fun dated other later otherLater inOrder => ⟨?_, ?_⟩,
    fun dated later => minus_of_plus_iff reversible⟩
  · exact dayNumber_le_of_isShifted (plus dated) (plus other) inOrder
  · exact dayNumber_le_of_isShifted (minus dated) (minus other) inOrder

/-- Thirteen months before the last of March in the year after a leap year lies the leap
day, which is thirteen months before the twenty-ninth of March but not before the last. -/
theorem yearMonth_arithmetic_exact_of_leapDay :
    let zone : Offset := ⟨-18000, by decide, by decide⟩
    let last : Date := ⟨⟨1, 3, 31, by decide⟩, some zone⟩
    let leapDay : Date := ⟨⟨0, 2, 29, by decide⟩, some zone⟩
    let duration : YearMonthDuration := ⟨⟨-13, by decide, by decide⟩⟩
    Value.parse .yearMonthDuration "-P1Y1M" = .ok (.yearMonthDuration duration) ∧
      (Dated.date last).plus duration = .single (.date leapDay) ∧
      (Value.date leapDay).text = "0000-02-29-05:00" ∧
      (Dated.date leapDay).minus duration ≠ .single (.date last) := by
  intro zone last leapDay duration
  have denotes :
      Value.parse .yearMonthDuration "-P1Y1M" = .ok (.yearMonthDuration duration) := by
    rfl
  obtain ⟨exact, -, -, back⟩ := yearMonth_arithmetic_exact denotes
  have added : (Dated.date last).plus duration = .single (.date leapDay) :=
    ((exact (.date last)).1.single_iff _).mpr ⟨leapDay.day, ⟨by decide, by decide⟩, rfl⟩
  refine ⟨denotes, added, by decide, fun restored => ?_⟩
  exact absurd ((back (.date last) (.date leapDay) added).mp restored) (by decide)

end Dated
end PolicyDecision
