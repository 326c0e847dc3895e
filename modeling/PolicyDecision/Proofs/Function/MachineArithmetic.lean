import PolicyDecision.Proofs.Calendar.Timeline
import PolicyDecision.Proofs.Function.MonthArithmetic

/-!
# Dates and durations on machine integers

Signed months of sixty-four bits are handed to the calendar as a count of thirty-two bits
and a direction, and instants are compared by seconds that are taken from sixty-four to a
hundred and twenty-eight bits. A number that does not fit its integer is an overflow. There
is one: the longest backward year-month duration changes its sign when it is added to a date
or a date-time. Taking the opposite of a duration of months saturates instead. Day-time
durations are changed in sign and added by the checked operations of the calendar alone, and
no step of theirs is on machine integers.
-/

namespace PolicyDecision

/-- A number that does not fit a signed integer of so many bits. -/
structure Overflow where
  bits : Nat
  number : Int
  deriving DecidableEq, Repr

/-- The number as a signed integer of so many bits. -/
def fitted (bits : Nat) (number : Int) : Except Overflow Int :=
  if -2 ^ (bits - 1) ≤ number ∧ number < 2 ^ (bits - 1) then .ok number
  else .error ⟨bits, number⟩

/-- The overflow of the changed sign of the least integer of sixty-four bits. -/
def signOverflow : Overflow := ⟨64, 9223372036854775808⟩

/-- The computation overflows by a change of sign in the one case, and is exact otherwise. -/
structure ExactUnless
    {α : Type}
    (computed : Except Overflow α)
    (overflows : Prop)
    (exact : α) : Prop where
  eq_ok : ¬overflows → computed = .ok exact
  eq_error : overflows → computed = .error signOverflow

namespace ExactUnless

variable {α β : Type} {computed : Except Overflow α} {overflows : Prop} {exact : α}

theorem ofExact (isExact : computed = .ok exact) : ExactUnless computed False exact :=
  ⟨fun _ => isExact, False.elim⟩

theorem map
    (known : ExactUnless computed overflows exact)
    (next : α → β) : ExactUnless (computed.map next) overflows (next exact) :=
  ⟨fun fits => by rw [known.eq_ok fits]; rfl, fun overflow => by rw [known.eq_error overflow]; rfl⟩

theorem congr
    {condition : Prop}
    (known : ExactUnless computed overflows exact)
    (same : overflows ↔ condition) : ExactUnless computed condition exact :=
  propext same ▸ known

end ExactUnless

/-! ## Months -/

/-- The number as an integer of sixty-four bits. -/
def fittedInteger (number : Int) : Except Overflow Integer :=
  match Integer.ofInt? number with
  | some integer => .ok integer
  | none => .error ⟨64, number⟩

/-- The duration of equal length in the other direction. The least number of months is not
negated but gives the greatest. -/
def YearMonthDuration.negateOnMachine
    (duration : YearMonthDuration) : Except Overflow YearMonthDuration := do
  let opposite ← fittedInteger
    (if duration.months.toInt = integerMinimum then integerMaximum else -duration.months.toInt)
  return ⟨opposite⟩

/-- Taking the opposite of a duration never overflows. -/
theorem YearMonthDuration.negateOnMachine_eq (duration : YearMonthDuration) :
    duration.negateOnMachine = .ok duration.negate := by
  have saturated :
      (if duration.months.toInt = integerMinimum then integerMaximum
        else -duration.months.toInt) = duration.negate.months.toInt := by
    split
    · rename_i isLeast
      rw [negate, Integer.negateSaturating, dif_neg (by omega)]
    · rename_i reversible
      exact (IsReversible.months_negate reversible).symm
  rw [negateOnMachine, saturated, fittedInteger, Integer.ofInt?_toInt]
  rfl

namespace CalendarDay

/-- The greatest count of months. -/
def countLimit : Int := 4294967295

/-- The day shifted by a count of months in the direction of their sign; the calendar has no
day where the count does not fit thirty-two bits. -/
def addMonthsOnMachine
    (date : CalendarDay)
    (months : Integer) : Except Overflow (Option CalendarDay) :=
  if 0 ≤ months.toInt then
    .ok (if months.toInt ≤ countLimit then date.addMonths? months.toInt else none)
  else do
    let count ← fitted 64 (-months.toInt)
    return if count ≤ countLimit then date.addMonths? (-count) else none

/-- The calendar has no month that lies more months away than can be counted. -/
theorem addMonths?_eq_none_of_far
    (date : CalendarDay)
    {months : Int}
    (far : countLimit < |months|) : date.addMonths? months = none := by
  have notSome : ¬(date.addMonths? months).isSome := by
    rw [isSome_addMonths?_iff]
    rintro ⟨year, month, first, last, monthFirst, monthLast, number⟩
    obtain ⟨dateFirst, dateLast, -, -⟩ := date.valid
    have monthBounds := And.intro date.month_pos date.isDayOfYear.month_le
    simp only [minimumYear, maximumYear] at dateFirst dateLast
    simp only [monthNumber] at number
    simp only [countLimit] at far
    rcases abs_cases months with ⟨size, -⟩ | ⟨size, -⟩ <;> omega
  simpa using notSome

/-- A shift by months that are counted is the shift by those that have a count. -/
theorem counted_addMonths? (date : CalendarDay) {count months : Int} (size : count = |months|) :
    (if count ≤ countLimit then date.addMonths? months else none) = date.addMonths? months := by
  split
  · rfl
  · exact (date.addMonths?_eq_none_of_far (by omega)).symm

/-- Shifting by months overflows exactly on the least number of months. -/
theorem exactUnless_addMonthsOnMachine (date : CalendarDay) (duration : YearMonthDuration) :
    ExactUnless (date.addMonthsOnMachine duration.months) (¬duration.IsReversible)
      (date.addMonths? duration.months.toInt) := by
  have least := duration.months.minimum_le
  have greatest := duration.months.le_maximum
  simp only [integerMinimum, integerMaximum] at least greatest
  simp only [YearMonthDuration.IsReversible, integerMinimum, addMonthsOnMachine]
  refine ⟨fun reversible => ?_, fun irreversible => ?_⟩
  · split
    · rename_i forward
      rw [counted_addMonths? date (abs_of_nonneg forward).symm]
    · rename_i backward
      have size : -duration.months.toInt = |duration.months.toInt| :=
        (abs_of_neg (by omega)).symm
      have counted : fitted 64 (-duration.months.toInt) = .ok (-duration.months.toInt) :=
        if_pos (by norm_num; omega)
      rw [counted, ok_bind, Int.neg_neg, counted_addMonths? date size]
      rfl
  · rw [not_not.mp irreversible]
    rfl

end CalendarDay

/-- The date shifted by a year-month duration. -/
def Date.addYearMonthOnMachine
    (date : Date)
    (duration : YearMonthDuration) : Except Overflow (Option Date) :=
  (date.day.addMonthsOnMachine duration.months).map fun moved =>
    moved.map fun day => { date with day }

/-- The date-time shifted by a year-month duration. -/
def DateTime.addYearMonthOnMachine
    (dateTime : DateTime)
    (duration : YearMonthDuration) : Except Overflow (Option DateTime) :=
  (dateTime.moment.day.addMonthsOnMachine duration.months).map fun moved =>
    moved.map fun day => { dateTime with moment := { dateTime.moment with day } }

theorem Date.exactUnless_addYearMonthOnMachine (date : Date) (duration : YearMonthDuration) :
    ExactUnless (date.addYearMonthOnMachine duration) (¬duration.IsReversible)
      (date.addYearMonth? duration) :=
  (date.day.exactUnless_addMonthsOnMachine duration).map _

theorem DateTime.exactUnless_addYearMonthOnMachine
    (dateTime : DateTime)
    (duration : YearMonthDuration) :
    ExactUnless (dateTime.addYearMonthOnMachine duration) (¬duration.IsReversible)
      (dateTime.addYearMonth? duration) := by
  rw [addYearMonth?, LocalMoment.addMonths?, Option.map_map]
  exact (dateTime.moment.day.exactUnless_addMonthsOnMachine duration).map _

/-! ## Instants -/

namespace LocalMoment

/-- The second with which the counting of seconds begins. -/
def firstSecond : Int :=
  (CalendarDay.mk 1970 1 1 (by decide)).dayNumber * 86400

/-- The universal second of a moment with an offset, and the nanoseconds beyond it. -/
def instantOnMachine (moment : LocalMoment) (offset : Offset) : Except Overflow (Int × Nat) := do
  let counted ← fitted 64 (moment.secondNumber - firstSecond)
  let universal ← fitted 128 (counted - offset.seconds)
  return (universal, moment.time.nanosecond)

/-- A moment lies less than two to the forty-fifth seconds from the start of the counting. -/
theorem abs_secondNumber_sub_lt (moment : LocalMoment) :
    |moment.secondNumber - firstSecond| < 2 ^ 45 := by
  have epoch : firstSecond = 719528 * 86400 := by decide
  obtain ⟨firstYear, lastYear, -, -⟩ := moment.day.valid
  simp only [minimumYear, maximumYear] at firstYear lastYear
  obtain ⟨starts, ends⟩ := moment.day.holdsDay_dayNumber
  have yearStarts := daysBeforeYear_bounds moment.day.year
  have yearEnds := daysBeforeYear_bounds (moment.day.year + 1)
  have clock : moment.time.secondOfDay < 86400 := by
    obtain ⟨hour, minute, second, -⟩ := moment.time.valid
    simp only [TimeOfDay.secondOfDay]
    omega
  rw [secondNumber, epoch, abs_lt]
  norm_num
  omega

theorem instantOnMachine_eq (moment : LocalMoment) (offset : Offset) :
    moment.instantOnMachine offset =
      .ok (moment.secondNumber - firstSecond - offset.seconds, moment.time.nanosecond) := by
  obtain ⟨after, before⟩ := abs_lt.mp moment.abs_secondNumber_sub_lt
  have offsetBounds := And.intro offset.lower offset.upper
  have counted : fitted 64 (moment.secondNumber - firstSecond) =
      .ok (moment.secondNumber - firstSecond) :=
    if_pos (by norm_num at after before ⊢; omega)
  have universal : fitted 128 (moment.secondNumber - firstSecond - offset.seconds) =
      .ok (moment.secondNumber - firstSecond - offset.seconds) :=
    if_pos (by norm_num at after before ⊢; omega)
  rw [instantOnMachine, counted, ok_bind, universal, ok_bind]
  rfl

end LocalMoment

/-- Both values denote the same instant. -/
def DateTime.sameInstantOnMachine (first second : DateTime) : Except Overflow Bool :=
  match first.offset, second.offset with
  | some left, some right => do
      let firstInstant ← first.moment.instantOnMachine left
      let secondInstant ← second.moment.instantOnMachine right
      return firstInstant == secondInstant
  | _, _ => .ok (first.moment == second.moment)

/-- Comparing instants never overflows. -/
theorem DateTime.sameInstantOnMachine_eq (first second : DateTime) :
    first.sameInstantOnMachine second = .ok (first.sameInstant second) := by
  unfold sameInstantOnMachine sameInstant
  cases first.offset with
  | none => rfl
  | some left =>
      cases second.offset with
      | none => rfl
      | some right =>
          simp only [LocalMoment.instantOnMachine_eq, ok_bind, universalSecond]
          refine congrArg Except.ok (Bool.eq_iff_iff.mpr ?_)
          simp only [beq_iff_eq, Prod.mk.injEq, Bool.and_eq_true]
          omega

/-! ## The functions -/

namespace DateFunction

/-- The duration as the function adds it: the opposite one when it subtracts. -/
def directedMonths (function : DateFunction) (duration : YearMonthDuration) : YearMonthDuration :=
  if function.subtracts then duration.negate else duration

/-- The duration as the function adds it, on machine integers. -/
def directedOnMachine
    (function : DateFunction)
    (duration : YearMonthDuration) : Except Overflow YearMonthDuration :=
  if function.subtracts then duration.negateOnMachine else .ok duration

theorem directedOnMachine_eq (function : DateFunction) (duration : YearMonthDuration) :
    function.directedOnMachine duration = .ok (function.directedMonths duration) := by
  rw [directedOnMachine, directedMonths]
  split
  · exact duration.negateOnMachine_eq
  · rfl

/-- The operand shifted by the duration, or nothing outside the calendar. -/
def shiftOnMachine
    (function : DateFunction)
    (operand duration : Value) : Except Overflow (Except Status (Option Value)) :=
  match operand, duration with
  | .dateTime dateTime, .yearMonthDuration duration => do
      let directed ← function.directedOnMachine duration
      (dateTime.addYearMonthOnMachine directed).map fun moved => .ok (moved.map .dateTime)
  | .date date, .yearMonthDuration duration => do
      let directed ← function.directedOnMachine duration
      (date.addYearMonthOnMachine directed).map fun moved => .ok (moved.map .date)
  | first, second => .ok (function.shift? first second)

/-- The operand and the duration among the arguments. -/
def operands (function : DateFunction) (arguments : List Argument) :
    Except Status (Value × Value) := do
  let (first, second) ← Argument.two arguments
  let operand ← first.simple function.operandDatatype
  let duration ← second.simple function.durationDatatype
  return (operand, duration)

/-- The outcome for a shifted operand. -/
def outcome (operand duration : Value) (shifted : Except Status (Option Value)) :
    Except Status Outcome := do
  match ← shifted with
  | some value => return .single value
  | none =>
      throw (.processingError
        ("Result of " ++ operand.text ++ " with " ++ duration.text ++ " is out of range"))

/-- The outcome of a function of date arithmetic. -/
def applyOnMachine
    (function : DateFunction)
    (arguments : List Argument) : Except Overflow (Except Status Outcome) :=
  match function.operands arguments with
  | .error status => .ok (.error status)
  | .ok (operand, duration) =>
      (function.shiftOnMachine operand duration).map (outcome operand duration)

/-- The function adds the duration, and it is the longest backward one. -/
def AddsLongestBackward (function : DateFunction) (duration : Value) : Prop :=
  function.subtracts = false ∧
    ∃ months : YearMonthDuration, duration = .yearMonthDuration months ∧ ¬months.IsReversible

theorem isReversible_directedMonths_iff
    {function : DateFunction}
    {duration : YearMonthDuration} :
    ¬(function.directedMonths duration).IsReversible ↔
      function.AddsLongestBackward (.yearMonthDuration duration) := by
  have reversible : duration.negate.IsReversible := by
    have greatest := duration.months.le_maximum
    simp only [integerMaximum] at greatest
    simp only [YearMonthDuration.IsReversible, YearMonthDuration.negate]
    unfold Integer.negateSaturating
    split
    · intro least
      simp only [integerMinimum] at least
      omega
    · decide
  cases backward : function.subtracts <;>
    simp [directedMonths, AddsLongestBackward, backward, reversible]

theorem datatype_of_operands
    {function : DateFunction}
    {arguments : List Argument}
    {operand duration : Value}
    (given : function.operands arguments = .ok (operand, duration)) :
    operand.datatype = function.operandDatatype := by
  obtain ⟨pair, -, accepts⟩ := exists_of_bind_eq_ok given
  obtain ⟨first, firstAccepted, acceptsSecond⟩ := exists_of_bind_eq_ok accepts
  obtain ⟨second, -, same⟩ := exists_of_bind_eq_ok acceptsSecond
  cases same
  exact (Argument.simple_eq_ok_iff.mp firstAccepted).2

theorem apply_eq_operands (function : DateFunction) (arguments : List Argument) :
    function.apply arguments =
      function.operands arguments >>= fun given =>
        outcome given.1 given.2 (function.shift? given.1 given.2) := by
  rw [apply, operands]
  cases Argument.two arguments with
  | error => rfl
  | ok pair =>
      dsimp only [ok_bind]
      cases pair.1.simple function.operandDatatype with
      | error => rfl
      | ok operand =>
          dsimp only [ok_bind]
          cases pair.2.simple function.durationDatatype <;> rfl

/-- Shifting an operand overflows exactly when the longest backward duration is added. -/
theorem exactUnless_shiftOnMachine
    {function : DateFunction}
    {operand : Value}
    (typed : operand.datatype = function.operandDatatype)
    (duration : Value) :
    ExactUnless (function.shiftOnMachine operand duration)
      (function.AddsLongestBackward duration) (function.shift? operand duration) := by
  -- Only a duration of months is counted on the machine.
  have uncounted (noMonths : ∀ months, duration ≠ .yearMonthDuration months) :
      ExactUnless (function.shiftOnMachine operand duration)
        (function.AddsLongestBackward duration) (function.shift? operand duration) := by
    refine (ExactUnless.ofExact ?_).congr (by simp [AddsLongestBackward, noMonths])
    unfold shiftOnMachine
    split
    · exact absurd rfl (noMonths _)
    · exact absurd rfl (noMonths _)
    · rfl
  cases duration
  case yearMonthDuration months =>
    cases operand
    case date date =>
      rw [shiftOnMachine, directedOnMachine_eq, ok_bind]
      exact ((date.exactUnless_addYearMonthOnMachine _).map _).congr
        isReversible_directedMonths_iff
    case dateTime dateTime =>
      rw [shiftOnMachine, directedOnMachine_eq, ok_bind]
      exact ((dateTime.exactUnless_addYearMonthOnMachine _).map _).congr
        isReversible_directedMonths_iff
    all_goals cases function <;> cases typed
  all_goals exact uncounted (by simp)

/-- A function of date arithmetic overflows exactly when it adds the longest backward
duration. -/
theorem exactUnless_applyOnMachine (function : DateFunction) (arguments : List Argument) :
    ExactUnless (function.applyOnMachine arguments)
      (∃ operand duration, function.operands arguments = .ok (operand, duration) ∧
        function.AddsLongestBackward duration)
      (function.apply arguments) := by
  rw [apply_eq_operands, applyOnMachine]
  cases given : function.operands arguments with
  | error status => exact (ExactUnless.ofExact rfl).congr (by simp)
  | ok pair =>
      obtain ⟨operand, duration⟩ := pair
      exact ((exactUnless_shiftOnMachine (datatype_of_operands given) duration).map _).congr
        (by simp)

end DateFunction

/-- On machine integers, shifting dates and date-times by months overflows exactly when the
months have no opposite number, and the functions of date arithmetic exactly when they add
such months. Everything else is exact. Taking the opposite of months and comparing instants
always are. Adding a day-time duration, or its opposite, takes no step on machine integers. -/
theorem machine_arithmetic_exact
    (date : Date)
    (dateTime other : DateTime)
    (duration : YearMonthDuration)
    (function : DateFunction)
    (arguments : List Argument) :
    duration.negateOnMachine = .ok duration.negate ∧
    ExactUnless (date.addYearMonthOnMachine duration) (¬duration.IsReversible)
      (date.addYearMonth? duration) ∧
    ExactUnless (dateTime.addYearMonthOnMachine duration) (¬duration.IsReversible)
      (dateTime.addYearMonth? duration) ∧
    dateTime.sameInstantOnMachine other = .ok (dateTime.sameInstant other) ∧
    ExactUnless (function.applyOnMachine arguments)
      (∃ operand duration, function.operands arguments = .ok (operand, duration) ∧
        function.AddsLongestBackward duration)
      (function.apply arguments) :=
  ⟨duration.negateOnMachine_eq, date.exactUnless_addYearMonthOnMachine duration,
    dateTime.exactUnless_addYearMonthOnMachine duration,
    dateTime.sameInstantOnMachine_eq other, function.exactUnless_applyOnMachine arguments⟩

/-- The least number of months overflows when it is added to a date, and the functions that
add it overflow as well. -/
theorem addYearMonthOnMachine_of_longestBackward :
    let date : Date := ⟨⟨2024, 1, 31, by decide⟩, none⟩
    let longestBackward : YearMonthDuration := ⟨⟨-9223372036854775808, by decide, by decide⟩⟩
    date.addYearMonthOnMachine longestBackward = .error ⟨64, 9223372036854775808⟩ ∧
      DateFunction.dateAddYearMonth.applyOnMachine
          [.value (.date date), .value (.yearMonthDuration longestBackward)] =
        .error ⟨64, 9223372036854775808⟩ := by
  intro date longestBackward
  have irreversible : ¬longestBackward.IsReversible := not_not_intro rfl
  exact ⟨(date.exactUnless_addYearMonthOnMachine longestBackward).eq_error irreversible,
    (DateFunction.dateAddYearMonth.exactUnless_applyOnMachine _).eq_error
      ⟨_, _, rfl, rfl, longestBackward, rfl, irreversible⟩⟩

end PolicyDecision
