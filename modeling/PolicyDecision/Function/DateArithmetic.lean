import PolicyDecision.Function.Argument

/-!
# Date arithmetic

Durations added to dates and date-times, and subtracted from them by adding the
opposite duration. The result keeps the offset of the operand. A result outside
the calendar is an error.
-/

namespace PolicyDecision

/-- A function of a date or date-time and a duration. -/
inductive DateFunction
  | dateTimeAddDayTime
  | dateTimeSubtractDayTime
  | dateTimeAddYearMonth
  | dateTimeSubtractYearMonth
  | dateAddYearMonth
  | dateSubtractYearMonth
  deriving DecidableEq, Repr

namespace DateFunction

/-- All functions of date arithmetic. -/
def all : List DateFunction :=
  [.dateTimeAddDayTime, .dateTimeSubtractDayTime, .dateTimeAddYearMonth,
   .dateTimeSubtractYearMonth, .dateAddYearMonth, .dateSubtractYearMonth]

/-- The name of a function. -/
def name : DateFunction → String
  | .dateTimeAddDayTime => "dateTime-add-dayTimeDuration"
  | .dateTimeSubtractDayTime => "dateTime-subtract-dayTimeDuration"
  | .dateTimeAddYearMonth => "dateTime-add-yearMonthDuration"
  | .dateTimeSubtractYearMonth => "dateTime-subtract-yearMonthDuration"
  | .dateAddYearMonth => "date-add-yearMonthDuration"
  | .dateSubtractYearMonth => "date-subtract-yearMonthDuration"

/-- The datatype of the first argument and of the result. -/
def operandDatatype : DateFunction → Datatype
  | .dateAddYearMonth | .dateSubtractYearMonth => .date
  | _ => .dateTime

/-- The datatype of the second argument. -/
def durationDatatype : DateFunction → Datatype
  | .dateTimeAddDayTime | .dateTimeSubtractDayTime => .dayTimeDuration
  | _ => .yearMonthDuration

/-- The function goes back in time by the duration. -/
def subtracts : DateFunction → Bool
  | .dateTimeSubtractDayTime | .dateTimeSubtractYearMonth | .dateSubtractYearMonth => true
  | .dateTimeAddDayTime | .dateTimeAddYearMonth | .dateAddYearMonth => false

/-- The operand shifted by the duration, or nothing outside the calendar. -/
def shift? (function : DateFunction) (operand duration : Value) :
    Except Status (Option Value) :=
  match operand, duration with
  | .dateTime dateTime, .dayTimeDuration duration =>
      let signed := if function.subtracts then duration.negate else duration
      .ok ((dateTime.addDayTime? signed).map .dateTime)
  | .dateTime dateTime, .yearMonthDuration duration =>
      let signed := if function.subtracts then duration.negate else duration
      .ok ((dateTime.addYearMonth? signed).map .dateTime)
  | .date date, .yearMonthDuration duration =>
      let signed := if function.subtracts then duration.negate else duration
      .ok ((date.addYearMonth? signed).map .date)
  | first, second =>
      .error (.processingError
        ("Cannot combine '" ++ first.datatype.name ++ "' with '" ++ second.datatype.name ++ "'"))

/-- The outcome of a function of date arithmetic. -/
def apply (function : DateFunction) (arguments : List Argument) : Except Status Outcome := do
  let (first, second) ← Argument.two arguments
  let operand ← first.simple function.operandDatatype
  let duration ← second.simple function.durationDatatype
  match ← function.shift? operand duration with
  | some value => return .single value
  | none =>
      throw (.processingError
        ("Result of " ++ operand.text ++ " with " ++ duration.text ++ " is out of range"))

end DateFunction
end PolicyDecision
