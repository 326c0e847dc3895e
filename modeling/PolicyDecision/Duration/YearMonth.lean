import PolicyDecision.Number.Integer
import PolicyDecision.Text.Field

/-!
# Year-month durations

Signed durations of years and months, held as a 64-bit number of months. The
lexical form is `[-]P[nY][nM]` with at least one component.
-/

namespace PolicyDecision

/-- A signed number of months. -/
structure YearMonthDuration where
  months : Integer
  deriving DecidableEq

/-- Why a text is not a year-month duration. -/
inductive YearMonthFault
  | foreignCharacters
  | missingMark
  | field (fault : Text.FieldFault)
  | outOfRange
  | badShape
  deriving DecidableEq, Repr

/-- The wording of an unreadable year-month duration. -/
def YearMonthFault.message : YearMonthFault → String
  | .foreignCharacters => "non-ASCII characters"
  | .missingMark => "duration must start with 'P'"
  | .field fault => fault.message
  | .outOfRange => "duration out of range"
  | .badShape => "expected [-]P[nY][nM]"

namespace YearMonthDuration

/-- The duration of years and months with one sign for both. There is none when
a number on the way to the signed total does not fit 64 bits. -/
def ofYearsAndMonths? (negative : Bool) (years months : Integer) : Option YearMonthDuration := do
  let yearMonths ← Integer.ofInt? (years.toInt * 12)
  let total ← Integer.ofInt? (yearMonths.toInt + months.toInt)
  let signed ← if negative then Integer.ofInt? (-total.toInt) else some total
  return ⟨signed⟩

/-- The duration of equal length in the other direction. The longest backward
duration has no exact counterpart and gives the longest forward one. -/
def negate (duration : YearMonthDuration) : YearMonthDuration :=
  ⟨duration.months.negateSaturating⟩

/-- The greatest number of a single component and of the months in total. -/
def componentLimit : Nat := 9223372036854775807

/-- An optional component that ends in a letter: the months so far with it, whether
there was one by now, and the text after it. -/
def readUnit
    (letter : Char)
    (factor : Nat)
    (sofar : Nat × Bool)
    (text : List Char) : Except YearMonthFault ((Nat × Bool) × List Char) :=
  match Text.cutAt letter text with
  | none => .ok (sofar, text)
  | some (digits, rest) =>
      match Text.readField "duration component" componentLimit digits with
      | .error fault => .error (.field fault)
      | .ok number =>
          if number * factor + sofar.1 ≤ componentLimit then
            .ok ((number * factor + sofar.1, true), rest)
          else .error .outOfRange

/-- The duration written by a text. -/
def read (text : List Char) : Except YearMonthFault YearMonthDuration :=
  if !Text.isAscii text then .error .foreignCharacters
  else
    let (negative, body) := Text.leadingMinus text
    match body with
    | 'P' :: components => do
        let (afterYears, rest) ← readUnit 'Y' 12 (0, false) components
        let ((months, found), rest) ← readUnit 'M' 1 afterYears rest
        if !found || !rest.isEmpty then .error .badShape
        else
          match Integer.ofInt? (if negative then -(months : Int) else months) with
          | some total => .ok ⟨total⟩
          | none => .error .outOfRange
    | _ => .error .missingMark

/-- The canonical text: years and fewer than twelve months, without components
that are zero. -/
def write (duration : YearMonthDuration) : List Char :=
  if duration.months.toInt = 0 then ['P', '0', 'M']
  else
    let size := duration.months.toInt.natAbs
    (if duration.months.toInt < 0 then ['-'] else []) ++
      'P' :: (Text.writeUnit (size / 12) 'Y' ++ Text.writeUnit (size % 12) 'M')

/-- The canonical text as a string. -/
def text (duration : YearMonthDuration) : String :=
  String.ofList duration.write

end YearMonthDuration
end PolicyDecision
