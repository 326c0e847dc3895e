import PolicyDecision.Text.Field

/-!
# Day-time durations

Signed durations of days, hours, minutes and seconds, held as nanoseconds. Their
magnitude is at most the largest 64-bit number of milliseconds. The lexical form
is `[-]P[nD][T[nH][nM][n[.f]S]]` with at least one component.
-/

namespace PolicyDecision

/-- The greatest magnitude of a day-time duration in nanoseconds. -/
def dayTimeLimit : Nat := 9223372036854775807 * 1000000

/-- A signed duration in nanoseconds. -/
structure DayTimeDuration where
  nanoseconds : Int
  bounded : nanoseconds.natAbs ≤ dayTimeLimit
  deriving DecidableEq

/-- Why a text is not a day-time duration. -/
inductive DayTimeFault
  | foreignCharacters
  | missingMark
  | missingDays
  | missingTime
  | missingSeconds
  | field (fault : Text.FieldFault)
  | badFraction (text : List Char)
  | outOfRange
  | noComponents
  deriving DecidableEq, Repr

/-- The wording of an unreadable day-time duration. -/
def DayTimeFault.message : DayTimeFault → String
  | .foreignCharacters => "non-ASCII characters"
  | .missingMark => "duration must start with 'P'"
  | .missingDays => "expected a day component ending in 'D'"
  | .missingTime => "'T' must be followed by a time component"
  | .missingSeconds => "expected a seconds component ending in 'S'"
  | .field fault => fault.message
  | .badFraction text => "invalid fractional seconds '" ++ String.ofList text ++ "'"
  | .outOfRange => "duration out of range"
  | .noComponents => "duration has no components"

namespace DayTimeDuration

/-- The duration of a number of nanoseconds, when it is not too long. -/
def ofNanoseconds? (nanoseconds : Int) : Option DayTimeDuration :=
  if bounded : nanoseconds.natAbs ≤ dayTimeLimit then some ⟨nanoseconds, bounded⟩ else none

/-- The duration of no time. -/
def zero : DayTimeDuration := ⟨0, by decide⟩

/-- The duration of equal length in the other direction. -/
def negate (duration : DayTimeDuration) : DayTimeDuration :=
  ⟨-duration.nanoseconds, by rw [Int.natAbs_neg]; exact duration.bounded⟩

/-- Negating twice gives the duration back. -/
@[simp] theorem negate_negate (duration : DayTimeDuration) : duration.negate.negate = duration := by
  cases duration
  simp [negate]

/-- The duration takes no time. -/
def isZero (duration : DayTimeDuration) : Bool :=
  duration.nanoseconds == 0

/-- Whole seconds, truncated toward zero. -/
def wholeSeconds (duration : DayTimeDuration) : Int :=
  duration.nanoseconds.tdiv 1000000000

/-- The signed nanoseconds beyond the whole seconds. -/
def subsecondNanoseconds (duration : DayTimeDuration) : Int :=
  duration.nanoseconds.tmod 1000000000

/-- The greatest number of a single component and of the seconds in total. -/
def componentLimit : Nat := 9223372036854775807

/-- A number of seconds that a duration in the making may have reached. -/
def checkedSeconds (seconds : Nat) : Except DayTimeFault Nat :=
  if seconds ≤ componentLimit then .ok seconds else .error .outOfRange

/-- The number of a component. -/
def readComponent (name : String) (text : List Char) : Except DayTimeFault Nat :=
  match Text.readField name componentLimit text with
  | .ok number => .ok number
  | .error fault => .error (.field fault)

/-- What has been read of a duration: its seconds, its nanoseconds beyond them
and whether there was a component. -/
structure Reading where
  seconds : Nat
  nanoseconds : Nat
  found : Bool

/-- The day component, which must be all of the text unless the text is empty. -/
def readDays (text : List Char) : Except DayTimeFault Reading :=
  if text.isEmpty then .ok ⟨0, 0, false⟩
  else
    match Text.withoutLast? 'D' text with
    | none => .error .missingDays
    | some digits => do
        let days ← readComponent "days" digits
        let seconds ← checkedSeconds (days * 86400)
        return ⟨seconds, 0, true⟩

/-- An optional component that ends in a letter, and the text after it. -/
def readUnit
    (letter : Char)
    (factor : Nat)
    (reading : Reading)
    (text : List Char) : Except DayTimeFault (Reading × List Char) :=
  match Text.cutAt letter text with
  | none => .ok (reading, text)
  | some (digits, rest) => do
      let number ← readComponent "duration component" digits
      let added ← checkedSeconds (number * factor)
      let seconds ← checkedSeconds (reading.seconds + added)
      return (⟨seconds, reading.nanoseconds, true⟩, rest)

/-- The fraction of a second; no digits mean no fraction. -/
def readFraction (digits : List Char) : Except DayTimeFault Nat :=
  if digits.all Char.isDigit then .ok (Text.fractionNanoseconds digits)
  else .error (.badFraction digits)

/-- The seconds component, which must be all of the text unless it is empty. -/
def readSeconds (reading : Reading) (text : List Char) : Except DayTimeFault Reading :=
  if text.isEmpty then .ok reading
  else
    match Text.withoutLast? 'S' text with
    | none => .error .missingSeconds
    | some body => do
        let (whole, fraction) := (Text.cutAt '.' body).getD (body, [])
        let number ← readComponent "seconds" whole
        let seconds ← checkedSeconds (reading.seconds + number)
        let nanoseconds ← readFraction fraction
        return ⟨seconds, nanoseconds, true⟩

/-- The components after the mark of the time part. -/
def readTime (reading : Reading) (text : List Char) : Except DayTimeFault Reading :=
  if text.isEmpty then .error .missingTime
  else do
    let (afterHours, rest) ← readUnit 'H' 3600 reading text
    let (afterMinutes, rest) ← readUnit 'M' 60 afterHours rest
    readSeconds afterMinutes rest

/-- The components of an unsigned duration after its mark. -/
def readComponents (text : List Char) : Except DayTimeFault Reading :=
  match Text.cutAt 'T' text with
  | none => readDays text
  | some (days, time) => do
      let reading ← readDays days
      readTime reading time

/-- The duration written by a text. -/
def read (text : List Char) : Except DayTimeFault DayTimeDuration :=
  if !Text.isAscii text then .error .foreignCharacters
  else
    let (negative, body) := Text.leadingMinus text
    match body with
    | 'P' :: components => do
        let reading ← readComponents components
        if !reading.found then .error .noComponents
        else
          let size : Nat := reading.seconds * 1000000000 + reading.nanoseconds
          match ofNanoseconds? (if negative then -(size : Int) else size) with
          | some duration => .ok duration
          | none => .error .outOfRange
    | _ => .error .missingMark

/-- The hours, minutes and seconds below a day, after the mark of the time part. -/
def writeTime (seconds nanoseconds : Nat) : List Char :=
  if seconds = 0 ∧ nanoseconds = 0 then []
  else
    'T' :: (Text.writeUnit (seconds / 3600) 'H' ++ Text.writeUnit (seconds % 3600 / 60) 'M' ++
      (if seconds % 60 = 0 ∧ nanoseconds = 0 then []
       else Text.writeSeconds (seconds % 60) nanoseconds ++ ['S']))

/-- The canonical text: days, hours, minutes and seconds with their overflow
carried upwards, and without components that are zero. -/
def write (duration : DayTimeDuration) : List Char :=
  if duration.nanoseconds = 0 then ['P', 'T', '0', 'S']
  else
    let size := duration.nanoseconds.natAbs
    let seconds := size / 1000000000
    (if duration.nanoseconds < 0 then ['-'] else []) ++
      'P' :: (Text.writeUnit (seconds / 86400) 'D' ++
        writeTime (seconds % 86400) (size % 1000000000))

/-- The canonical text as a string. -/
def text (duration : DayTimeDuration) : String :=
  String.ofList duration.write

end DayTimeDuration
end PolicyDecision
