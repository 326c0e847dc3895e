import PolicyDecision.Calendar.Lexical
import PolicyDecision.Datatype
import PolicyDecision.Number.NearestDouble
import PolicyDecision.Number.ShortestDecimal
import PolicyDecision.Status
import PolicyDecision.Text.Blank

/-!
# Attribute values

A value belongs to one of the nine datatypes. It is read from a lexical form of
its datatype and written in a canonical form. Values compare structurally, so
that values of different datatypes differ, and doubles compare numerically.
-/

namespace PolicyDecision

/-- A typed attribute value. -/
inductive Value
  | string (text : String)
  | boolean (truth : Bool)
  | integer (number : Integer)
  | double (number : Double)
  | date (date : Date)
  | dateTime (dateTime : DateTime)
  | dayTimeDuration (duration : DayTimeDuration)
  | yearMonthDuration (duration : YearMonthDuration)
  | anyUri (text : String)

/-- What keeps a text from being a lexical form of a datatype. -/
inductive LexicalFault
  | blankInUri
  | notBoolean
  | integer (fault : IntegerFault)
  | double (fault : DoubleFault)
  | calendar (fault : CalendarFault)
  | dayTime (fault : DayTimeFault)
  | yearMonth (fault : YearMonthFault)
  deriving DecidableEq, Repr

/-- The wording of a lexical fault. -/
def LexicalFault.message : LexicalFault → String
  | .blankInUri => "whitespace is not allowed in a URI"
  | .notBoolean => "expected true, false, 1 or 0"
  | .integer fault => fault.message
  | .double fault => fault.message
  | .calendar fault => fault.message
  | .dayTime fault => fault.message
  | .yearMonth fault => fault.message

/-- A text that could not be converted to a datatype. -/
structure ConversionFault where
  lexical : String
  datatype : Datatype
  reason : LexicalFault
  deriving DecidableEq, Repr

namespace ConversionFault

/-- The wording of a failed conversion. -/
def message (fault : ConversionFault) : String :=
  "Cannot convert '" ++ fault.lexical ++ "' to " ++ fault.datatype.name ++ ": " ++
    fault.reason.message

/-- A failed conversion as a status. -/
def status (fault : ConversionFault) : Status :=
  .syntaxError fault.message

end ConversionFault

namespace Value

/-- The datatype of a value. -/
def datatype : Value → Datatype
  | .string _ => .string
  | .boolean _ => .boolean
  | .integer _ => .integer
  | .double _ => .double
  | .date _ => .date
  | .dateTime _ => .dateTime
  | .dayTimeDuration _ => .dayTimeDuration
  | .yearMonthDuration _ => .yearMonthDuration
  | .anyUri _ => .anyUri

/-- Structural equality, numeric for doubles. -/
def same : Value → Value → Bool
  | .string first, .string second => first == second
  | .boolean first, .boolean second => first == second
  | .integer first, .integer second => first == second
  | .double first, .double second => first == second
  | .date first, .date second => first == second
  | .dateTime first, .dateTime second => first == second
  | .dayTimeDuration first, .dayTimeDuration second => first == second
  | .yearMonthDuration first, .yearMonthDuration second => first == second
  | .anyUri first, .anyUri second => first == second
  | _, _ => false

instance : BEq Value := ⟨same⟩

/-- The truth value of a boolean. -/
def truth? : Value → Option Bool
  | .boolean truth => some truth
  | _ => none

/-- The number of an integer. -/
def integer? : Value → Option Integer
  | .integer number => some number
  | _ => none

/-- The text of a string or of an identifier of a resource. -/
def text? : Value → Option String
  | .string text => some text
  | .anyUri text => some text
  | _ => none

/-- The truth value written by a trimmed text. -/
def readBoolean? (text : List Char) : Option Bool :=
  if text = ['t', 'r', 'u', 'e'] ∨ text = ['1'] then some true
  else if text = ['f', 'a', 'l', 's', 'e'] ∨ text = ['0'] then some false
  else none

/-- The value of a datatype written by a text. -/
def read (datatype : Datatype) (text : List Char) : Except LexicalFault Value :=
  match datatype with
  | .string => .ok (.string (String.ofList text))
  | .anyUri =>
      if text.any Text.isBlank then .error .blankInUri else .ok (.anyUri (String.ofList text))
  | .boolean =>
      match readBoolean? (Text.trim text) with
      | some truth => .ok (.boolean truth)
      | none => .error .notBoolean
  | .integer =>
      match Integer.read (Text.trim text) with
      | .ok number => .ok (.integer number)
      | .error fault => .error (.integer fault)
  | .double =>
      match Double.read (Text.trim text) with
      | .ok number => .ok (.double number)
      | .error fault => .error (.double fault)
  | .date =>
      match Date.read text with
      | .ok written => .ok (.date written)
      | .error fault => .error (.calendar fault)
  | .dateTime =>
      match DateTime.read text with
      | .ok written => .ok (.dateTime written)
      | .error fault => .error (.calendar fault)
  | .dayTimeDuration =>
      match DayTimeDuration.read text with
      | .ok duration => .ok (.dayTimeDuration duration)
      | .error fault => .error (.dayTime fault)
  | .yearMonthDuration =>
      match YearMonthDuration.read text with
      | .ok duration => .ok (.yearMonthDuration duration)
      | .error fault => .error (.yearMonth fault)

/-- The value of a datatype written by a string; a failure names both. -/
def parse (datatype : Datatype) (lexical : String) : Except ConversionFault Value :=
  match read datatype lexical.toList with
  | .ok value => .ok value
  | .error reason => .error ⟨lexical, datatype, reason⟩

/-- The canonical lexical form of a value. -/
def text : Value → String
  | .string text => text
  | .boolean truth => if truth then "true" else "false"
  | .integer number => number.text
  | .double number => String.ofList number.write
  | .date written => written.text
  | .dateTime written => written.text
  | .dayTimeDuration duration => duration.text
  | .yearMonthDuration duration => duration.text
  | .anyUri text => text

end Value
end PolicyDecision
