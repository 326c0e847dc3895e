import PolicyDecision.Text.Digits

/-!
# Numeric fields

Dates, times and durations are written with unsigned numeric fields and with
fractions of a second. A field is a non-empty run of ASCII digits within a
limit; a fraction keeps its first nine digits.
-/

namespace PolicyDecision
namespace Text

/-- What is wrong with a numeric field. -/
inductive FieldProblem
  | malformed
  | outOfRange
  deriving DecidableEq, Repr

/-- A numeric field that cannot be read: what the field stands for and its text. -/
structure FieldFault where
  name : String
  text : List Char
  problem : FieldProblem
  deriving DecidableEq, Repr

/-- The wording of an unreadable field. -/
def FieldFault.message (fault : FieldFault) : String :=
  let text := String.ofList fault.text
  match fault.problem with
  | .malformed => "invalid " ++ fault.name ++ " '" ++ text ++ "'"
  | .outOfRange => fault.name ++ " '" ++ text ++ "' out of range"

/-- The number in a field, at most `limit`. -/
def readField (name : String) (limit : Nat) (text : List Char) : Except FieldFault Nat :=
  match readNumeral? text with
  | none => .error ⟨name, text, .malformed⟩
  | some number => if number ≤ limit then .ok number else .error ⟨name, text, .outOfRange⟩

/-- The nanoseconds of a fraction of a second given by its digits; digits past
the ninth are dropped. -/
def fractionNanoseconds (digits : List Char) : Nat :=
  numeralValue ((digits.take 9).rightpad 9 '0')

/-- Seconds with their fraction of nanoseconds, without trailing zeros. -/
def writeSeconds (seconds nanoseconds : Nat) : List Char :=
  if nanoseconds = 0 then numeral seconds
  else
    numeral seconds ++
      '.' :: ((paddedNumeral 9 nanoseconds).reverse.dropWhile (· = '0')).reverse

/-- A leading minus sign and the text after it. -/
def leadingMinus : List Char → Bool × List Char
  | '-' :: rest => (true, rest)
  | text => (false, text)

/-- A number with the letter of its unit, left out when it is zero. -/
def writeUnit (number : Nat) (letter : Char) : List Char :=
  if number = 0 then [] else numeral number ++ [letter]

/-- All characters belong to ASCII. -/
def isAscii (text : List Char) : Bool :=
  text.all fun character => character.toNat < 128

end Text
end PolicyDecision
