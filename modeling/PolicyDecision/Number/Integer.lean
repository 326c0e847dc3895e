import PolicyDecision.Text.Digits

/-!
# Integers

Signed integers of sixty-four bits, their decimal reading and their decimal
writing. Reading stops at the first character that rules the text out, so a
number that has grown out of range is reported before a later bad character.
-/

namespace PolicyDecision

/-- The least integer of sixty-four bits. -/
def integerMinimum : Int := -9223372036854775808

/-- The greatest integer of sixty-four bits. -/
def integerMaximum : Int := 9223372036854775807

/-- A signed integer of sixty-four bits. -/
structure Integer where
  toInt : Int
  minimum_le : integerMinimum ≤ toInt := by decide
  le_maximum : toInt ≤ integerMaximum := by decide
  deriving DecidableEq

/-- Why a text is not a decimal integer of sixty-four bits. -/
inductive IntegerFault
  | empty
  | invalidDigit
  | tooLarge
  | tooSmall
  deriving DecidableEq, Repr

/-- The wording of a failed integer reading. -/
def IntegerFault.message : IntegerFault → String
  | .empty => "cannot parse integer from empty string"
  | .invalidDigit => "invalid digit found in string"
  | .tooLarge => "number too large to fit in target type"
  | .tooSmall => "number too small to fit in target type"

namespace Integer

/-- Integers are equal when they denote the same number. -/
@[ext] theorem ext {first second : Integer} (equal : first.toInt = second.toInt) :
    first = second := by
  cases first
  cases second
  cases equal
  rfl

/-- A number within the range, or nothing outside it. -/
def ofInt? (number : Int) : Option Integer :=
  if bounds : integerMinimum ≤ number ∧ number ≤ integerMaximum then
    some ⟨number, bounds.1, bounds.2⟩
  else none

/-- Narrowing a number that is in range gives it back. -/
@[simp] theorem ofInt?_toInt (integer : Integer) : ofInt? integer.toInt = some integer := by
  simp [ofInt?, integer.minimum_le, integer.le_maximum]

/-- Narrowing succeeds only with the same number. -/
theorem toInt_of_ofInt?
    {number : Int} {integer : Integer}
    (narrowed : ofInt? number = some integer) :
    integer.toInt = number := by
  simp only [ofInt?] at narrowed
  split at narrowed
  · cases narrowed
    rfl
  · cases narrowed

/-- The number zero. -/
def zero : Integer := ⟨0, by decide, by decide⟩

/-- The opposite number; the least integer, which has none, gives the greatest. -/
def negateSaturating (integer : Integer) : Integer :=
  if bounds : integerMinimum < integer.toInt then
    ⟨-integer.toInt,
      by have := integer.le_maximum; simp only [integerMinimum, integerMaximum] at *; omega,
      by have := integer.minimum_le; simp only [integerMinimum, integerMaximum] at *; omega⟩
  else ⟨integerMaximum, by decide, by decide⟩

/-- The number denoted by decimal digits that follow digits worth `sofar`,
provided that it stays at or below `limit`. -/
def readMagnitude (limit : Nat) (overflow : IntegerFault) :
    Nat → List Char → Except IntegerFault Nat
  | sofar, [] => .ok sofar
  | sofar, character :: rest =>
      if character.isDigit then
        let next := 10 * sofar + (character.toNat - '0'.toNat)
        if next ≤ limit then readMagnitude limit overflow next rest else .error overflow
      else .error .invalidDigit

/-- The parts of a text of digits with an optional sign: the sign is negative,
and the digits after it. -/
def signAndDigits : List Char → Bool × List Char
  | '-' :: rest => (true, rest)
  | '+' :: rest => (false, rest)
  | text => (false, text)

/-- The integer written as decimal digits with an optional sign. -/
def read (text : List Char) : Except IntegerFault Integer :=
  if text.isEmpty then .error .empty
  else
    let (negative, digits) := signAndDigits text
    if digits.isEmpty then .error .invalidDigit
    else
      let magnitude :=
        if negative then readMagnitude 9223372036854775808 .tooSmall 0 digits
        else readMagnitude 9223372036854775807 .tooLarge 0 digits
      match magnitude with
      | .error fault => .error fault
      | .ok size =>
          match ofInt? (if negative then -(size : Int) else size) with
          | some integer => .ok integer
          | none => .error (if negative then .tooSmall else .tooLarge)

/-- The shortest decimal form, with a minus sign when the number is negative. -/
def write (integer : Integer) : List Char :=
  Text.signedNumeral integer.toInt

/-- The decimal form as a string. -/
def text (integer : Integer) : String :=
  String.ofList integer.write

end Integer
end PolicyDecision
