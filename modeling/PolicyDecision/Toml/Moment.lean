import PolicyDecision.Calendar.Day
import PolicyDecision.Text.Digits
import PolicyDecision.Toml.Scalar

/-!
# Dates and times of TOML documents

A date, a time, or a date with a time and maybe an offset, as it stands in a TOML
document. Nothing that is loaded keeps one, so its tree is a table with a single
entry that no record knows.
-/

namespace PolicyDecision
namespace Toml

/-- A number of exactly so many digits, within bounds. -/
def readFixedDigits (width low high : Nat) : Reader Nat := fun text =>
  match Text.readNumeral? (text.take width) with
  | some number =>
      if (text.take width).length = width ∧ low ≤ number ∧ number ≤ high then
        some (number, text.drop width)
      else none
  | none => none

/-- The text after a character at its start. -/
def afterCharacter? (expected : Char) : List Char → Option (List Char)
  | [] => none
  | character :: rest => if character = expected then some rest else none

/-- The text after a calendar day. -/
def afterDay? (text : List Char) : Option (List Char) := do
  let (year, rest) ← readFixedDigits 4 0 9999 text
  let (month, rest) ← readFixedDigits 2 1 12 (← afterCharacter? '-' rest)
  let (_, rest) ← readFixedDigits 2 1 (monthLength year month) (← afterCharacter? '-' rest)
  return rest

/-- The text after the hour and the minute. -/
def afterMinute? (text : List Char) : Option (List Char) := do
  let (_, rest) ← readFixedDigits 2 0 23 text
  let (_, rest) ← readFixedDigits 2 0 59 (← afterCharacter? ':' rest)
  return rest

/-- The text after the fraction of a second at its start, if there is one. -/
def skipFraction : List Char → List Char
  | '.' :: rest =>
      if (rest.head?).any Char.isDigit then rest.dropWhile Char.isDigit else '.' :: rest
  | text => text

/-- The text after a time of day, which may be a leap second. -/
def afterTime? (text : List Char) : Option (List Char) := do
  let (_, rest) ← readFixedDigits 2 0 60 (← afterCharacter? ':' (← afterMinute? text))
  return skipFraction rest

/-- The text after an offset from universal time, if it starts with one. -/
def afterOffset? : List Char → Option (List Char)
  | 'Z' :: rest | 'z' :: rest => some rest
  | '+' :: rest | '-' :: rest => afterMinute? rest
  | text => some text

/-- The text after the time that goes with a date, if one follows. -/
def afterTimeOfDate? (text : List Char) : Option (List Char) :=
  match text with
  | 'T' :: rest | 't' :: rest => (afterTime? rest).bind afterOffset?
  | ' ' :: rest =>
      if (rest.head?).any Char.isDigit then (afterTime? rest).bind afterOffset? else some text
  | _ => some text

/-- The text after a date, a time or both. -/
def afterMoment? (text : List Char) : Option (List Char) :=
  match afterDay? text with
  | some rest => afterTimeOfDate? rest
  | none => afterTime? text

/-- A date, a time or both. -/
def readMoment : Reader DataTree := fun text =>
  (afterMoment? text).map fun rest =>
    let written := text.take (text.length - rest.length)
    (.table [("datetime", .string (String.ofList written))], rest)

end Toml
end PolicyDecision
