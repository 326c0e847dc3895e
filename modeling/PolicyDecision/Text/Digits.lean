/-!
# Decimal digits

Reading and writing natural numbers in decimal, and the cut of a text at its
first separator. Texts are lists of characters; a number is read only from a
text of ASCII digits.
-/

namespace PolicyDecision
namespace Text

/-- The text is not empty and holds ASCII digits only. -/
def isNumeral (text : List Char) : Bool :=
  !text.isEmpty && text.all Char.isDigit

/-- The number that a text of decimal digits denotes. -/
def numeralValue (text : List Char) : Nat :=
  Nat.ofDigitChars 10 text 0

/-- The number denoted by a numeral, or nothing when the text is not one. -/
def readNumeral? (text : List Char) : Option Nat :=
  if isNumeral text then some (numeralValue text) else none

/-- The decimal digits of a number, without leading zeros. -/
def numeral (number : Nat) : List Char :=
  Nat.toDigits 10 number

/-- Reading the digits of a number gives the number back. -/
@[simp] theorem numeralValue_numeral (number : Nat) :
    numeralValue (numeral number) = number :=
  Nat.ofDigitChars_toDigits (by decide) (by decide)

/-- The decimal digits of a number, filled with zeros in front up to a width. -/
def paddedNumeral (width number : Nat) : List Char :=
  (numeral number).leftpad width '0'

/-- The decimal digits of an integer, with a minus sign when it is negative. -/
def signedNumeral (number : Int) : List Char :=
  if number < 0 then '-' :: numeral number.natAbs else numeral number.natAbs

/-- The text before and after the first separator, or nothing without one. -/
def cutAt (separator : Char) : List Char → Option (List Char × List Char)
  | [] => none
  | character :: rest =>
      if character = separator then some ([], rest)
      else (cutAt separator rest).map fun parts => (character :: parts.1, parts.2)

@[simp] theorem cutAt_nil (separator : Char) : cutAt separator [] = none := rfl

/-- A cut loses nothing but the separator. -/
theorem append_of_cutAt
    {separator : Char}
    {text before after : List Char}
    (cut : cutAt separator text = some (before, after)) :
    text = before ++ separator :: after := by
  induction text generalizing before with
  | nil => simp at cut
  | cons character rest inductionHypothesis =>
      by_cases equal : character = separator
      · simp only [cutAt, equal, ↓reduceIte, Option.some.injEq, Prod.mk.injEq] at cut
        obtain ⟨rfl, rfl⟩ := cut
        simp [equal]
      · simp only [cutAt, equal, ↓reduceIte, Option.map_eq_some_iff] at cut
        obtain ⟨⟨inner, outer⟩, found, parts⟩ := cut
        simp only [Prod.mk.injEq] at parts
        obtain ⟨rfl, rfl⟩ := parts
        simp [inductionHypothesis found]

/-- Text up to a last character, or nothing when it does not end so. -/
def withoutLast? (last : Char) (text : List Char) : Option (List Char) :=
  if text.getLast? = some last then some text.dropLast else none

/-- The characters after the last separator, or all of them without one. -/
def afterLast (separator : Char) (text : List Char) : List Char :=
  (text.reverse.takeWhile (· ≠ separator)).reverse

end Text
end PolicyDecision
