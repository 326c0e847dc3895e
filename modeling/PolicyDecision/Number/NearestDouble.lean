import PolicyDecision.Number.Double

/-!
# Nearest double

The double nearest to a decimal number, with ties to the even significand, and
the reading of decimal texts. A text has an optional sign, digits with an
optional point among them and an optional power of ten; `inf`, `infinity` and
`nan` are also read, in any case.
-/

namespace PolicyDecision

/-- Why a text is not a double. -/
inductive DoubleFault
  | empty
  | invalid
  deriving DecidableEq, Repr

/-- The wording of a failed double reading. -/
def DoubleFault.message : DoubleFault → String
  | .empty => "cannot parse float from empty string"
  | .invalid => "invalid float literal"

namespace Double

/-- Quotient rounded to the nearest natural number, a tie to the even one. -/
def roundedQuotient (numerator denominator : Nat) : Nat :=
  let quotient := numerator / denominator
  let double := 2 * (numerator % denominator)
  if denominator < double ∨ (denominator = double ∧ quotient % 2 = 1) then quotient + 1
  else quotient

/-- The power of two of the significand's last place for a positive quotient:
the significand has 53 bits unless the magnitude is too small for that. -/
def lastPlace (numerator denominator : Nat) : Int :=
  let estimate : Int := (Nat.log2 numerator : Int) - Nat.log2 denominator - 52
  let atLeast (exponent : Int) : Bool :=
    let (left, right) :=
      if 0 ≤ exponent then (numerator, denominator * Nat.pow 2 exponent.toNat)
      else (numerator * Nat.pow 2 (-exponent).toNat, denominator)
    ranksPerBinade * right ≤ left
  max (-1074) (if atLeast estimate then estimate else estimate - 1)

/-- The rank of the double nearest to a quotient. -/
def nearestRank (numerator denominator : Nat) : Nat :=
  if numerator = 0 then 0
  else
    let exponent := lastPlace numerator denominator
    let significand :=
      if 0 ≤ exponent then roundedQuotient numerator (denominator * Nat.pow 2 exponent.toNat)
      else roundedQuotient (numerator * Nat.pow 2 (-exponent).toNat) denominator
    (exponent + 1074).toNat * ranksPerBinade + significand

/-- The double nearest to a decimal number given by its digits and a power of
ten. Powers out of the range of doubles are decided by the number of digits. -/
def nearest (negative : Bool) (digits : List Char) (exponent : Int) : Double :=
  let number := Text.numeralValue digits
  let places : Int := (Text.numeral number).length + exponent
  if number = 0 then .ofRank negative 0
  else if places < -330 then .ofRank negative 0
  else if 310 < places then .ofRank negative infinityRank
  else
    let quotient := scaled 10 number exponent
    .ofRank negative (nearestRank quotient.1 quotient.2)

/-- The power of ten after its letter: an optional sign and digits. -/
def readExponent? : List Char → Option Int
  | '-' :: digits => (Text.readNumeral? digits).map fun size => -(size : Int)
  | '+' :: digits => (Text.readNumeral? digits).map Int.ofNat
  | digits => (Text.readNumeral? digits).map Int.ofNat

/-- The magnitude and power of ten of digits with an optional point and an
optional power of ten. -/
def readDecimal? (text : List Char) : Option (List Char × Int) :=
  let whole := text.takeWhile Char.isDigit
  let afterWhole := text.dropWhile Char.isDigit
  let (fraction, rest) :=
    match afterWhole with
    | '.' :: more => (more.takeWhile Char.isDigit, more.dropWhile Char.isDigit)
    | other => ([], other)
  let digits := whole ++ fraction
  if digits.isEmpty then none
  else
    match rest with
    | [] => some (digits, -(fraction.length : Int))
    | letter :: power =>
        if letter = 'e' ∨ letter = 'E' then
          (readExponent? power).map fun exponent => (digits, exponent - fraction.length)
        else none

/-- The double written by an unsigned text. -/
def readUnsigned? (negative : Bool) (text : List Char) : Option Double :=
  let word := String.ofList (text.map Char.toLower)
  if word = "inf" ∨ word = "infinity" then some (.ofRank negative infinityRank)
  else if word = "nan" then some .notANumber
  else (readDecimal? text).map fun decimal => nearest negative decimal.1 decimal.2

/-- The double written by a text. -/
def read (text : List Char) : Except DoubleFault Double :=
  if text.isEmpty then .error .empty
  else
    let double :=
      match text with
      | '-' :: rest => readUnsigned? true rest
      | '+' :: rest => readUnsigned? false rest
      | other => readUnsigned? false other
    match double with
    | some value => .ok value
    | none => .error .invalid

end Double
end PolicyDecision
