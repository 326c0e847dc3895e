import PolicyDecision.Number.Double

/-!
# Shortest decimal

The decimal text of a double: the fewest significant digits that read back as
the same double, the nearest such digits, and the greater of two that are
equally near. The text is positional, without an exponent, without a trailing
point and without trailing zeros after the point.
-/

namespace PolicyDecision
namespace Double

/-- The magnitude of a positive finite rank as a quotient, and the ends of the
interval of numbers that round to it, all over the same denominator. -/
structure RoundingInterval where
  low : Nat
  value : Nat
  high : Nat
  denominator : Nat
  closed : Bool

/-- The interval of numbers that round to the magnitude of a rank. -/
def roundingInterval (rank : Nat) : RoundingInterval :=
  let (significand, exponent) := significandAndExponent rank
  let (scale, denominator) := scaled 2 1 exponent
  let narrowBelow := ranksPerBinade < rank ∧ rank % ranksPerBinade = 0
  { low := (4 * significand - (if narrowBelow then 1 else 2)) * scale
    value := 4 * significand * scale
    high := (4 * significand + 2) * scale
    denominator := 4 * denominator
    closed := significand % 2 = 0 }

/-- A quotient over the common denominator lies in the interval. -/
def RoundingInterval.holds (interval : RoundingInterval) (numerator denominator : Nat) : Bool :=
  let point := numerator * interval.denominator
  let low := interval.low * denominator
  let high := interval.high * denominator
  if interval.closed then low ≤ point && point ≤ high else low < point && point < high

/-- The number of decimal places before the point of a positive quotient; for a
quotient below one tenth, the negated number of zeros right after the point. -/
def placesBeforePoint (numerator denominator : Nat) : Int :=
  if denominator ≤ numerator then (Text.numeral (numerator / denominator)).length
  else
    let inverse := (denominator + numerator - 1) / numerator
    1 - ((Text.numeral (inverse - 1)).length : Int)

/-- The digits of a grid point next to the value that rounds back to it, on the
grid of `count` significant digits. Of two such points the nearer is taken and
of two equally near ones the greater. -/
def gridPoint? (interval : RoundingInterval) (places : Int) (count : Nat) : Option Nat :=
  let (numerator, denominator) := scaled 10 1 (places - count)
  let scaledValue := interval.value * denominator
  let unit := interval.denominator * numerator
  let below := scaledValue / unit
  let above := below + 1
  let holdsBelow := interval.holds (below * numerator) denominator
  let holdsAbove := interval.holds (above * numerator) denominator
  let nearerBelow := 2 * (scaledValue % unit) < unit
  if holdsBelow && (nearerBelow || !holdsAbove) then some below
  else if holdsAbove then some above
  else none

/-- The digits of a magnitude with the fewest significant digits, tried in
increasing number; seventeen digits always suffice. -/
def shortestFrom (interval : RoundingInterval) (places : Int) : Nat → Nat → Nat × Nat
  | 0, count => (0, count)
  | trials + 1, count =>
      match gridPoint? interval places count with
      | some point => (point, count)
      | none => shortestFrom interval places trials (count + 1)

/-- The shortest digits of a positive finite rank and the position of the point
relative to their start. -/
def shortestDigits (rank : Nat) : List Char × Int :=
  let interval := roundingInterval rank
  let places := placesBeforePoint interval.value interval.denominator
  let (point, count) := shortestFrom interval places 17 1
  let digits := Text.numeral point
  let pointPosition := places + ((digits.length : Int) - count)
  ((digits.reverse.dropWhile (· = '0')).reverse, pointPosition)

/-- Digits written without an exponent, the point being `position` places after
the first digit. -/
def positional (digits : List Char) (position : Int) : List Char :=
  if position ≤ 0 then '0' :: '.' :: (List.replicate (-position).toNat '0' ++ digits)
  else
    let places := position.toNat
    if digits.length ≤ places then digits ++ List.replicate (places - digits.length) '0'
    else digits.take places ++ '.' :: digits.drop places

/-- The text of a magnitude. -/
def writeMagnitude (rank : Nat) : List Char :=
  if rank = 0 then ['0']
  else if infinityRank ≤ rank then ['i', 'n', 'f']
  else
    let (digits, position) := shortestDigits rank
    positional digits position

/-- The text of a double. -/
def write : Double → List Char
  | .notANumber => ['N', 'a', 'N']
  | .signed negative rank =>
      if negative then '-' :: writeMagnitude rank.val else writeMagnitude rank.val

end Double
end PolicyDecision
