import PolicyDecision.Function.Argument

/-!
# Comparisons

Equality of two values of one datatype, and the order of integers, doubles and
strings. Strings are ordered by their code points.
-/

namespace PolicyDecision

/-- A test of the order of two values. -/
inductive Comparison
  | greaterThan
  | greaterThanOrEqual
  | lessThan
  | lessThanOrEqual
  deriving DecidableEq, Repr

namespace Comparison

/-- All comparisons. -/
def all : List Comparison := [.greaterThan, .greaterThanOrEqual, .lessThan, .lessThanOrEqual]

/-- The datatypes whose values are ordered. -/
def orderedDatatypes : List Datatype := [.integer, .double, .string]

/-- The name of a comparison after that of its datatype. -/
def name : Comparison → String
  | .greaterThan => "greater-than"
  | .greaterThanOrEqual => "greater-than-or-equal"
  | .lessThan => "less-than"
  | .lessThanOrEqual => "less-than-or-equal"

/-- The comparison is true of values in a given order. -/
def holds : Comparison → Ordering → Bool
  | .greaterThan, order => order == .gt
  | .greaterThanOrEqual, order => order != .lt
  | .lessThan, order => order == .lt
  | .lessThanOrEqual, order => order != .gt

end Comparison

namespace Value

/-- The order of two values of an ordered datatype. -/
def compare? : Value → Value → Option Ordering
  | .integer first, .integer second => some (compare first.toInt second.toInt)
  | .double first, .double second => first.compare? second
  | .string first, .string second => some (compare first second)
  | _, _ => none

end Value

/-- The two simple values of a datatype that a comparison takes. -/
def simplePair (datatype : Datatype) (arguments : List Argument) :
    Except Status (Value × Value) := do
  let (first, second) ← Argument.two arguments
  let left ← first.simple datatype
  let right ← second.simple datatype
  return (left, right)

/-- The outcome of the equality function of a datatype. -/
def applyEquality (datatype : Datatype) (arguments : List Argument) : Except Status Outcome := do
  let (left, right) ← simplePair datatype arguments
  return .ofBool (left.equal right)

/-- The outcome of a comparison of a datatype. -/
def Comparison.apply
    (comparison : Comparison)
    (datatype : Datatype)
    (arguments : List Argument) : Except Status Outcome := do
  let (left, right) ← simplePair datatype arguments
  match left.compare? right with
  | some order => return .ofBool (comparison.holds order)
  | none =>
      throw (.processingError ("Cannot order '" ++ left.text ++ "' and '" ++ right.text ++ "'"))

end PolicyDecision
