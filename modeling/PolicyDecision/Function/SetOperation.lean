import PolicyDecision.Function.Argument

/-!
# Set functions

Set operations on two bags of one datatype. Equal values count once; the bags
that result keep the order of first occurrence.
-/

namespace PolicyDecision

/-- A set function on bags of one datatype. -/
inductive SetFunction
  | intersection
  | atLeastOneMemberOf
  | union
  | subset
  | setEquals
  deriving DecidableEq, Repr

namespace SetFunction

/-- All set functions. -/
def all : List SetFunction := [.intersection, .atLeastOneMemberOf, .union, .subset, .setEquals]

/-- The name of a function after that of its datatype. -/
def name : SetFunction → String
  | .intersection => "intersection"
  | .atLeastOneMemberOf => "at-least-one-member-of"
  | .union => "union"
  | .subset => "subset"
  | .setEquals => "set-equals"

/-- The function yields a bag and not a truth value. -/
def returnsBag : SetFunction → Bool
  | .intersection | .union => true
  | .atLeastOneMemberOf | .subset | .setEquals => false

/-- The values held already, followed by each further value that is not equal
to an earlier one. -/
def distinctAfter (held : List Value) : List Value → List Value
  | [] => held
  | value :: rest =>
      if value.isIn held then distinctAfter held rest else distinctAfter (held ++ [value]) rest

/-- Each value that is not equal to an earlier one. -/
def distinct (values : List Value) : List Value := distinctAfter [] values

/-- Every value of the first list is in the second. -/
def contained (first second : List Value) : Bool :=
  first.all fun value => value.isIn second

/-- The outcome of a set function on two lists of values. -/
def outcome (function : SetFunction) (first second : List Value) : Outcome :=
  match function with
  | .intersection => .bag ⟨distinct (first.filter fun value => value.isIn second)⟩
  | .union => .bag ⟨distinct (first ++ second)⟩
  | .atLeastOneMemberOf => .ofBool (first.any fun value => value.isIn second)
  | .subset => .ofBool (contained first second)
  | .setEquals => .ofBool (contained first second && contained second first)

/-- The outcome of a set function of a datatype. -/
def apply
    (function : SetFunction)
    (datatype : Datatype)
    (arguments : List Argument) : Except Status Outcome := do
  let (left, right) ← Argument.two arguments
  let first ← left.typedBag datatype
  let second ← right.typedBag datatype
  return function.outcome first.values second.values

end SetFunction
end PolicyDecision
