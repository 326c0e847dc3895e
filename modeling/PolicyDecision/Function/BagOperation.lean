import PolicyDecision.Function.Argument

/-!
# Bag functions

Taking the only value of a bag, its size, membership, and the making of a bag.
The size is the same for members of any datatype.
-/

namespace PolicyDecision

/-- A function on bags of one datatype. -/
inductive BagFunction
  | oneAndOnly
  | size
  | isIn
  | bag
  deriving DecidableEq, Repr

namespace BagFunction

/-- All functions on bags. -/
def all : List BagFunction := [.oneAndOnly, .size, .isIn, .bag]

/-- The name of a function after that of its datatype. -/
def name : BagFunction → String
  | .oneAndOnly => "one-and-only"
  | .size => "bag-size"
  | .isIn => "is-in"
  | .bag => "bag"

/-- The only member of a bag. -/
def onlyMember (datatype : Datatype) (arguments : List Argument) : Except Status Outcome := do
  let argument ← Argument.one arguments
  let values ← argument.typedBag datatype
  match values.values with
  | [only] => return .single only
  | several =>
      throw (.processingError
        ("Expected 1 but Bag has " ++ toString several.length ++ " elements"))

/-- The number of members of a bag. -/
def numberOfMembers (arguments : List Argument) : Except Status Outcome := do
  let argument ← Argument.one arguments
  let values ← argument.anyBag
  match Integer.ofInt? values.size with
  | some number => return .single (.integer number)
  | none => throw (.processingError "Bag too large")

/-- The membership of a value in a bag. -/
def membership (datatype : Datatype) (arguments : List Argument) : Except Status Outcome := do
  let (first, second) ← Argument.two arguments
  let value ← first.simple datatype
  let values ← second.typedBag datatype
  return .ofBool (value.isIn values.values)

/-- The simple values of a datatype, up to the first argument that is not one. -/
def simpleValues (datatype : Datatype) : List Argument → Except Status (List Value)
  | [] => .ok []
  | argument :: rest => do
      let value ← argument.simple datatype
      let values ← simpleValues datatype rest
      return value :: values

/-- The outcome of a function on bags of a datatype. -/
def apply
    (function : BagFunction)
    (datatype : Datatype)
    (arguments : List Argument) : Except Status Outcome :=
  match function with
  | .oneAndOnly => onlyMember datatype arguments
  | .size => numberOfMembers arguments
  | .isIn => membership datatype arguments
  | .bag => (simpleValues datatype arguments).map fun values => .bag ⟨values⟩

end BagFunction
end PolicyDecision
