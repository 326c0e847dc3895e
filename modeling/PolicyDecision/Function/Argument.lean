import PolicyDecision.Outcome

/-!
# Function arguments

Arguments of functions and their validation. Each argument is checked on its
own, in the order of positions: first that it is there, then that it is a simple
value or a bag as required, then its datatype. An argument that failed passes
its status on.
-/

namespace PolicyDecision

/-- One positional argument. -/
inductive Argument
  | value (value : Value)
  | bag (bag : Bag)
  | missing
  | failed (status : Status)

namespace Argument

/-- The outcome of an expression as an argument. -/
def ofOutcome : Outcome → Argument
  | .single held => .value held
  | .bag values => .bag values
  | .failed status => .failed status

/-- The status of an argument that is not there. -/
def missingStatus : Status := .processingError "Got null argument"

/-- The status of a simple value where a bag is required. -/
def expectedBag : Status := .processingError "Expected a bag, saw a simple value"

/-- The status of a bag where a simple value is required. -/
def expectedSimple : Status := .processingError "Expected a simple value, saw a bag"

/-- The status of a value of the wrong datatype. -/
def typeMismatch (expected seen : Datatype) : Status :=
  .processingError ("Expected data type '" ++ expected.name ++ "' saw '" ++ seen.name ++ "'")

/-- A simple value of a datatype. -/
def simple (datatype : Datatype) : Argument → Except Status Value
  | .value held =>
      if datatype = held.datatype then .ok held
      else .error (typeMismatch datatype held.datatype)
  | .bag _ => .error expectedSimple
  | .missing => .error missingStatus
  | .failed status => .error status

/-- A bag of any values. -/
def anyBag : Argument → Except Status Bag
  | .value _ => .error expectedBag
  | .bag values => .ok values
  | .missing => .error missingStatus
  | .failed status => .error status

/-- A bag whose members all belong to a datatype; the first that does not is
reported. -/
def typedBag (datatype : Datatype) (argument : Argument) : Except Status Bag :=
  match argument.anyBag with
  | .error status => .error status
  | .ok values =>
      match values.values.find? fun member => member.datatype ≠ datatype with
      | some member => .error (typeMismatch datatype member.datatype)
      | none => .ok values

/-- The truth value of a boolean. -/
def boolean (argument : Argument) : Except Status Bool :=
  match argument.simple .boolean with
  | .ok (.boolean truth) => .ok truth
  | .ok other => .error (typeMismatch .boolean other.datatype)
  | .error status => .error status

/-- The number of an integer. -/
def integer (argument : Argument) : Except Status Integer :=
  match argument.simple .integer with
  | .ok (.integer number) => .ok number
  | .ok other => .error (typeMismatch .integer other.datatype)
  | .error status => .error status

/-- The text of a string. -/
def string (argument : Argument) : Except Status String :=
  match argument.simple .string with
  | .ok (.string text) => .ok text
  | .ok other => .error (typeMismatch .string other.datatype)
  | .error status => .error status

/-- The status of a number of arguments that is not the required one. -/
def arityMismatch (expected seen : Nat) : Status :=
  .processingError
    ("Expected " ++ toString expected ++ (if expected = 1 then " argument" else " arguments") ++
      ", got " ++ toString seen)

/-- The only argument. -/
def one (arguments : List Argument) : Except Status Argument :=
  match arguments with
  | [first] => .ok first
  | other => .error (arityMismatch 1 other.length)

/-- The only two arguments. -/
def two (arguments : List Argument) : Except Status (Argument × Argument) :=
  match arguments with
  | [first, second] => .ok (first, second)
  | other => .error (arityMismatch 2 other.length)

end Argument

namespace Value

/-- Equality as the equality functions define it: date-times compare as
instants, and all other values structurally. -/
def equal : Value → Value → Bool
  | .dateTime first, .dateTime second => first.sameInstant second
  | first, second => first == second

/-- Some value of the list is equal to the given one. -/
def isIn (value : Value) (values : List Value) : Bool :=
  values.any fun member => member.equal value

end Value
end PolicyDecision
