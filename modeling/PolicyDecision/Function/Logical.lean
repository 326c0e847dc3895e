import PolicyDecision.Function.Argument

/-!
# Logical functions

Disjunction, conjunction, negation and the test for a number of true arguments.
The scan of the arguments stops at the first one that decides, so the arguments
after it are not validated.
-/

namespace PolicyDecision

/-- A logical function. -/
inductive LogicalFunction
  | or
  | and
  | nOf
  | not
  deriving DecidableEq, Repr

namespace LogicalFunction

/-- All logical functions. -/
def all : List LogicalFunction := [.or, .and, .nOf, .not]

/-- The name of a logical function. -/
def name : LogicalFunction → String
  | .or => "or"
  | .and => "and"
  | .nOf => "n-of"
  | .not => "not"

/-- Some argument is true. -/
def anyTrue : List Argument → Except Status Bool
  | [] => .ok false
  | argument :: rest =>
      match argument.boolean with
      | .error status => .error status
      | .ok true => .ok true
      | .ok false => anyTrue rest

/-- All arguments are true. -/
def allTrue : List Argument → Except Status Bool
  | [] => .ok true
  | argument :: rest =>
      match argument.boolean with
      | .error status => .error status
      | .ok false => .ok false
      | .ok true => allTrue rest

/-- At least a number of arguments are true; zero are found at once. -/
def atLeast : Nat → List Argument → Except Status Bool
  | 0, _ => .ok true
  | _ + 1, [] => .ok false
  | wanted + 1, argument :: rest =>
      match argument.boolean with
      | .error status => .error status
      | .ok true => atLeast wanted rest
      | .ok false => atLeast (wanted + 1) rest

/-- At least as many arguments after the first one are true as the first one
says. -/
def countedTrue : List Argument → Except Status Bool
  | [] => .error (.processingError "Expected 1 or more arguments, got 0")
  | first :: rest =>
      match first.integer with
      | .error status => .error status
      | .ok count =>
          if count.toInt < 0 then
            .error (.processingError ("Count must not be negative, got " ++ count.text))
          else if (rest.length : Int) < count.toInt then
            .error
              (.processingError
                ("Expected " ++ count.text ++ " arguments but only " ++ toString rest.length ++
                  " arguments in list after the count"))
          else atLeast count.toInt.toNat rest

/-- The only argument is false. -/
def negation (arguments : List Argument) : Except Status Bool :=
  match Argument.one arguments with
  | .error status => .error status
  | .ok argument => argument.boolean.map fun truth => !truth

/-- The truth value of a logical function. -/
def truth (function : LogicalFunction) (arguments : List Argument) : Except Status Bool :=
  match function with
  | .or => anyTrue arguments
  | .and => allTrue arguments
  | .nOf => countedTrue arguments
  | .not => negation arguments

/-- The outcome of a logical function. -/
def apply (function : LogicalFunction) (arguments : List Argument) : Except Status Outcome :=
  (function.truth arguments).map Outcome.ofBool

end LogicalFunction
end PolicyDecision
