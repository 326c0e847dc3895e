import PolicyDecision.Bag

/-!
# Outcomes of expressions

An expression or a function yields a single value, a bag, or a failure with its
status.
-/

namespace PolicyDecision

/-- What an expression yields. -/
inductive Outcome
  | single (value : Value)
  | bag (bag : Bag)
  | failed (status : Status)

namespace Outcome

/-- The outcome of a truth value. -/
def ofBool (truth : Bool) : Outcome := .single (.boolean truth)

/-- The outcome is not a failure. -/
def isOk : Outcome → Bool
  | .failed _ => false
  | _ => true

/-- The status of a failure, or success. -/
def status : Outcome → Status
  | .failed status => status
  | _ => .ok

/-- The single value. -/
def single? : Outcome → Option Value
  | .single value => some value
  | _ => none

/-- The bag. -/
def bag? : Outcome → Option Bag
  | .bag values => some values
  | _ => none

/-- The truth value of a single boolean, as conditions and matches require. -/
def truth : Outcome → Except Status Bool
  | .single (.boolean truth) => .ok truth
  | .failed status => .error status
  | .single other =>
      .error (.processingError ("Expected a boolean result, saw '" ++ other.datatype.name ++ "'"))
  | .bag _ => .error (.processingError "Expected a boolean result, saw a bag")

end Outcome
end PolicyDecision
