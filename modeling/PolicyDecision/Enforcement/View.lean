import PolicyDecision.Fault
import PolicyDecision.Permissions
import PolicyDecision.Result
import PolicyDecision.SortedMap

/-!
# Views of the enforcement point

A decision result as the enforcement point reads it, under a configuration that
says what to do with decisions that are neither a permit nor a denial, and a
permissions result as it is queried by decision and action.
-/

namespace PolicyDecision

/-- What the enforcement point does with a decision that is not definite. -/
inductive Behavior
  | allow
  | deny
  | error
  deriving DecidableEq, Repr

/-- The name of a behavior. -/
def Behavior.name : Behavior → String
  | .allow => "allow"
  | .deny => "deny"
  | .error => "error"

/-- Settings of an enforcement point. -/
structure EnforcementConfiguration where
  indeterminate : Behavior
  notApplicable : Behavior
  deriving DecidableEq, Repr

/-- The settings without any given: nothing is allowed but what is permitted. -/
def EnforcementConfiguration.standard : EnforcementConfiguration := ⟨.deny, .deny⟩

/-- Obligations by their identifiers, of which a later one replaces an earlier
one. -/
def obligationsById (obligations : List Obligation) : SortedMap String Obligation :=
  .ofList (obligations.map fun obligation => (obligation.id, obligation))

/-- A decision result as an enforcement point reads it. -/
structure EnforcementView where
  result : DecisionResult
  configuration : EnforcementConfiguration

namespace EnforcementView

/-- The reason for rejecting a result: the message of its status or, without
one, the name of its code. -/
def rejectionReason (status : Status) : String :=
  if status.messageText.isEmpty then status.code.name else status.messageText

/-- The answer of a behavior to a decision that is not definite. -/
def follow (behavior : Behavior) (result : DecisionResult) : Except Fault Bool :=
  match behavior with
  | .allow => .ok true
  | .deny => .ok false
  | .error => .error (.decisionRejected result.decision (rejectionReason result.status))

/-- Access is allowed. -/
def allowed (view : EnforcementView) : Except Fault Bool :=
  match view.result.decision with
  | .permit => .ok true
  | .deny => .ok false
  | .notApplicable => follow view.configuration.notApplicable view.result
  | _ => follow view.configuration.indeterminate view.result

/-- The obligations by identifier. -/
def obligations (view : EnforcementView) : SortedMap String Obligation :=
  obligationsById view.result.obligations

/-- The policies and policy sets that contributed to the decision. -/
def identifiers (view : EnforcementView) : List PolicyIdentifier :=
  view.result.policyIdentifiers ++ view.result.policySetIdentifiers

end EnforcementView

namespace PermissionsResult

/-- The obligations of a decision on an action by identifier. -/
def obligationsOf (result : PermissionsResult) (decision : Decision) (action : String) :
    SortedMap String Obligation :=
  match result.entry? decision action with
  | some entry => obligationsById entry.obligations
  | none => .empty

/-- The policies of a decision on an action. -/
def policiesOf (result : PermissionsResult) (decision : Decision) (action : String) :
    List String :=
  match result.entry? decision action with
  | some entry => entry.policies
  | none => []

/-- The advice of a decision on an action, of which permissions carry none. -/
def adviceOf (_ : PermissionsResult) (_ : Decision) (_ : String) : List Advice := []

end PermissionsResult
end PolicyDecision
