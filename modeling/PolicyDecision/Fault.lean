import PolicyDecision.Decision

/-!
# Faults

Failures of configuration and of collaborators. Problems within an evaluation
are statuses and never faults.
-/

namespace PolicyDecision

/-- Why a configuration, a collaborator or an enforcement failed. -/
inductive Fault
  | configuration (reason : String)
  | resolver (reason : String)
  | context (reason : String)
  | evaluation (reason : String)
  | invalidValue (reason : String)
  | unhandleableObligation (id : String)
  | decisionRejected (decision : Decision) (reason : String)
  deriving DecidableEq, Repr

/-- The wording of a fault. -/
def Fault.message : Fault → String
  | .configuration reason => "configuration error: " ++ reason
  | .resolver reason => "scope resolution failed: " ++ reason
  | .context reason => "evaluation context failure: " ++ reason
  | .evaluation reason => "evaluation failed: " ++ reason
  | .invalidValue reason => "invalid attribute value: " ++ reason
  | .unhandleableObligation id =>
      "No ObligationHandlers available for handling Obligation: " ++ id
  | .decisionRejected decision reason =>
      decision.text ++ " decision is not allowed by the enforcement configuration: " ++ reason

end PolicyDecision
