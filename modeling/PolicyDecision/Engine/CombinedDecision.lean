import PolicyDecision.Result

/-!
# Combined decisions

The single answer to a request for a combined decision. The first individual
result seeds it, and any later decision that differs makes it indeterminate.
Results with advice or obligations count as indeterminate. Identifiers and
echoed attributes are collected from all results.
-/

namespace PolicyDecision
namespace CombinedDecision

/-- The status of a combined decision with advice. -/
def adviceNotAllowed : Status := .processingError "Advice not allowed in combined decision"

/-- The status of a combined decision with obligations. -/
def obligationsNotAllowed : Status :=
  .processingError "Obligations not allowed in combined decision"

/-- The status of individual decisions that differ. -/
def decisionsDoNotMatch : Status := .processingError "Individual decisions do not match"

/-- The decision and the status that an individual result counts with. -/
def counted (individual : DecisionResult) : Decision × Status :=
  if !individual.advice.isEmpty then (.indeterminate, adviceNotAllowed)
  else if !individual.obligations.isEmpty then (.indeterminate, obligationsNotAllowed)
  else (individual.decision, individual.status)

/-- The combined result before the identifiers and attributes of the latest
individual result are added. -/
def agree (combined : Option DecisionResult) (individual : DecisionResult) : DecisionResult :=
  let (decision, status) := counted individual
  match combined with
  | none => .withStatus decision status
  | some running =>
      if running.decision = decision then running
      else { running with decision := .indeterminate, status := decisionsDoNotMatch }

/-- The combined result with one more individual result. -/
def accumulate (combined : Option DecisionResult) (individual : DecisionResult) :
    Option DecisionResult :=
  some
    ((((agree combined individual).addPolicyIdentifiers individual.policyIdentifiers)
      |>.addPolicySetIdentifiers individual.policySetIdentifiers)
      |>.addAttributes individual.attributes)

/-- The combined result of individual results, which is nothing without any. -/
def combine (results : List DecisionResult) : Option DecisionResult :=
  results.foldl accumulate none

end CombinedDecision
end PolicyDecision
