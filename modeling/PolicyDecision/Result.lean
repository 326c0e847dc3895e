import PolicyDecision.Attribute
import PolicyDecision.Decision
import PolicyDecision.Obligation
import PolicyDecision.Status

/-!
# Results

The result of evaluating a rule, a policy or a policy set, the merging of
results, and the result that answers one individual request.
-/

namespace PolicyDecision

/-- The list with each new item that it does not hold yet, in order. -/
def unionWith {α : Type} [BEq α] : List α → List α → List α
  | held, [] => held
  | held, item :: rest =>
      if held.contains item then unionWith held rest else unionWith (held ++ [item]) rest

@[simp] theorem unionWith_nil {α : Type} [BEq α] (held : List α) : unionWith held [] = held := rfl

@[simp] theorem unionWith_cons {α : Type} [BEq α] (held : List α) (item : α) (rest : List α) :
    unionWith held (item :: rest) =
      if held.contains item then unionWith held rest else unionWith (held ++ [item]) rest := rfl

/-- The outcome of evaluating a rule, a policy or a policy set. -/
structure EvaluationResult where
  decision : Decision
  status : Status
  obligations : List Obligation
  advice : List Advice
  policyIdentifiers : List PolicyIdentifier
  policySetIdentifiers : List PolicyIdentifier

namespace EvaluationResult

/-- A result with a status and nothing attached. -/
def withStatus (decision : Decision) (status : Status) : EvaluationResult :=
  ⟨decision, status, [], [], [], []⟩

/-- A successful result with nothing attached. -/
def ofDecision (decision : Decision) : EvaluationResult := withStatus decision .ok

/-- The result of something that does not apply. -/
def notApplicable : EvaluationResult := ofDecision .notApplicable

/-- A result that reports a failure of processing. -/
def processingError (decision : Decision) (message : String) : EvaluationResult :=
  withStatus decision (.processingError message)

/-- The status of two merged results. A success takes the other status if that
is an error, and two different errors are joined. -/
def mergeStatus (first second : Status) : Status :=
  if first.isOk then (if second.isOk then first else second)
  else if second.isOk || first == second then first
  else first.concat second

/-- The first result with what the second one adds to it. The first decision is
kept. -/
def merge (first second : EvaluationResult) : EvaluationResult where
  decision := first.decision
  status := mergeStatus first.status second.status
  obligations := unionWith first.obligations second.obligations
  advice := unionWith first.advice second.advice
  policyIdentifiers := unionWith first.policyIdentifiers second.policyIdentifiers
  policySetIdentifiers := unionWith first.policySetIdentifiers second.policySetIdentifiers

@[simp] theorem decision_merge (first second : EvaluationResult) :
    (first.merge second).decision = first.decision := rfl

/-- The result with another decision. -/
def withDecision (result : EvaluationResult) (decision : Decision) : EvaluationResult :=
  { result with decision }

/-- The result with further obligations. -/
def addObligations (result : EvaluationResult) (obligations : List Obligation) : EvaluationResult :=
  { result with obligations := unionWith result.obligations obligations }

/-- The result with further advice. -/
def addAdvice (result : EvaluationResult) (advice : List Advice) : EvaluationResult :=
  { result with advice := unionWith result.advice advice }

/-- The result with a contributing policy recorded. -/
def addPolicyIdentifier (result : EvaluationResult) (id : PolicyIdentifier) : EvaluationResult :=
  { result with policyIdentifiers := unionWith result.policyIdentifiers [id] }

/-- The result with a contributing policy set recorded. -/
def addPolicySetIdentifier (result : EvaluationResult) (id : PolicyIdentifier) :
    EvaluationResult :=
  { result with policySetIdentifiers := unionWith result.policySetIdentifiers [id] }

end EvaluationResult

/-- The answer to one individual request: an evaluation result and the echoed
attributes of the request. -/
structure DecisionResult where
  decision : Decision
  status : Status
  obligations : List Obligation
  advice : List Advice
  policyIdentifiers : List PolicyIdentifier
  policySetIdentifiers : List PolicyIdentifier
  attributes : List AttributeCategory

namespace DecisionResult

/-- An evaluation result without echoed attributes. -/
def ofEvaluation (result : EvaluationResult) : DecisionResult where
  decision := result.decision
  status := result.status
  obligations := result.obligations
  advice := result.advice
  policyIdentifiers := result.policyIdentifiers
  policySetIdentifiers := result.policySetIdentifiers
  attributes := []

/-- A result with a status and nothing attached. -/
def withStatus (decision : Decision) (status : Status) : DecisionResult :=
  ofEvaluation (.withStatus decision status)

/-- An indeterminate result with a status. -/
def ofStatus (status : Status) : DecisionResult := withStatus .indeterminate status

/-- The result with further echoed attributes. -/
def addAttributes (result : DecisionResult) (categories : List AttributeCategory) :
    DecisionResult :=
  { result with attributes := unionWith result.attributes categories }

/-- The result with further contributing policies. -/
def addPolicyIdentifiers (result : DecisionResult) (ids : List PolicyIdentifier) :
    DecisionResult :=
  { result with policyIdentifiers := unionWith result.policyIdentifiers ids }

/-- The result with further contributing policy sets. -/
def addPolicySetIdentifiers (result : DecisionResult) (ids : List PolicyIdentifier) :
    DecisionResult :=
  { result with policySetIdentifiers := unionWith result.policySetIdentifiers ids }

end DecisionResult

/-- The answer to a request: one result for each individual request, or a single
combined one. -/
structure Response where
  results : List DecisionResult

namespace Response

/-- A response with a single indeterminate result. -/
def ofStatus (status : Status) : Response := ⟨[.ofStatus status]⟩

/-- The response with one more result. -/
def push (response : Response) (result : DecisionResult) : Response :=
  ⟨response.results ++ [result]⟩

end Response
end PolicyDecision
