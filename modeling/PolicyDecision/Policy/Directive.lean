import PolicyDecision.Policy.Expression
import PolicyDecision.Result

/-!
# Directives

Obligations and advice as policies state them, with expressions in place of
values. They are fulfilled once the decision is known: those stated for it
become obligations and advice, unless one of their expressions fails.
-/

namespace PolicyDecision

/-- The decision of a rule that applies, and the decision a directive is stated
for. -/
inductive Effect
  | permit
  | deny
  deriving DecidableEq, Repr

namespace Effect

/-- The effect as a decision. -/
def decision : Effect → Decision
  | .permit => .permit
  | .deny => .deny

/-- The name of an effect. -/
def name : Effect → String
  | .permit => "permit"
  | .deny => "deny"

end Effect

/-- An assignment whose value is computed. An expression that yields a bag makes
one assignment for each of its values. -/
structure AssignmentExpression where
  attributeId : String
  category : Option String
  expression : Expression

/-- An obligation as a policy states it. -/
structure ObligationExpression where
  id : String
  effect : Effect
  assignments : List AssignmentExpression

/-- Advice as a policy states it. -/
structure AdviceExpression where
  id : String
  effect : Effect
  assignments : List AssignmentExpression

namespace AssignmentExpression

/-- The assignments of the values of an expression. -/
def evaluate (source : AttributeSource) (assignment : AssignmentExpression) :
    Except Status (List Assignment) :=
  let assign (value : Value) : Assignment := ⟨assignment.attributeId, assignment.category, value⟩
  match assignment.expression.evaluate source with
  | .single value => .ok [assign value]
  | .bag values => .ok (values.values.map assign)
  | .failed status => .error status

/-- The assignments of several expressions in order, or the first failure. -/
def evaluateAll (source : AttributeSource) :
    List AssignmentExpression → Except Status (List Assignment)
  | [] => .ok []
  | assignment :: rest => do
      let first ← assignment.evaluate source
      let others ← evaluateAll source rest
      return first ++ others

end AssignmentExpression

/-- The obligations stated for a decision, or the first failure among them. -/
def fulfilObligations (source : AttributeSource) (decision : Decision) :
    List ObligationExpression → Except Status (List Obligation)
  | [] => .ok []
  | expression :: rest =>
      if expression.effect.decision = decision then do
        let assignments ← AssignmentExpression.evaluateAll source expression.assignments
        let others ← fulfilObligations source decision rest
        return ⟨expression.id, assignments⟩ :: others
      else fulfilObligations source decision rest

/-- The advice stated for a decision, or the first failure in it. -/
def fulfilAdvice (source : AttributeSource) (decision : Decision) :
    List AdviceExpression → Except Status (List Advice)
  | [] => .ok []
  | expression :: rest =>
      if expression.effect.decision = decision then do
        let assignments ← AssignmentExpression.evaluateAll source expression.assignments
        let others ← fulfilAdvice source decision rest
        return ⟨expression.id, assignments⟩ :: others
      else fulfilAdvice source decision rest

/-- The directives of a rule, a policy or a policy set. -/
structure Directives where
  obligations : List ObligationExpression
  advice : List AdviceExpression

namespace Directives

/-- No directives. -/
def empty : Directives := ⟨[], []⟩

/-- The obligations and advice for a decision, or the first failure. -/
def fulfil (directives : Directives) (source : AttributeSource) (decision : Decision) :
    Except Status (List Obligation × List Advice) := do
  let obligations ← fulfilObligations source decision directives.obligations
  let advice ← fulfilAdvice source decision directives.advice
  return (obligations, advice)

/-- A result with the directives fulfilled for its decision. They only concern a
definite decision, and a failure makes it indeterminate. -/
def attach (directives : Directives) (source : AttributeSource) (result : EvaluationResult) :
    EvaluationResult :=
  if result.decision.isDefinite then
    match directives.fulfil source result.decision with
    | .ok (obligations, advice) => (result.addObligations obligations).addAdvice advice
    | .error status => .withStatus result.decision.asIndeterminate status
  else result

end Directives
end PolicyDecision
