import PolicyDecision.Policy.Directive
import PolicyDecision.Policy.Target

/-!
# Rules

The leaves of the policy tree. A rule that applies decides its effect; an error
in its target, its condition or its directives leaves only that effect within
reach.
-/

namespace PolicyDecision

/-- A target, an optional condition and an effect. -/
structure Rule where
  id : String
  description : String
  effect : Effect
  target : Target
  condition : Option Expression
  directives : Directives

namespace Rule

/-- A rule without a target, a condition and directives. -/
def ofEffect (id : String) (effect : Effect) : Rule :=
  ⟨id, "", effect, .any, none, .empty⟩

/-- The indeterminate decision of a rule that failed. -/
def failure (rule : Rule) : Decision := rule.effect.decision.asIndeterminate

/-- The result of a rule whose target and condition hold. -/
def applied (source : AttributeSource) (rule : Rule) : EvaluationResult :=
  rule.directives.attach source (.ofDecision rule.effect.decision)

/-- The outcome of the condition, which holds when it is absent. -/
def conditionTruth (source : AttributeSource) (rule : Rule) : Except Status Bool :=
  match rule.condition with
  | none => .ok true
  | some condition => condition.truth source

/-- The result of a rule. -/
def evaluate (source : AttributeSource) (rule : Rule) : EvaluationResult :=
  match rule.target.evaluate source with
  | .unmatched => .notApplicable
  | .indeterminate status => .withStatus rule.failure status
  | .matched =>
      match rule.conditionTruth source with
      | .ok true => rule.applied source
      | .ok false => .notApplicable
      | .error status => .withStatus rule.failure status

end Rule
end PolicyDecision
