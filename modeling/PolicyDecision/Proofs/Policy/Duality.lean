import PolicyDecision.Proofs.Combining.Duality
import PolicyDecision.Proofs.Policy.Tree
import PolicyDecision.Proofs.Store.Lookup

/-!
# Duality of policy trees

Permit and deny are exchanged in the effects of rules and directives and in the
algorithms, at every depth and in every stored definition. The dual of a tree
over the dual of a store then answers every request with the dual result: only
the decision differs, and status, directives and identifiers are the same.
-/

namespace PolicyDecision

variable {source : AttributeSource}

/-! ## Directives -/

/-- The effect exchanged for the other one. -/
def Effect.dual : Effect → Effect
  | .permit => .deny
  | .deny => .permit

theorem Effect.decision_dual (effect : Effect) : effect.dual.decision = effect.decision.dual := by
  cases effect <;> rfl

/-- The obligation stated for the other effect. -/
def ObligationExpression.dual (expression : ObligationExpression) : ObligationExpression :=
  { expression with effect := expression.effect.dual }

/-- The advice stated for the other effect. -/
def AdviceExpression.dual (expression : AdviceExpression) : AdviceExpression :=
  { expression with effect := expression.effect.dual }

theorem fulfilObligations_dual (decision : Decision) (expressions : List ObligationExpression) :
    fulfilObligations source decision.dual (expressions.map ObligationExpression.dual) =
      fulfilObligations source decision expressions := by
  induction expressions with
  | nil => rfl
  | cons expression rest inductionHypothesis =>
      simp only [List.map_cons, fulfilObligations, ObligationExpression.dual, Effect.decision_dual,
        Decision.dual_inj, inductionHypothesis]

theorem fulfilAdvice_dual (decision : Decision) (expressions : List AdviceExpression) :
    fulfilAdvice source decision.dual (expressions.map AdviceExpression.dual) =
      fulfilAdvice source decision expressions := by
  induction expressions with
  | nil => rfl
  | cons expression rest inductionHypothesis =>
      simp only [List.map_cons, fulfilAdvice, AdviceExpression.dual, Effect.decision_dual,
        Decision.dual_inj, inductionHypothesis]

namespace Directives

/-- The directives stated for the other effects. -/
def dual (directives : Directives) : Directives where
  obligations := directives.obligations.map ObligationExpression.dual
  advice := directives.advice.map AdviceExpression.dual

/-- Directives give a decision what their duals give the dual decision. -/
theorem fulfil_dual (directives : Directives) (decision : Decision) :
    directives.dual.fulfil source decision.dual = directives.fulfil source decision := by
  simp only [fulfil, dual, fulfilObligations_dual, fulfilAdvice_dual]

theorem attach_dual (directives : Directives) (result : EvaluationResult) :
    directives.dual.attach source result.dual = (directives.attach source result).dual := by
  simp only [attach, EvaluationResult.decision_dual, Decision.isDefinite_dual, fulfil_dual,
    Decision.asIndeterminate_dual]
  split
  · cases directives.fulfil source result.decision <;> rfl
  · rfl

end Directives

/-! ## Rules -/

namespace Rule

/-- The rule with the other effect and dual directives. -/
def dual (rule : Rule) : Rule :=
  { rule with effect := rule.effect.dual, directives := rule.directives.dual }

theorem failure_dual (rule : Rule) : rule.dual.failure = rule.failure.dual := by
  rw [failure, dual, Effect.decision_dual, Decision.asIndeterminate_dual, failure]

theorem applied_dual (rule : Rule) : rule.dual.applied source = (rule.applied source).dual := by
  rw [applied, applied, ← Directives.attach_dual]
  simp only [dual, Effect.decision_dual]
  rfl

/-- The dual of a rule has the dual result. -/
theorem evaluate_dual (rule : Rule) : rule.dual.evaluate source = (rule.evaluate source).dual := by
  have sameTarget : rule.dual.target = rule.target := rfl
  have sameCondition : rule.dual.conditionTruth source = rule.conditionTruth source := rfl
  simp only [evaluate, sameTarget, sameCondition, failure_dual, applied_dual]
  cases rule.target.evaluate source with
  | unmatched => rfl
  | indeterminate status => rfl
  | matched =>
      cases rule.conditionTruth source with
      | error status => rfl
      | ok holds => cases holds <;> rfl

theorem candidate_dual (rule : Rule) :
    rule.dual.candidate source = (rule.candidate source).dual := by
  simp only [candidate, Candidate.dual, evaluate_dual]
  rfl

end Rule

/-! ## Headers -/

namespace EvaluationResult

theorem weaken_dual (combined : EvaluationResult) (status : Status) :
    combined.dual.weaken status = (combined.weaken status).dual := by
  simp only [weaken, decision_dual, Decision.isDefinite_dual, Decision.asIndeterminate_dual]
  split <;> rfl

theorem addPolicyIdentifier_dual (result : EvaluationResult) (id : PolicyIdentifier) :
    result.dual.addPolicyIdentifier id = (result.addPolicyIdentifier id).dual := rfl

theorem addPolicySetIdentifier_dual (result : EvaluationResult) (id : PolicyIdentifier) :
    result.dual.addPolicySetIdentifier id = (result.addPolicySetIdentifier id).dual := rfl

end EvaluationResult

namespace PolicyHeader

/-- The header with the dual algorithm and dual directives. -/
def dual (header : PolicyHeader) : PolicyHeader :=
  { header with algorithm := header.algorithm.dual, directives := header.directives.dual }

theorem conclude_dual
    (header : PolicyHeader)
    (target : MatchResult)
    (combined : EvaluationResult) :
    header.dual.conclude source target combined.dual =
      (header.conclude source target combined).dual := by
  cases target with
  | indeterminate status => exact combined.weaken_dual status
  | matched | unmatched => exact header.directives.attach_dual combined

theorem markApplicable_dual
    {mark : EvaluationResult → EvaluationResult}
    (marks : ∀ result, mark result.dual = (mark result).dual)
    (result : EvaluationResult) :
    markApplicable mark result.dual = (markApplicable mark result).dual := by
  have inapplicable : result.decision.dual = .notApplicable ↔ result.decision = .notApplicable :=
    Decision.dual_eq_iff
  simp only [markApplicable, EvaluationResult.decision_dual, inapplicable, marks]
  split <;> rfl

theorem combineUnder_dual
    (header : PolicyHeader)
    (target : MatchResult)
    {mark : EvaluationResult → EvaluationResult}
    (marks : ∀ result, mark result.dual = (mark result).dual)
    (candidates : List Candidate) :
    header.dual.combineUnder source target mark (candidates.map Candidate.dual) =
      (header.combineUnder source target mark candidates).dual := by
  have combined : (header.dual.algorithm.combine (candidates.map Candidate.dual)).result =
      (header.algorithm.combine candidates).result.dual :=
    congrArg Combination.result (header.algorithm.combine_dual candidates)
  rw [combineUnder, combineUnder, combined, conclude_dual, markApplicable_dual marks]

end PolicyHeader

/-! ## Policies -/

namespace NodeAnswer

/-- The answer with the dual result. -/
def dual (answer : NodeAnswer) : NodeAnswer :=
  ⟨answer.target, answer.result.map EvaluationResult.dual⟩

theorem candidate_dual (answer : NodeAnswer) : answer.dual.candidate = answer.candidate.dual := rfl

theorem underTarget_dual
    (target : Thunk MatchResult)
    (applied : MatchResult → EvaluationResult) :
    (underTarget target applied).dual =
      underTarget target fun reached => (applied reached).dual := by
  refine congrArg (NodeAnswer.mk target) (congrArg Thunk.mk (funext fun _ => ?_))
  change (underTarget target applied).result.get.dual =
    (underTarget target fun reached => (applied reached).dual).result.get
  rw [result_underTarget, result_underTarget]
  cases target.get <;> rfl

@[simp] theorem failed_dual (status : Status) : (failed status).dual = failed status := rfl

end NodeAnswer

namespace Policy

/-- The policy with a dual header and dual rules. -/
def dual (policy : Policy) : Policy := ⟨policy.header.dual, policy.rules.map Rule.dual⟩

/-- The dual of a policy has the dual answer. -/
theorem answer_dual (policy : Policy) :
    policy.dual.answer source = (policy.answer source).dual := by
  have sameCandidates : policy.dual.rules.map (Rule.candidate source) =
      (policy.rules.map (Rule.candidate source)).map Candidate.dual := by
    rw [dual, List.map_map, List.map_map]
    exact List.map_congr_left fun rule _ => rule.candidate_dual
  rw [answer, answer, NodeAnswer.underTarget_dual, sameCandidates]
  congr 1
  funext target
  exact policy.header.combineUnder_dual target (fun result => result.addPolicyIdentifier_dual _) _

end Policy

/-! ## Policy trees -/

namespace PolicyNode

mutual

/-- The node with permit and deny exchanged at every depth. -/
def dual : PolicyNode → PolicyNode
  | .policy leaf => .policy leaf.dual
  | .policySet header children => .policySet header.dual (dualOf children)
  | .reference cited => .reference cited

/-- The duals of several nodes in order. -/
def dualOf : List PolicyNode → List PolicyNode
  | [] => []
  | node :: rest => dual node :: dualOf rest

end

theorem dualOf_eq_map (children : List PolicyNode) : dualOf children = children.map dual := by
  induction children with
  | nil => rfl
  | cons node rest inductionHypothesis => simp [dualOf, inductionHypothesis]

end PolicyNode

/-- The policy set with a dual header and dual children. -/
def PolicySet.dual (set : PolicySet) : PolicySet :=
  ⟨set.header.dual, set.children.map PolicyNode.dual⟩

/-- The resolved definition with the dual answer. -/
def ResolvedDefinition.dual (found : ResolvedDefinition) : ResolvedDefinition :=
  ⟨found.identifier, found.answer.dual⟩

/-- The scope that resolves references to definitions with dual answers. -/
def Scope.dual (scope : Scope) : Scope :=
  ⟨scope.attributeValues, fun id => (scope.resolve id).map ResolvedDefinition.dual⟩

@[simp] theorem Scope.resolve_dual (scope : Scope) (id : String) :
    scope.dual.resolve id = (scope.resolve id).map ResolvedDefinition.dual := rfl

/-- A reference has the dual answer in the dual scope. -/
theorem PolicyReference.answer_dual (scope : Scope) (reference : PolicyReference) :
    reference.answer scope.dual = (reference.answer scope).dual := by
  have filtered : ((scope.dual.resolve reference.id).filter fun found =>
        reference.accepts found.identifier) =
      ((scope.resolve reference.id).filter fun found =>
        reference.accepts found.identifier).map ResolvedDefinition.dual := by
    rw [Scope.resolve_dual, Option.filter_map]
    rfl
  rw [answer, answer, filtered]
  cases (scope.resolve reference.id).filter fun found => reference.accepts found.identifier with
  | none => exact (NodeAnswer.failed_dual _).symm
  | some found => rfl

/-- The dual of a tree has the dual answer in the dual scope. -/
theorem PolicyNode.answer_dual (scope : Scope) (node : PolicyNode) :
    node.dual.answer scope.dual = (node.answer scope).dual := by
  induction node using PolicyNode.inductionOnChildren with
  | policy leaf =>
      rw [dual, answer, answer]
      exact leaf.answer_dual
  | policySet header children inductionHypothesis =>
      have sameCandidates : candidates scope.dual (dualOf children) =
          (candidates scope children).map Candidate.dual := by
        rw [candidates_eq_map, candidates_eq_map, dualOf_eq_map, List.map_map, List.map_map]
        refine List.map_congr_left fun child member => ?_
        rw [Function.comp_apply, Function.comp_apply, inductionHypothesis child member,
          NodeAnswer.candidate_dual]
      rw [dual, answer, answer, NodeAnswer.underTarget_dual, sameCandidates]
      congr 1
      funext target
      exact header.combineUnder_dual target (fun result => result.addPolicySetIdentifier_dual _) _
  | reference cited =>
      rw [dual, answer, answer]
      exact cited.answer_dual scope

/-! ## Stores -/

namespace Definition

/-- The definition with permit and deny exchanged at every depth. -/
def dual : Definition → Definition
  | .policy leaf => .policy leaf.dual
  | .policySet set => .policySet set.dual

theorem toNode_dual (definition : Definition) :
    definition.dual.toNode = definition.toNode.dual := by
  cases definition with
  | policy leaf => rfl
  | policySet set =>
      rw [dual, toNode, toNode, PolicySet.toNode, PolicySet.toNode, PolicyNode.dual,
        PolicyNode.dualOf_eq_map]
      rfl

@[simp] theorem identifier_dual (definition : Definition) :
    definition.dual.identifier = definition.identifier := by
  cases definition <;> rfl

@[simp] theorem id_dual (definition : Definition) : definition.dual.id = definition.id := by
  cases definition <;> rfl

theorem resolved_dual (scope : Scope) (definition : Definition) :
    definition.dual.resolved scope.dual = (definition.resolved scope).dual := by
  rw [resolved, resolved, ResolvedDefinition.dual, identifier_dual, answer, answer, toNode_dual,
    PolicyNode.answer_dual]

theorem unevaluated_dual (definition : Definition) :
    definition.dual.unevaluated = definition.unevaluated.dual := by
  rw [unevaluated, identifier_dual]
  rfl

end Definition

namespace Store

/-- The store with permit and deny exchanged in every definition. -/
def dual (store : Store) : Store :=
  ⟨store.definitions.map Definition.dual, store.roots.map Definition.dual⟩

theorem get?_dual (store : Store) (id : String) :
    store.dual.get? id = (store.get? id).map Definition.dual := by
  rw [get?, get?, dual, List.find?_map]
  congr 2
  funext definition
  rw [Function.comp_apply, Definition.id_dual]

/-- Dual views of the definitions of a store and of its dual are found alike. -/
theorem map_get?_dual
    (store : Store)
    {view dualView : Definition → ResolvedDefinition}
    (isDual : ∀ definition, dualView definition.dual = (view definition).dual)
    (id : String) :
    (store.dual.get? id).map dualView = ((store.get? id).map view).map ResolvedDefinition.dual := by
  rw [get?_dual, Option.map_map, Option.map_map]
  congr 1
  funext definition
  exact isDual definition

/-- The dual of a store resolves references to dual definitions on every level. -/
theorem scopeWithin_dual
    (store : Store)
    (source : AttributeSource)
    {beyond : Definition → ResolvedDefinition}
    (last : ∀ definition, beyond definition.dual = (beyond definition).dual)
    (depth : Nat) :
    store.dual.scopeWithin source beyond depth = (store.scopeWithin source beyond depth).dual := by
  induction depth with
  | zero => exact congrArg (Scope.mk source) (funext fun id => store.map_get?_dual last id)
  | succ depth inductionHypothesis =>
      refine congrArg (Scope.mk source) (funext fun id => ?_)
      change (store.dual.scopeWithin source beyond (depth + 1)).resolve id =
        ((store.scopeWithin source beyond (depth + 1)).resolve id).map ResolvedDefinition.dual
      rw [scopeWithin_resolve, scopeWithin_resolve, inductionHypothesis]
      exact store.map_get?_dual (Definition.resolved_dual _) id

theorem scope_dual (store : Store) (request : IndividualRequest) :
    store.dual.scope request = (store.scope request).dual := by
  rw [scope, scope, ← scopeWithin_dual store _ Definition.unevaluated_dual, dual, List.length_map]

/-- Exchanging permit and deny in a store and in anything that is evaluated over
it exchanges them in the decision, and leaves the status, the directives and the
identifiers of every result as they are. -/
theorem results_dual (store : Store) (request : IndividualRequest) :
    (∀ rule : Rule, rule.dual.evaluate request.attributeValues =
        (rule.evaluate request.attributeValues).dual) ∧
      (∀ policy : Policy, (policy.dual.answer request.attributeValues).result.get =
        (policy.answer request.attributeValues).result.get.dual) ∧
      (∀ set : PolicySet, (set.dual.answer (store.dual.scope request)).result.get =
        (set.answer (store.scope request)).result.get.dual) ∧
      (∀ child : PolicyNode, (child.dual.answer (store.dual.scope request)).result.get =
        (child.answer (store.scope request)).result.get.dual) ∧
      ∀ reference : PolicyReference,
        (reference.answer (store.dual.scope request)).result.get =
          (reference.answer (store.scope request)).result.get.dual := by
  rw [scope_dual]
  refine ⟨fun rule => rule.evaluate_dual, fun policy => ?_, fun set => ?_, fun child => ?_,
    fun reference => ?_⟩
  · rw [policy.answer_dual]
    rfl
  · have sameNode : set.dual.toNode = set.toNode.dual := (Definition.policySet set).toNode_dual
    rw [PolicySet.answer, PolicySet.answer, sameNode, PolicyNode.answer_dual]
    rfl
  · rw [child.answer_dual]
    rfl
  · rw [reference.answer_dual]
    rfl

end Store
end PolicyDecision
