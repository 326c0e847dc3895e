import PolicyDecision.Proofs.Combining.WellFormed
import PolicyDecision.Proofs.Policy.Failure
import PolicyDecision.Proofs.Policy.Tree
import PolicyDecision.Store.Lookup

/-!
# Well-formed answers of policy trees

Every rule, policy, policy set and reference answers with a well-formed result,
over any store and for any request. The proof follows the tree and then the
levels of references; a node is well formed because its children are.
-/

namespace PolicyDecision

namespace EvaluationResult

/-- A result under an indeterminate target is well formed. -/
theorem WellFormed.weaken
    {combined : EvaluationResult}
    {status : Status}
    (formed : combined.WellFormed)
    (failed : status.isOk = false) : (combined.weaken status).WellFormed := by
  unfold EvaluationResult.weaken
  split
  · rename_i definite
    exact wellFormed_withStatus (Decision.asIndeterminate_isIndeterminate definite) failed
  · exact formed

/-- A definite result stays well formed with further directives. -/
theorem WellFormed.addDirectives
    {result : EvaluationResult}
    (formed : result.WellFormed)
    (definite : result.decision.isDefinite = true)
    (obligations : List Obligation)
    (advice : List Advice) :
    ((result.addObligations obligations).addAdvice advice).WellFormed where
  bare_of_notApplicable := fun inapplicable => by
    rw [show result.decision = .notApplicable from inapplicable] at definite
    cases definite
  ok_of_definite := formed.ok_of_definite
  failed_of_indeterminate := formed.failed_of_indeterminate
  undirected_of_indeterminate := fun indeterminate =>
    absurd indeterminate (Decision.not_isIndeterminate_of_isDefinite definite)
  policies_nodup := formed.policies_nodup
  policySets_nodup := formed.policySets_nodup

/-- An applicable result stays well formed with a contributing policy recorded. -/
theorem WellFormed.addPolicyIdentifier
    {result : EvaluationResult}
    (formed : result.WellFormed)
    (applicable : result.decision ≠ .notApplicable)
    (id : PolicyIdentifier) : (result.addPolicyIdentifier id).WellFormed where
  bare_of_notApplicable := fun inapplicable => absurd inapplicable applicable
  ok_of_definite := formed.ok_of_definite
  failed_of_indeterminate := formed.failed_of_indeterminate
  undirected_of_indeterminate := formed.undirected_of_indeterminate
  policies_nodup := nodup_unionWith formed.policies_nodup _
  policySets_nodup := formed.policySets_nodup

/-- An applicable result stays well formed with a contributing policy set
recorded. -/
theorem WellFormed.addPolicySetIdentifier
    {result : EvaluationResult}
    (formed : result.WellFormed)
    (applicable : result.decision ≠ .notApplicable)
    (id : PolicyIdentifier) : (result.addPolicySetIdentifier id).WellFormed where
  bare_of_notApplicable := fun inapplicable => absurd inapplicable applicable
  ok_of_definite := formed.ok_of_definite
  failed_of_indeterminate := formed.failed_of_indeterminate
  undirected_of_indeterminate := formed.undirected_of_indeterminate
  policies_nodup := formed.policies_nodup
  policySets_nodup := nodup_unionWith formed.policySets_nodup _

end EvaluationResult

/-- A well-formed result stays so when directives are attached to it. -/
theorem Directives.attach_wellFormed
    (directives : Directives)
    (source : AttributeSource)
    {result : EvaluationResult}
    (formed : result.WellFormed) : (directives.attach source result).WellFormed := by
  unfold attach
  split
  · rename_i definite
    split
    · exact formed.addDirectives definite _ _
    · rename_i status failed
      exact EvaluationResult.wellFormed_withStatus
        (Decision.asIndeterminate_isIndeterminate definite)
        (directives.fulfil_reportsErrors source _ status failed)
  · exact formed

theorem Effect.decision_isDefinite (effect : Effect) : effect.decision.isDefinite = true := by
  cases effect <;> rfl

/-- Every rule has a well-formed result. -/
theorem Rule.evaluate_wellFormed (source : AttributeSource) (rule : Rule) :
    (rule.evaluate source).WellFormed := by
  have failure : rule.failure.isIndeterminate = true :=
    Decision.asIndeterminate_isIndeterminate rule.effect.decision_isDefinite
  unfold evaluate
  split
  · exact EvaluationResult.wellFormed_notApplicable
  · rename_i status indeterminate
    exact EvaluationResult.wellFormed_withStatus failure
      (rule.target.evaluate_reportsErrors source status indeterminate)
  · split
    · exact rule.directives.attach_wellFormed source
        (EvaluationResult.wellFormed_ofDecision rule.effect.decision_isDefinite)
    · exact EvaluationResult.wellFormed_notApplicable
    · rename_i status undecided
      exact EvaluationResult.wellFormed_withStatus failure
        (rule.conditionTruth_reportsErrors source status undecided)

theorem Rule.candidate_wellFormed (source : AttributeSource) (rule : Rule) :
    (rule.candidate source).WellFormed where
  result := rule.evaluate_wellFormed source
  target := rule.target.evaluate_reportsErrors source

/-- The result of well-formed children under a header is well formed when
recording the header's identifier keeps it so. -/
theorem PolicyHeader.combineUnder_wellFormed
    {source : AttributeSource}
    (header : PolicyHeader)
    {target : MatchResult}
    {mark : EvaluationResult → EvaluationResult}
    {candidates : List Candidate}
    (reports : target.ReportsErrors)
    (marked : ∀ {result : EvaluationResult}, result.WellFormed →
      result.decision ≠ .notApplicable → (mark result).WellFormed)
    (formed : ∀ candidate ∈ candidates, candidate.WellFormed) :
    (header.combineUnder source target mark candidates).WellFormed := by
  have combined := header.algorithm.combine_wellFormed formed
  have concluded : (header.conclude source target
      (header.algorithm.combine candidates).result).WellFormed := by
    unfold conclude
    split
    · rename_i status
      exact combined.weaken (reports status rfl)
    · exact header.directives.attach_wellFormed source combined
  unfold combineUnder markApplicable
  split
  · exact concluded
  · rename_i applicable
    exact marked concluded applicable

/-- An answer has a well-formed result, and its target is indeterminate only with
an error. -/
structure NodeAnswer.WellFormed (answer : NodeAnswer) : Prop where
  result : answer.result.get.WellFormed
  target : answer.target.get.ReportsErrors

namespace NodeAnswer

theorem WellFormed.candidate {answer : NodeAnswer} (formed : answer.WellFormed) :
    answer.candidate.WellFormed where
  result := formed.result
  target := formed.target

theorem underTarget_wellFormed
    {target : Thunk MatchResult}
    {applied : MatchResult → EvaluationResult}
    (reports : target.get.ReportsErrors)
    (formed : ∀ reached : MatchResult, reached.ReportsErrors → (applied reached).WellFormed) :
    (underTarget target applied).WellFormed where
  result := by
    rw [result_underTarget]
    split
    · exact EvaluationResult.wellFormed_notApplicable
    · exact formed _ reports
  target := reports

theorem failed_wellFormed {status : Status} (failure : status.isOk = false) :
    (failed status).WellFormed where
  result := EvaluationResult.wellFormed_withStatus rfl failure
  target := fun reported same => by
    cases same
    exact failure

end NodeAnswer

/-- Every policy has a well-formed answer. -/
theorem Policy.answer_wellFormed (source : AttributeSource) (policy : Policy) :
    (policy.answer source).WellFormed := by
  refine NodeAnswer.underTarget_wellFormed
    (policy.header.target.evaluate_reportsErrors source) fun reached reports => ?_
  refine policy.header.combineUnder_wellFormed reports
    (fun formed applicable => formed.addPolicyIdentifier applicable _)
    fun candidate member => ?_
  obtain ⟨rule, -, rfl⟩ := List.mem_map.mp member
  exact rule.candidate_wellFormed source

/-- The definitions that a scope resolves references to have well-formed
answers. -/
def Scope.WellFormed (scope : Scope) : Prop :=
  ∀ id found, scope.resolve id = some found → found.answer.WellFormed

/-- Every reference has a well-formed answer in a well-formed scope. -/
theorem PolicyReference.answer_wellFormed
    {scope : Scope}
    (formed : scope.WellFormed)
    (reference : PolicyReference) : (reference.answer scope).WellFormed := by
  unfold answer
  split
  · rename_i found resolved
    exact formed reference.id found (Option.filter_eq_some_iff.mp resolved).1
  · exact NodeAnswer.failed_wellFormed rfl

/-- Every node has a well-formed answer in a well-formed scope. -/
theorem PolicyNode.answer_wellFormed
    {scope : Scope}
    (formed : scope.WellFormed)
    (node : PolicyNode) : (node.answer scope).WellFormed := by
  induction node using PolicyNode.inductionOnChildren with
  | policy leaf => exact leaf.answer_wellFormed scope.attributeValues
  | policySet header children inductionHypothesis =>
      refine NodeAnswer.underTarget_wellFormed
        (header.target.evaluate_reportsErrors scope.attributeValues) fun reached reports => ?_
      refine header.combineUnder_wellFormed reports
        (fun formed applicable => formed.addPolicySetIdentifier applicable _)
        fun candidate member => ?_
      rw [candidates_eq_map] at member
      obtain ⟨child, childMember, rfl⟩ := List.mem_map.mp member
      exact (inductionHypothesis child childMember).candidate
  | reference cited => exact cited.answer_wellFormed formed

/-- The scope of any number of levels is well formed when the one beyond them
is. -/
theorem Store.scopeWithin_wellFormed
    (store : Store)
    (source : AttributeSource)
    {beyond : Definition → ResolvedDefinition}
    (beyondFormed : ∀ definition, (beyond definition).answer.WellFormed)
    (depth : Nat) : (store.scopeWithin source beyond depth).WellFormed := by
  induction depth with
  | zero =>
      intro id found resolved
      obtain ⟨definition, -, rfl⟩ := Option.map_eq_some_iff.mp resolved
      exact beyondFormed definition
  | succ depth inductionHypothesis =>
      intro id found resolved
      rw [scopeWithin_resolve] at resolved
      obtain ⟨definition, -, rfl⟩ := Option.map_eq_some_iff.mp resolved
      exact definition.toNode.answer_wellFormed inductionHypothesis

theorem Definition.unevaluated_wellFormed (definition : Definition) :
    definition.unevaluated.answer.WellFormed where
  result := EvaluationResult.wellFormed_notApplicable
  target := fun status indeterminate => by cases indeterminate

/-- The scope of a request over a store is well formed. -/
theorem Store.scope_wellFormed (store : Store) (request : IndividualRequest) :
    (store.scope request).WellFormed :=
  store.scopeWithin_wellFormed request.attributeValues Definition.unevaluated_wellFormed
    store.definitions.length

/-- Over any store and for any request, every rule, policy, policy set, child of
a policy set and reference has a well-formed result. -/
theorem Store.results_wellFormed (store : Store) (request : IndividualRequest) :
    (∀ rule : Rule, (rule.evaluate request.attributeValues).WellFormed) ∧
      (∀ policy : Policy, (policy.answer request.attributeValues).result.get.WellFormed) ∧
      (∀ set : PolicySet, (set.answer (store.scope request)).result.get.WellFormed) ∧
      (∀ child : PolicyNode, (child.answer (store.scope request)).result.get.WellFormed) ∧
      ∀ reference : PolicyReference,
        (reference.answer (store.scope request)).result.get.WellFormed := by
  have scopeFormed := store.scope_wellFormed request
  refine ⟨fun rule => rule.evaluate_wellFormed _, fun policy => ?_, fun set => ?_,
    fun child => ?_, fun reference => ?_⟩
  · exact (policy.answer_wellFormed _).result
  · exact (set.toNode.answer_wellFormed scopeFormed).result
  · exact (child.answer_wellFormed scopeFormed).result
  · exact (reference.answer_wellFormed scopeFormed).result

end PolicyDecision
