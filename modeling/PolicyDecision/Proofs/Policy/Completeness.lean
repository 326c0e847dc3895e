import PolicyDecision.Proofs.Policy.FirstFailure
import PolicyDecision.Proofs.Policy.Tree
import PolicyDecision.Proofs.Policy.WellFormed
import PolicyDecision.Proofs.Union

/-!
# Completeness of definite results

A rule, a policy and a policy set are evaluated in the same stages: the target, the
condition of a rule, the combination of the children, and the directives. A result is
definite only when every stage succeeds, and then it carries the directives of the
children and all those of the node. Otherwise the first stage that fails leaves only the
decision within reach that the node would have had, and its status is the one of the
result.
-/

namespace PolicyDecision

theorem Effect.exists_of_isDefinite
    {decision : Decision} (definite : decision.isDefinite = true) :
    ∃ effect : Effect, decision = effect.decision := by
  rcases Decision.permit_or_deny_of_isDefinite definite with rfl | rfl
  · exact ⟨.permit, rfl⟩
  · exact ⟨.deny, rfl⟩

theorem Effect.notApplicable_ne (effect : Effect) : .notApplicable ≠ effect.decision := by
  cases effect <;> decide

theorem Effect.asIndeterminate_ne (effect other : Effect) :
    effect.decision.asIndeterminate ≠ other.decision := by
  cases effect <;> cases other <;> decide

variable {source : AttributeSource} {combined : EvaluationResult} {effect : Effect}

/-! ## Directives and targets that fail -/

theorem Directives.attach_eq
    {directives : Directives}
    (decided : combined.decision = effect.decision) :
    directives.attach source combined =
      match directives.firstFailure? effect source with
      | none =>
          (combined.addObligations (directives.ownObligations effect source)).addAdvice
            (directives.ownAdvice effect source)
      | some status => .withStatus effect.decision.asIndeterminate status := by
  rw [attach, decided, if_pos effect.decision_isDefinite, fulfil_eq]
  cases directives.firstFailure? effect source <;> rfl

/-- Directives leave a definite decision only when none of their assignments fails. -/
theorem Directives.decision_attach_iff {directives : Directives} :
    (directives.attach source combined).decision = effect.decision ↔
      combined.decision = effect.decision ∧ directives.firstFailure? effect source = none := by
  by_cases definite : combined.decision.isDefinite = true
  · obtain ⟨reached, decided⟩ := Effect.exists_of_isDefinite definite
    rw [attach_eq decided]
    split
    · rename_i succeeds
      change combined.decision = effect.decision ↔ _
      refine ⟨fun same => ⟨same, ?_⟩, And.left⟩
      rwa [← Effect.decision_inj.mp (decided.symm.trans same)]
    · rename_i status fails
      refine iff_of_false (reached.asIndeterminate_ne effect) fun ⟨same, succeeds⟩ => ?_
      rw [← Effect.decision_inj.mp (decided.symm.trans same), fails] at succeeds
      cases succeeds
  · have undecided : combined.decision ≠ effect.decision := fun decided =>
      definite (decided ▸ effect.decision_isDefinite)
    rw [attach, if_neg definite]
    exact iff_of_false undecided (mt And.left undecided)

namespace EvaluationResult

theorem weaken_eq
    (decided : combined.decision = effect.decision)
    (status : Status) :
    combined.weaken status = .withStatus effect.decision.asIndeterminate status := by
  rw [weaken, decided, if_pos effect.decision_isDefinite]

/-- No definite decision is left under an indeterminate target. -/
theorem decision_weaken_ne (combined : EvaluationResult) (status : Status) (effect : Effect) :
    (combined.weaken status).decision ≠ effect.decision := by
  by_cases definite : combined.decision.isDefinite = true
  · obtain ⟨reached, decided⟩ := Effect.exists_of_isDefinite definite
    rw [weaken_eq decided]
    exact reached.asIndeterminate_ne effect
  · rw [weaken, if_neg definite]
    exact fun decided => definite (decided ▸ effect.decision_isDefinite)

end EvaluationResult

/-! ## Stages -/

/-- The stages in which a node is evaluated: whether its target applies, whether its
condition holds, what its children combine to, and its directives. A mark is put on
the result unless it is not applicable. -/
structure EvaluationStages where
  target : MatchResult
  condition : Except Status Bool
  combined : EvaluationResult
  directives : Directives
  mark : EvaluationResult → EvaluationResult

/-- The stages of a rule. It has no children, and starts out from its effect. -/
def Rule.stages (source : AttributeSource) (rule : Rule) : EvaluationStages where
  target := rule.target.evaluate source
  condition := rule.conditionTruth source
  combined := .ofDecision rule.effect.decision
  directives := rule.directives
  mark := fun result => result

/-- The stages of a policy or a policy set with its children. -/
def PolicyHeader.stages
    (source : AttributeSource)
    (header : PolicyHeader)
    (mark : EvaluationResult → EvaluationResult)
    (candidates : List Candidate) : EvaluationStages where
  target := header.target.evaluate source
  condition := .ok true
  combined := (header.algorithm.combine candidates).result
  directives := header.directives
  mark := mark

/-- The stages of a policy, whose children are rules. -/
def Policy.stages (source : AttributeSource) (policy : Policy) : EvaluationStages :=
  policy.header.stages source
    (fun result => result.addPolicyIdentifier policy.header.identifier)
    (policy.rules.map (Rule.candidate source))

/-- The stages of a policy set with its children. -/
def PolicyNode.setStages
    (scope : Scope)
    (header : PolicyHeader)
    (children : List PolicyNode) : EvaluationStages :=
  header.stages scope.attributeValues
    (fun result => result.addPolicySetIdentifier header.identifier)
    (PolicyNode.candidates scope children)

namespace EvaluationStages

/-- All stages succeed for an effect: the target matches, the condition holds, the children
combine to the effect, and no assignment stated for it fails. -/
structure Succeed (stages : EvaluationStages) (source : AttributeSource) (effect : Effect) :
    Prop where
  target : stages.target = .matched
  condition : stages.condition = .ok true
  combined : stages.combined.decision = effect.decision
  assignments : ∀ assignment ∈ stages.directives.statedAssignments effect,
    assignment.failure? source = none

/-- The first of the stages that fails for an effect, with its status. -/
inductive FailFirst
    (stages : EvaluationStages)
    (source : AttributeSource)
    (effect : Effect)
    (status : Status) : Prop
  | target (indeterminate : stages.target = .indeterminate status)
  | condition
      (matched : stages.target = .matched)
      (errs : stages.condition = .error status)
  | assignment
      (matched : stages.target = .matched)
      (holds : stages.condition = .ok true)
      (fails : stages.directives.firstFailure? effect source = some status)

/-- The result of a node is definite exactly when all stages succeed. It then carries the
directives of the combined children, followed by those of the node that are new. Where
the children combine to an effect, the first failure for it is the whole result. -/
structure Conclude
    (stages : EvaluationStages)
    (source : AttributeSource)
    (result : EvaluationResult) : Prop where
  definite_iff : ∀ effect : Effect,
    result.decision = effect.decision ↔ stages.Succeed source effect
  obligations : ∀ effect : Effect, result.decision = effect.decision →
    result.obligations =
      stages.combined.obligations ++
        ((stages.directives.ownObligations effect source).filter fun obligation =>
          !stages.combined.obligations.contains obligation).eraseDups
  advice : ∀ effect : Effect, result.decision = effect.decision →
    result.advice =
      stages.combined.advice ++
        ((stages.directives.ownAdvice effect source).filter fun advice =>
          !stages.combined.advice.contains advice).eraseDups
  failure : ∀ (effect : Effect) (status : Status), stages.combined.decision = effect.decision →
    stages.FailFirst source effect status →
      result = stages.mark (.withStatus effect.decision.asIndeterminate status)

/-- The result that the stages lead to. -/
def result (stages : EvaluationStages) (source : AttributeSource) : EvaluationResult :=
  match stages.target with
  | .unmatched => .notApplicable
  | .indeterminate status =>
      PolicyHeader.markApplicable stages.mark (stages.combined.weaken status)
  | .matched =>
      match stages.condition with
      | .ok true =>
          PolicyHeader.markApplicable stages.mark (stages.directives.attach source stages.combined)
      | .ok false => .notApplicable
      | .error status => PolicyHeader.markApplicable stages.mark (stages.combined.weaken status)

/-- The mark changes neither the decision nor the directives. -/
structure MarksOnly (stages : EvaluationStages) : Prop where
  decision : ∀ result, (stages.mark result).decision = result.decision
  obligations : ∀ result, (stages.mark result).obligations = result.obligations
  advice : ∀ result, (stages.mark result).advice = result.advice

variable {stages : EvaluationStages}

theorem MarksOnly.decision_markApplicable
    (marks : stages.MarksOnly)
    (result : EvaluationResult) :
    (PolicyHeader.markApplicable stages.mark result).decision = result.decision := by
  unfold PolicyHeader.markApplicable
  split
  · rfl
  · exact marks.decision result

theorem succeed_iff :
    stages.Succeed source effect ↔
      stages.target = .matched ∧ stages.condition = .ok true ∧
        stages.combined.decision = effect.decision ∧
          stages.directives.firstFailure? effect source = none := by
  rw [Directives.firstFailure?, AssignmentExpression.firstFailure?_eq_none_iff]
  constructor
  · intro succeed
    exact ⟨succeed.target, succeed.condition, succeed.combined, succeed.assignments⟩
  · rintro ⟨matched, holds, decided, succeeds⟩
    exact ⟨matched, holds, decided, succeeds⟩

theorem MarksOnly.decision_result_iff (marks : stages.MarksOnly) :
    (stages.result source).decision = effect.decision ↔ stages.Succeed source effect := by
  rw [succeed_iff, result]
  cases stages.target with
  | unmatched => exact iff_of_false effect.notApplicable_ne (by simp)
  | indeterminate status =>
      rw [marks.decision_markApplicable]
      exact iff_of_false (stages.combined.decision_weaken_ne status effect) (by simp)
  | matched =>
      match stages.condition with
      | .error status =>
          rw [marks.decision_markApplicable]
          exact iff_of_false (stages.combined.decision_weaken_ne status effect) (by simp)
      | .ok false => exact iff_of_false effect.notApplicable_ne (by simp)
      | .ok true =>
          rw [marks.decision_markApplicable, Directives.decision_attach_iff]
          simp

/-- The result of stages that succeed. -/
theorem Succeed.result_eq (succeed : stages.Succeed source effect) :
    stages.result source =
      stages.mark ((stages.combined.addObligations
        (stages.directives.ownObligations effect source)).addAdvice
          (stages.directives.ownAdvice effect source)) := by
  obtain ⟨matched, holds, decided, succeeds⟩ := succeed_iff.mp succeed
  rw [result, matched, holds]
  simp only [Directives.attach_eq decided, succeeds]
  refine if_neg ?_
  change stages.combined.decision ≠ _
  rw [decided]
  exact effect.notApplicable_ne.symm

/-- The result of stages of which one fails. -/
theorem FailFirst.result_eq
    {status : Status}
    (fails : stages.FailFirst source effect status)
    (decided : stages.combined.decision = effect.decision) :
    stages.result source = stages.mark (.withStatus effect.decision.asIndeterminate status) := by
  have marked : PolicyHeader.markApplicable stages.mark
      (.withStatus effect.decision.asIndeterminate status) = stages.mark _ :=
    if_neg (Decision.asIndeterminate_ne_notApplicable effect.decision_isDefinite)
  rw [← marked, result]
  cases fails with
  | target indeterminate =>
      rw [indeterminate, ← EvaluationResult.weaken_eq decided]
  | condition matched errs =>
      rw [matched, errs, ← EvaluationResult.weaken_eq decided]
  | assignment matched holds fails =>
      rw [matched, holds]
      simp only [Directives.attach_eq decided, fails]

theorem MarksOnly.conclude_result (marks : stages.MarksOnly) :
    stages.Conclude source (stages.result source) where
  definite_iff := fun _ => marks.decision_result_iff
  obligations := fun effect definite => by
    rw [(marks.decision_result_iff.mp definite).result_eq, marks.obligations,
      ← unionWith_eq_append_eraseDups]
    rfl
  advice := fun effect definite => by
    rw [(marks.decision_result_iff.mp definite).result_eq, marks.advice,
      ← unionWith_eq_append_eraseDups]
    rfl
  failure := fun _ _ decided fails => fails.result_eq decided

end EvaluationStages

/-! ## Nodes -/

theorem Rule.evaluate_eq_result (source : AttributeSource) (rule : Rule) :
    rule.evaluate source = (rule.stages source).result source := by
  have applicable (result : EvaluationResult) :
      PolicyHeader.markApplicable (fun result => result) result = result := ite_self _
  have weakened (status : Status) :
      EvaluationResult.weaken (.ofDecision rule.effect.decision) status =
        .withStatus rule.failure status := EvaluationResult.weaken_eq rfl status
  rw [evaluate, EvaluationStages.result]
  simp only [stages, applicable, weakened]
  rfl

theorem PolicyHeader.underTarget_eq_result
    (source : AttributeSource)
    (header : PolicyHeader)
    (mark : EvaluationResult → EvaluationResult)
    (candidates : List Candidate) :
    (NodeAnswer.underTarget (Thunk.mk fun _ => header.target.evaluate source) fun target =>
        header.combineUnder source target mark candidates).result.get =
      (header.stages source mark candidates).result source := by
  rw [NodeAnswer.result_underTarget, EvaluationStages.result]
  simp only [stages, Thunk.get]
  cases header.target.evaluate source <;> rfl

theorem Rule.stages_marksOnly (source : AttributeSource) (rule : Rule) :
    (rule.stages source).MarksOnly :=
  ⟨fun _ => rfl, fun _ => rfl, fun _ => rfl⟩

theorem Policy.stages_marksOnly (source : AttributeSource) (policy : Policy) :
    (policy.stages source).MarksOnly :=
  ⟨fun _ => rfl, fun _ => rfl, fun _ => rfl⟩

theorem PolicyNode.setStages_marksOnly
    (scope : Scope)
    (header : PolicyHeader)
    (children : List PolicyNode) : (setStages scope header children).MarksOnly :=
  ⟨fun _ => rfl, fun _ => rfl, fun _ => rfl⟩

/-- In every scope the results of rules, policies and policy sets are definite only when they
are complete, and report what fails first. -/
theorem Scope.results_conclude (scope : Scope) :
    (∀ rule : Rule,
        (rule.stages scope.attributeValues).Conclude scope.attributeValues
          (rule.evaluate scope.attributeValues)) ∧
      (∀ policy : Policy,
        (policy.stages scope.attributeValues).Conclude scope.attributeValues
          (policy.answer scope.attributeValues).result.get) ∧
      ∀ (header : PolicyHeader) (children : List PolicyNode),
        (PolicyNode.setStages scope header children).Conclude scope.attributeValues
          ((PolicyNode.policySet header children).answer scope).result.get := by
  refine ⟨fun rule => ?_, fun policy => ?_, fun header children => ?_⟩
  · rw [rule.evaluate_eq_result]
    exact (rule.stages_marksOnly _).conclude_result
  · rw [Policy.answer, PolicyHeader.underTarget_eq_result]
    exact (policy.stages_marksOnly _).conclude_result
  · rw [PolicyNode.answer, PolicyHeader.underTarget_eq_result]
    exact (PolicyNode.setStages_marksOnly scope header children).conclude_result

/-- A policy adds what its rule has not obliged to already, and does not permit where one of
its own obligations needs an attribute that is absent. -/
theorem Scope.results_conclude_of_repeated_obligation :
    let scope : Scope := ⟨fun _ _ _ => [], fun _ => none⟩
    let source := scope.attributeValues
    let clerk : Designator := (Designator.optional "subject" "clerk" .string).required
    let log : ObligationExpression := ⟨"log", .permit, [⟨"by", none, .value (.string "desk")⟩]⟩
    let note : ObligationExpression := ⟨"note", .permit, []⟩
    let name : ObligationExpression := ⟨"name", .permit, [⟨"by", none, .designator clerk⟩]⟩
    let permitting : Rule := { Rule.ofEffect "open" .permit with directives := ⟨[log], []⟩ }
    let header := PolicyHeader.ofAlgorithm "doors" .firstApplicable
    let noting : Policy := ⟨{ header with directives := ⟨[log, note], []⟩ }, [permitting]⟩
    let naming : Policy := ⟨{ header with directives := ⟨[note, name], []⟩ }, [permitting]⟩
    (noting.answer source).result.get.decision = .permit ∧
      (noting.answer source).result.get.obligations =
        [⟨"log", [⟨"by", none, .string "desk"⟩]⟩, ⟨"note", []⟩] ∧
      (naming.answer source).result.get =
        (EvaluationResult.withStatus .indeterminatePermit clerk.absentStatus).addPolicyIdentifier
          ⟨"doors", none⟩ := by
  intro scope source clerk log note name permitting header noting naming
  have noted := scope.results_conclude.2.1 noting
  have named := scope.results_conclude.2.1 naming
  have permits : (noting.answer source).result.get.decision = .permit := by cbv
  have held := noted.obligations .permit permits
  refine ⟨permits, held.trans (by cbv), ?_⟩
  exact named.failure .permit clerk.absentStatus (by cbv) (.assignment (by cbv) rfl (by cbv))

end PolicyDecision
