import PolicyDecision.Proofs.Policy.Failure
import PolicyDecision.Proofs.Policy.Tree

/-!
# Designated attributes

Policies learn about a request through designators alone. The designators of a
tree are those of its targets, its conditions and its directives at every depth,
and two sources of attributes that agree on them are told apart by nothing in the
tree. References name attributes only through the definitions that they lead to.
-/

namespace PolicyDecision

/-- Two sources have the same values for all that is designated. -/
def AgreeOn (designators : List Designator) (source other : AttributeSource) : Prop :=
  ∀ designator ∈ designators,
    source designator.category designator.attributeId designator.datatype =
      other designator.category designator.attributeId designator.datatype

variable {source other : AttributeSource}

theorem AgreeOn.mono
    {designators fewer : List Designator}
    (agree : AgreeOn designators source other)
    (subset : fewer ⊆ designators) : AgreeOn fewer source other :=
  fun designator member => agree designator (subset member)

theorem agreeOn_append {first second : List Designator} :
    AgreeOn (first ++ second) source other ↔
      AgreeOn first source other ∧ AgreeOn second source other :=
  List.forall_mem_append

theorem agreeOn_flatMap {α : Type} {designators : α → List Designator} {items : List α} :
    AgreeOn (items.flatMap designators) source other ↔
      ∀ item ∈ items, AgreeOn (designators item) source other := by
  simp only [AgreeOn, List.mem_flatMap, forall_exists_index, and_imp]
  exact forall_comm.trans (forall_congr' fun item => forall_comm)

/-! ## Expressions -/

theorem Designator.values_congr
    (designator : Designator)
    (agree : AgreeOn [designator] source other) :
    designator.values source = designator.values other := by
  rw [values, values, agree designator (List.mem_singleton_self designator)]

namespace Expression

mutual

/-- The designators in an expression, in order. -/
def designators : Expression → List Designator
  | .value _ => []
  | .bag _ => []
  | .designator designated => [designated]
  | .apply _ arguments => designatorsOf arguments

/-- The designators in expressions, in order. -/
def designatorsOf : List Expression → List Designator
  | [] => []
  | argument :: rest => designators argument ++ designatorsOf rest

end

theorem designatorsOf_eq_flatMap (arguments : List Expression) :
    designatorsOf arguments = arguments.flatMap designators := by
  induction arguments with
  | nil => rfl
  | cons argument rest inductionHypothesis => simp [designatorsOf, inductionHypothesis]

/-- An expression depends on nothing but what its designators name. -/
theorem evaluate_congr
    (expression : Expression)
    (agree : AgreeOn expression.designators source other) :
    expression.evaluate source = expression.evaluate other := by
  induction expression using Expression.inductionOnArguments with
  | value literal => rfl
  | bag literal => rfl
  | designator designated =>
      rw [evaluate, evaluate, Designator.evaluate, Designator.evaluate,
        designated.values_congr agree]
  | apply functionId arguments inductionHypothesis =>
      rw [designators, designatorsOf_eq_flatMap, agreeOn_flatMap] at agree
      have sameArguments : evaluateAll source arguments = evaluateAll other arguments := by
        rw [evaluateAll_eq_map, evaluateAll_eq_map]
        refine List.map_congr_left fun argument member => ?_
        rw [inductionHypothesis argument member (agree argument member)]
      rw [evaluate, evaluate, sameArguments]

end Expression

/-! ## Targets -/

/-- The designators in a conjunction of matches. -/
def AllOf.designators (conjunction : AllOf) : List Designator :=
  conjunction.matchList.map Match.designator

/-- The designators in a disjunction of conjunctions. -/
def AnyOf.designators (disjunction : AnyOf) : List Designator :=
  disjunction.allOf.flatMap AllOf.designators

/-- The designators in a target. -/
def Target.designators (target : Target) : List Designator :=
  target.anyOf.flatMap AnyOf.designators

theorem Match.evaluate_congr
    (comparison : Match)
    (agree : AgreeOn [comparison.designator] source other) :
    comparison.evaluate source = comparison.evaluate other := by
  rw [evaluate, evaluate, comparison.designator.values_congr agree]

theorem AllOf.evaluate_congr
    (conjunction : AllOf)
    (agree : AgreeOn conjunction.designators source other) :
    conjunction.evaluate source = conjunction.evaluate other := by
  refine congrArg MatchResult.all (List.map_congr_left fun comparison member => ?_)
  refine comparison.evaluate_congr (agree.mono ?_)
  exact List.cons_subset.mpr ⟨List.mem_map_of_mem member, List.nil_subset _⟩

theorem AnyOf.evaluate_congr
    (disjunction : AnyOf)
    (agree : AgreeOn disjunction.designators source other) :
    disjunction.evaluate source = disjunction.evaluate other :=
  congrArg MatchResult.any (List.map_congr_left fun conjunction member =>
    conjunction.evaluate_congr (agreeOn_flatMap.mp agree conjunction member))

/-- A target depends on nothing but what its designators name. -/
theorem Target.evaluate_congr
    (target : Target)
    (agree : AgreeOn target.designators source other) :
    target.evaluate source = target.evaluate other :=
  congrArg MatchResult.all (List.map_congr_left fun disjunction member =>
    disjunction.evaluate_congr (agreeOn_flatMap.mp agree disjunction member))

/-! ## Directives -/

/-- The designators in assignments. -/
def AssignmentExpression.designatorsOf (assignments : List AssignmentExpression) :
    List Designator :=
  assignments.flatMap fun assignment => assignment.expression.designators

/-- The designators in the obligations and in the advice of directives. -/
def Directives.designators (directives : Directives) : List Designator :=
  (directives.obligations.flatMap fun obligation =>
      AssignmentExpression.designatorsOf obligation.assignments) ++
    directives.advice.flatMap fun advice => AssignmentExpression.designatorsOf advice.assignments

theorem AssignmentExpression.evaluateAll_congr
    {assignments : List AssignmentExpression}
    (agree : AgreeOn (designatorsOf assignments) source other) :
    evaluateAll source assignments = evaluateAll other assignments := by
  induction assignments with
  | nil => rfl
  | cons assignment rest inductionHypothesis =>
      obtain ⟨first, others⟩ := agreeOn_append.mp agree
      rw [evaluateAll, evaluateAll, evaluate, evaluate,
        assignment.expression.evaluate_congr first, inductionHypothesis others]

theorem fulfilObligations_congr
    {expressions : List ObligationExpression}
    (agree : AgreeOn
      (expressions.flatMap fun expression =>
        AssignmentExpression.designatorsOf expression.assignments) source other)
    (decision : Decision) :
    fulfilObligations source decision expressions =
      fulfilObligations other decision expressions := by
  induction expressions with
  | nil => rfl
  | cons expression rest inductionHypothesis =>
      obtain ⟨first, others⟩ := agreeOn_append.mp agree
      rw [fulfilObligations, fulfilObligations, AssignmentExpression.evaluateAll_congr first,
        inductionHypothesis others]

theorem fulfilAdvice_congr
    {expressions : List AdviceExpression}
    (agree : AgreeOn
      (expressions.flatMap fun expression =>
        AssignmentExpression.designatorsOf expression.assignments) source other)
    (decision : Decision) :
    fulfilAdvice source decision expressions = fulfilAdvice other decision expressions := by
  induction expressions with
  | nil => rfl
  | cons expression rest inductionHypothesis =>
      obtain ⟨first, others⟩ := agreeOn_append.mp agree
      rw [fulfilAdvice, fulfilAdvice, AssignmentExpression.evaluateAll_congr first,
        inductionHypothesis others]

/-- Directives are attached alike when what their designators name is alike. -/
theorem Directives.attach_congr
    (directives : Directives)
    (agree : AgreeOn directives.designators source other)
    (result : EvaluationResult) :
    directives.attach source result = directives.attach other result := by
  obtain ⟨obligations, advice⟩ := agreeOn_append.mp agree
  rw [attach, attach, fulfil, fulfil, fulfilObligations_congr obligations,
    fulfilAdvice_congr advice]

/-! ## Rules -/

namespace Rule

/-- The designators in the target, the condition and the directives of a rule. -/
def designators (rule : Rule) : List Designator :=
  rule.target.designators ++ rule.condition.elim [] Expression.designators ++
    rule.directives.designators

/-- The target and the result of a rule depend on nothing but what its designators
name. -/
theorem evaluate_congr
    (rule : Rule)
    (agree : AgreeOn rule.designators source other) :
    rule.target.evaluate source = rule.target.evaluate other ∧
      rule.evaluate source = rule.evaluate other := by
  obtain ⟨tested, directed⟩ := agreeOn_append.mp agree
  obtain ⟨targeted, conditioned⟩ := agreeOn_append.mp tested
  have sameTarget := rule.target.evaluate_congr targeted
  have sameTruth : rule.conditionTruth source = rule.conditionTruth other := by
    rw [conditionTruth, conditionTruth]
    cases present : rule.condition with
    | none => rfl
    | some condition =>
        rw [present] at conditioned
        exact congrArg Outcome.truth (condition.evaluate_congr conditioned)
  have sameApplied : rule.applied source = rule.applied other :=
    rule.directives.attach_congr directed _
  refine ⟨sameTarget, ?_⟩
  rw [evaluate, evaluate, sameTarget, sameTruth, sameApplied]

theorem candidate_congr
    (rule : Rule)
    (agree : AgreeOn rule.designators source other) :
    rule.candidate source = rule.candidate other := by
  obtain ⟨sameTarget, sameResult⟩ := rule.evaluate_congr agree
  rw [candidate, candidate, sameTarget, sameResult]

end Rule

/-! ## Policies -/

namespace PolicyHeader

/-- The designators in the target and the directives of a header. -/
def designators (header : PolicyHeader) : List Designator :=
  header.target.designators ++ header.directives.designators

theorem conclude_congr
    (header : PolicyHeader)
    (agree : AgreeOn header.directives.designators source other)
    (target : MatchResult)
    (combined : EvaluationResult) :
    header.conclude source target combined = header.conclude other target combined := by
  cases target with
  | indeterminate status => rfl
  | matched => exact header.directives.attach_congr agree combined
  | unmatched => exact header.directives.attach_congr agree combined

/-- A header gives candidates one answer when what its designators name is alike. -/
theorem underTarget_congr
    (header : PolicyHeader)
    (agree : AgreeOn header.designators source other)
    (mark : EvaluationResult → EvaluationResult)
    (candidates : List Candidate) :
    (NodeAnswer.underTarget (Thunk.mk fun _ => header.target.evaluate source) fun target =>
        header.combineUnder source target mark candidates) =
      .underTarget (Thunk.mk fun _ => header.target.evaluate other) fun target =>
        header.combineUnder other target mark candidates := by
  obtain ⟨targeted, directed⟩ := agreeOn_append.mp agree
  have sameCombined (target : MatchResult) :
      header.combineUnder source target mark candidates =
        header.combineUnder other target mark candidates := by
    rw [combineUnder, combineUnder, header.conclude_congr directed]
  rw [header.target.evaluate_congr targeted]
  exact congrArg _ (funext sameCombined)

end PolicyHeader

namespace Policy

/-- The designators in the header and the rules of a policy. -/
def designators (policy : Policy) : List Designator :=
  policy.header.designators ++ policy.rules.flatMap Rule.designators

theorem answer_congr
    (policy : Policy)
    (agree : AgreeOn policy.designators source other) :
    policy.answer source = policy.answer other := by
  obtain ⟨headed, ruled⟩ := agreeOn_append.mp agree
  have sameCandidates :
      policy.rules.map (Rule.candidate source) = policy.rules.map (Rule.candidate other) :=
    List.map_congr_left fun rule member =>
      rule.candidate_congr (agreeOn_flatMap.mp ruled rule member)
  rw [answer, answer, sameCandidates]
  exact policy.header.underTarget_congr headed _ _

end Policy

/-! ## Policy trees -/

namespace PolicyNode

mutual

/-- The designators in a tree at every depth, in order. -/
def designators : PolicyNode → List Designator
  | .policy leaf => leaf.designators
  | .policySet header children => header.designators ++ designatorsOf children
  | .reference _ => []

/-- The designators in several trees, in order. -/
def designatorsOf : List PolicyNode → List Designator
  | [] => []
  | node :: rest => designators node ++ designatorsOf rest

end

theorem designatorsOf_eq_flatMap (children : List PolicyNode) :
    designatorsOf children = children.flatMap designators := by
  induction children with
  | nil => rfl
  | cons node rest inductionHypothesis => simp [designatorsOf, inductionHypothesis]

/-- Scopes that resolve references alike give a tree one answer when what its
designators name is alike. -/
theorem answer_eq_of_agree
    {scope similar : Scope}
    (sameReferences : scope.resolve = similar.resolve)
    (node : PolicyNode)
    (agree : AgreeOn node.designators scope.attributeValues similar.attributeValues) :
    node.answer scope = node.answer similar := by
  induction node using PolicyNode.inductionOnChildren with
  | policy leaf =>
      rw [answer, answer]
      exact leaf.answer_congr agree
  | policySet header children inductionHypothesis =>
      obtain ⟨headed, nested⟩ := agreeOn_append.mp agree
      rw [designatorsOf_eq_flatMap, agreeOn_flatMap] at nested
      have sameCandidates : candidates scope children = candidates similar children := by
        rw [candidates_eq_map, candidates_eq_map]
        refine List.map_congr_left fun child member => ?_
        rw [inductionHypothesis child member (nested child member)]
      rw [answer, answer, sameCandidates]
      exact header.underTarget_congr headed _ _
  | reference cited =>
      rw [answer, answer, PolicyReference.answer, PolicyReference.answer, sameReferences]

end PolicyNode

namespace Definition

/-- The designators in a definition. -/
def designators (definition : Definition) : List Designator :=
  definition.toNode.designators

theorem targetMatch_congr
    (definition : Definition)
    (agree : AgreeOn definition.designators source other) :
    definition.targetMatch source = definition.targetMatch other := by
  have headed : AgreeOn definition.header.designators source other := by
    cases definition <;> exact (agreeOn_append.mp agree).1
  exact definition.header.target.evaluate_congr (agreeOn_append.mp headed).1

end Definition

end PolicyDecision
