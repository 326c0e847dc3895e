import PolicyDecision.Policy.Rule
import PolicyDecision.Proofs.Function.Outcome

/-!
# Failures within policies

An expression, a target or a directive that cannot be evaluated reports a status
that is an error. No failure within a policy carries the status of a success.
-/

namespace PolicyDecision

/-- Induction on expressions, with a hypothesis for each argument of a function. -/
@[elab_as_elim]
theorem Expression.inductionOnArguments
    {motive : Expression → Prop}
    (value : ∀ literal, motive (.value literal))
    (bag : ∀ literal, motive (.bag literal))
    (designator : ∀ designated, motive (.designator designated))
    (apply : ∀ functionId arguments, (∀ argument ∈ arguments, motive argument) →
      motive (.apply functionId arguments)) :
    ∀ expression, motive expression
  | .value literal => value literal
  | .bag literal => bag literal
  | .designator designated => designator designated
  | .apply functionId arguments =>
      apply functionId arguments fun argument member =>
        have _smaller := List.sizeOf_lt_of_mem member
        inductionOnArguments value bag designator apply argument

/-- A computation that fails reports a status that is an error. -/
def ReportsErrors {α : Type} (computed : Except Status α) : Prop :=
  ∀ status, computed = .error status → status.isOk = false

namespace ReportsErrors

variable {α β : Type}

theorem ok (value : α) : ReportsErrors (.ok value) := by
  intro status failed
  cases failed

/-- Two stages report errors when both of them do. -/
theorem bind
    {computed : Except Status α}
    {next : α → Except Status β}
    (first : ReportsErrors computed)
    (second : ∀ value, ReportsErrors (next value)) :
    ReportsErrors (computed >>= next) := by
  cases computed with
  | error reported =>
      intro status failed
      cases failed
      exact first reported rfl
  | ok value => exact second value

end ReportsErrors

theorem Status.isOk_eq_false_of_code
    {status : Status} (processing : status.code = .processingError) :
    status.isOk = false := by
  simp [isOk, processing]

/-- The values of a designated attribute are missing only with an error. -/
theorem Designator.values_reportsErrors (designator : Designator) (source : AttributeSource) :
    ReportsErrors (designator.values source) := by
  intro status failed
  unfold values at failed
  split at failed
  · split at failed
    · cases failed
      rfl
    · cases failed
  · cases failed

namespace Expression

/-- An expression fails only with an error. -/
theorem isOk_of_evaluate_failed
    {source : AttributeSource}
    (expression : Expression) :
    ∀ {status}, expression.evaluate source = .failed status → status.isOk = false := by
  induction expression using Expression.inductionOnArguments with
  | value literal =>
      intro status failed
      simp [evaluate] at failed
  | bag literal =>
      intro status failed
      simp [evaluate] at failed
  | designator designated =>
      intro status failed
      simp only [evaluate, Designator.evaluate] at failed
      split at failed
      · cases failed
      · rename_i reported absent
        cases failed
        exact designated.values_reportsErrors source status absent
  | apply functionId arguments inductionHypothesis =>
      intro status failed
      simp only [evaluate] at failed
      split at failed
      · cases failed
        rfl
      · obtain ⟨reported, rfl, own | passed⟩ := Function.status_of_apply_failed failed
        · exact Status.isOk_eq_false_of_code own
        · rw [evaluateAll_eq_map] at passed
          obtain ⟨argument, member, reports⟩ := List.mem_map.mp passed
          rw [Status.isOk_prefixed]
          apply inductionHypothesis argument member
          cases evaluated : argument.evaluate source <;>
            simp_all [Argument.ofOutcome]

end Expression

/-- The truth value of an outcome is missing only with an error when the outcome
itself fails only with an error. -/
theorem Outcome.truth_reportsErrors
    {outcome : Outcome}
    (failures : ∀ {status}, outcome = .failed status → status.isOk = false) :
    ReportsErrors outcome.truth := by
  intro status failed
  unfold truth at failed
  split at failed
  · cases failed
  · cases failed
    exact failures rfl
  · cases failed
    rfl
  · cases failed
    rfl

theorem Expression.truth_reportsErrors (source : AttributeSource) (expression : Expression) :
    ReportsErrors (expression.truth source) :=
  Outcome.truth_reportsErrors expression.isOk_of_evaluate_failed

/-! ## Targets -/

namespace MatchResult

/-- An indeterminate match carries a status that is an error. -/
def ReportsErrors (result : MatchResult) : Prop :=
  ∀ status, result = .indeterminate status → status.isOk = false

theorem ofTruth_reportsErrors
    {truth : Except Status Bool}
    (reports : PolicyDecision.ReportsErrors truth) :
    (ofTruth truth).ReportsErrors := by
  intro status failed
  unfold ofTruth at failed
  split at failed
  · cases failed
  · cases failed
  · cases failed
    exact reports status rfl

/-- The status of an indeterminate conjunction is the failure known before or
that of a member. -/
theorem indeterminate_of_allAfter
    {failure : Option Status}
    {results : List MatchResult}
    {status : Status}
    (failed : allAfter failure results = .indeterminate status) :
    failure = some status ∨ .indeterminate status ∈ results := by
  fun_induction allAfter failure results with
  | case1 => cases failed
  | case2 known =>
      cases failed
      exact .inl rfl
  | case3 => cases failed
  | case4 failure rest inductionHypothesis =>
      exact (inductionHypothesis failed).imp id (List.mem_cons_of_mem _)
  | case5 failure reported rest inductionHypothesis =>
      rcases inductionHypothesis failed with known | member
      · cases failure with
        | none =>
            cases known
            exact .inr List.mem_cons_self
        | some earlier => exact .inl known
      · exact .inr (List.mem_cons_of_mem _ member)

/-- The status of an indeterminate disjunction is the failure known before or
that of a member. -/
theorem indeterminate_of_anyAfter
    {failure : Option Status}
    {results : List MatchResult}
    {status : Status}
    (failed : anyAfter failure results = .indeterminate status) :
    failure = some status ∨ .indeterminate status ∈ results := by
  fun_induction anyAfter failure results with
  | case1 => cases failed
  | case2 known =>
      cases failed
      exact .inl rfl
  | case3 => cases failed
  | case4 failure rest inductionHypothesis =>
      exact (inductionHypothesis failed).imp id (List.mem_cons_of_mem _)
  | case5 failure reported rest inductionHypothesis =>
      rcases inductionHypothesis failed with known | member
      · cases failure with
        | none =>
            cases known
            exact .inr List.mem_cons_self
        | some earlier => exact .inl known
      · exact .inr (List.mem_cons_of_mem _ member)

theorem all_reportsErrors
    {results : List MatchResult}
    (reports : ∀ result ∈ results, result.ReportsErrors) :
    (all results).ReportsErrors := by
  intro status failed
  rcases indeterminate_of_allAfter failed with known | member
  · cases known
  · exact reports _ member status rfl

theorem any_reportsErrors
    {results : List MatchResult}
    (reports : ∀ result ∈ results, result.ReportsErrors) :
    (any results).ReportsErrors := by
  intro status failed
  rcases indeterminate_of_anyAfter failed with known | member
  · cases known
  · exact reports _ member status rfl

end MatchResult

/-- The comparison of two plain values is indeterminate only with an error. -/
theorem Match.compareWith_reportsErrors
    (comparison : Match)
    (function : Function)
    (value : Value) :
    (comparison.compareWith function value).ReportsErrors := by
  refine MatchResult.ofTruth_reportsErrors (Outcome.truth_reportsErrors fun failed => ?_)
  obtain ⟨reported, rfl, own | passed⟩ := Function.status_of_apply_failed failed
  · exact Status.isOk_eq_false_of_code own
  · simp at passed

theorem Match.evaluate_reportsErrors (source : AttributeSource) (comparison : Match) :
    (comparison.evaluate source).ReportsErrors := by
  unfold evaluate
  split
  · intro status failed
    cases failed
    rfl
  · split
    · rename_i reported absent
      intro status failed
      cases failed
      exact comparison.designator.values_reportsErrors source reported absent
    · refine MatchResult.any_reportsErrors fun result member => ?_
      obtain ⟨value, -, rfl⟩ := List.mem_map.mp member
      exact comparison.compareWith_reportsErrors _ value

theorem AllOf.evaluate_reportsErrors (source : AttributeSource) (conjunction : AllOf) :
    (conjunction.evaluate source).ReportsErrors := by
  refine MatchResult.all_reportsErrors fun result member => ?_
  obtain ⟨comparison, -, rfl⟩ := List.mem_map.mp member
  exact comparison.evaluate_reportsErrors source

theorem AnyOf.evaluate_reportsErrors (source : AttributeSource) (disjunction : AnyOf) :
    (disjunction.evaluate source).ReportsErrors := by
  refine MatchResult.any_reportsErrors fun result member => ?_
  obtain ⟨conjunction, -, rfl⟩ := List.mem_map.mp member
  exact conjunction.evaluate_reportsErrors source

/-- A target is indeterminate only with an error. -/
theorem Target.evaluate_reportsErrors (source : AttributeSource) (target : Target) :
    (target.evaluate source).ReportsErrors := by
  refine MatchResult.all_reportsErrors fun result member => ?_
  obtain ⟨disjunction, -, rfl⟩ := List.mem_map.mp member
  exact disjunction.evaluate_reportsErrors source

/-! ## Directives and conditions -/

namespace AssignmentExpression

theorem evaluate_reportsErrors (source : AttributeSource) (assignment : AssignmentExpression) :
    ReportsErrors (assignment.evaluate source) := by
  intro status failed
  simp only [evaluate] at failed
  split at failed
  · cases failed
  · cases failed
  · rename_i reported evaluated
    cases failed
    exact assignment.expression.isOk_of_evaluate_failed evaluated

theorem evaluateAll_reportsErrors
    (source : AttributeSource)
    (assignments : List AssignmentExpression) :
    ReportsErrors (evaluateAll source assignments) := by
  induction assignments with
  | nil => exact .ok []
  | cons assignment rest inductionHypothesis =>
      exact (assignment.evaluate_reportsErrors source).bind fun _ =>
        inductionHypothesis.bind fun _ => .ok _

end AssignmentExpression

theorem fulfilObligations_reportsErrors
    (source : AttributeSource)
    (decision : Decision)
    (expressions : List ObligationExpression) :
    ReportsErrors (fulfilObligations source decision expressions) := by
  induction expressions with
  | nil => exact .ok []
  | cons expression rest inductionHypothesis =>
      unfold fulfilObligations
      split
      · exact (AssignmentExpression.evaluateAll_reportsErrors source _).bind fun _ =>
          inductionHypothesis.bind fun _ => .ok _
      · exact inductionHypothesis

theorem fulfilAdvice_reportsErrors
    (source : AttributeSource)
    (decision : Decision)
    (expressions : List AdviceExpression) :
    ReportsErrors (fulfilAdvice source decision expressions) := by
  induction expressions with
  | nil => exact .ok []
  | cons expression rest inductionHypothesis =>
      unfold fulfilAdvice
      split
      · exact (AssignmentExpression.evaluateAll_reportsErrors source _).bind fun _ =>
          inductionHypothesis.bind fun _ => .ok _
      · exact inductionHypothesis

/-- Directives are left unfulfilled only with an error. -/
theorem Directives.fulfil_reportsErrors
    (directives : Directives)
    (source : AttributeSource)
    (decision : Decision) :
    ReportsErrors (directives.fulfil source decision) :=
  (fulfilObligations_reportsErrors source decision _).bind fun _ =>
    (fulfilAdvice_reportsErrors source decision _).bind fun _ => .ok _

/-- A condition is left undecided only with an error. -/
theorem Rule.conditionTruth_reportsErrors (source : AttributeSource) (rule : Rule) :
    ReportsErrors (rule.conditionTruth source) := by
  unfold conditionTruth
  split
  · exact .ok true
  · exact Expression.truth_reportsErrors source _

end PolicyDecision
