import PolicyDecision.Proofs.Policy.Fulfilment

/-!
# First failures of directives

The directives stated for an effect compute their assignments one after another, those of
the obligations before those of the advice. The first assignment that fails is the
failure of all directives. Without a failure each directive takes the assignments of all
its expressions.
-/

namespace PolicyDecision

variable {α β γ : Type} {source : AttributeSource}

/-- The value, unless there is a failure. -/
def unlessFailed (failure : Option Status) (value : α) : Except Status α :=
  failure.elim (.ok value) .error

theorem map_unlessFailed (made : α → β) (failure : Option Status) (value : α) :
    (unlessFailed failure value).map made = unlessFailed failure (made value) := by
  cases failure <;> rfl

/-- Of two stages the first failure counts. -/
theorem unlessFailed_both
    (made : α → β → γ)
    (failure next : Option Status)
    (value : α)
    (other : β) :
    (do
      let first ← unlessFailed failure value
      let second ← unlessFailed next other
      return made first second) =
      unlessFailed (failure.or next) (made value other) := by
  cases failure <;> cases next <;> rfl

namespace AssignmentExpression

/-- The failure of the expression, if it fails. -/
def failure? (source : AttributeSource) (assignment : AssignmentExpression) : Option Status :=
  match assignment.expression.evaluate source with
  | .failed status => some status
  | _ => none

/-- One assignment for each value of the expression. -/
def assigned (source : AttributeSource) (assignment : AssignmentExpression) : List Assignment :=
  let values :=
    match assignment.expression.evaluate source with
    | .single value => [value]
    | .bag bag => bag.values
    | .failed _ => []
  values.map fun value => ⟨assignment.attributeId, assignment.category, value⟩

/-- The first failure of several expressions in order. -/
def firstFailure? (source : AttributeSource) (assignments : List AssignmentExpression) :
    Option Status :=
  assignments.findSome? (failure? source)

theorem firstFailure?_cons (assignment : AssignmentExpression) (rest : List AssignmentExpression) :
    firstFailure? source (assignment :: rest) =
      (assignment.failure? source).or (firstFailure? source rest) := by
  rw [firstFailure?, List.findSome?_cons]
  cases assignment.failure? source <;> rfl

theorem firstFailure?_append (assignments others : List AssignmentExpression) :
    firstFailure? source (assignments ++ others) =
      (firstFailure? source assignments).or (firstFailure? source others) :=
  List.findSome?_append

theorem firstFailure?_eq_none_iff {assignments : List AssignmentExpression} :
    firstFailure? source assignments = none ↔
      ∀ assignment ∈ assignments, assignment.failure? source = none :=
  List.findSome?_eq_none_iff

theorem evaluate_eq (assignment : AssignmentExpression) :
    assignment.evaluate source =
      unlessFailed (assignment.failure? source) (assignment.assigned source) := by
  unfold evaluate failure? assigned
  cases assignment.expression.evaluate source <;> rfl

theorem evaluateAll_eq (assignments : List AssignmentExpression) :
    evaluateAll source assignments =
      unlessFailed (firstFailure? source assignments)
        (assignments.flatMap (assigned source)) := by
  induction assignments with
  | nil => rfl
  | cons assignment rest inductionHypothesis =>
      rw [evaluateAll, evaluate_eq, inductionHypothesis, firstFailure?_cons, List.flatMap_cons]
      exact unlessFailed_both (· ++ ·) _ _ _ _

/-- Where each item is made of the assignments that it states, all items fail with the first
failure among all assignments. -/
theorem mapM_evaluateAll_eq
    (items : List α)
    (stated : α → List AssignmentExpression)
    (made : α → List Assignment → β) :
    items.mapM (fun item => (evaluateAll source (stated item)).map (made item)) =
      unlessFailed (firstFailure? source (items.flatMap stated))
        (items.map fun item => made item ((stated item).flatMap (assigned source))) := by
  induction items with
  | nil => rfl
  | cons item rest inductionHypothesis =>
      rw [List.mapM_cons, inductionHypothesis, evaluateAll_eq, map_unlessFailed,
        List.flatMap_cons, firstFailure?_append, List.map_cons]
      exact unlessFailed_both List.cons _ _ _ _

end AssignmentExpression

theorem Effect.decision_inj {effect other : Effect} :
    effect.decision = other.decision ↔ effect = other := by
  cases effect <;> cases other <;> simp [decision]

/-! ## Directives of an effect -/

namespace Directives

variable (directives : Directives) (effect : Effect)

/-- The obligations that are stated for an effect. -/
def statedObligations : List ObligationExpression :=
  directives.obligations.filter fun expression => expression.effect = effect

/-- The advice that is stated for an effect. -/
def statedAdvice : List AdviceExpression :=
  directives.advice.filter fun expression => expression.effect = effect

/-- The assignments that are stated for an effect, in the order in which they are
computed. -/
def statedAssignments : List AssignmentExpression :=
  (directives.statedObligations effect).flatMap ObligationExpression.assignments ++
    (directives.statedAdvice effect).flatMap AdviceExpression.assignments

/-- The obligations stated for an effect with the assignments that can be computed. -/
def ownObligations (source : AttributeSource) : List Obligation :=
  (directives.statedObligations effect).map fun expression =>
    ⟨expression.id, expression.assignments.flatMap (AssignmentExpression.assigned source)⟩

/-- The advice stated for an effect with the assignments that can be computed. -/
def ownAdvice (source : AttributeSource) : List Advice :=
  (directives.statedAdvice effect).map fun expression =>
    ⟨expression.id, expression.assignments.flatMap (AssignmentExpression.assigned source)⟩

/-- The first failure of the assignments that are stated for an effect. -/
def firstFailure? (source : AttributeSource) : Option Status :=
  AssignmentExpression.firstFailure? source (directives.statedAssignments effect)

theorem fulfilObligations_eq :
    fulfilObligations source effect.decision directives.obligations =
      unlessFailed
        (AssignmentExpression.firstFailure? source
          ((directives.statedObligations effect).flatMap ObligationExpression.assignments))
        (directives.ownObligations effect source) := by
  simp only [fulfilObligations_eq_mapM, Effect.decision_inj]
  exact AssignmentExpression.mapM_evaluateAll_eq _ ObligationExpression.assignments
    fun expression => Obligation.mk expression.id

theorem fulfilAdvice_eq :
    fulfilAdvice source effect.decision directives.advice =
      unlessFailed
        (AssignmentExpression.firstFailure? source
          ((directives.statedAdvice effect).flatMap AdviceExpression.assignments))
        (directives.ownAdvice effect source) := by
  simp only [fulfilAdvice_eq_mapM, Effect.decision_inj]
  exact AssignmentExpression.mapM_evaluateAll_eq _ AdviceExpression.assignments
    fun expression => Advice.mk expression.id

/-- Directives are fulfilled unless one of their assignments fails. -/
theorem fulfil_eq :
    directives.fulfil source effect.decision =
      unlessFailed (directives.firstFailure? effect source)
        (directives.ownObligations effect source, directives.ownAdvice effect source) := by
  rw [fulfil, fulfilObligations_eq, fulfilAdvice_eq, firstFailure?, statedAssignments,
    AssignmentExpression.firstFailure?_append]
  exact unlessFailed_both Prod.mk _ _ _ _

end Directives
end PolicyDecision
