import PolicyDecision.Policy.Directive
import PolicyDecision.Proofs.Itemwise

/-!
# Fulfilment of directives

The directives stated for a decision are fulfilled one after another in their
order: each yields an obligation or advice of its own identifier with the
assignments that are computed for it, and the first failure among them fails all.
-/

namespace PolicyDecision

variable {source : AttributeSource} {decision : Decision}

/-- The obligation that an expression is fulfilled to. -/
def ObligationExpression.fulfil
    (source : AttributeSource)
    (expression : ObligationExpression) : Except Status Obligation :=
  (AssignmentExpression.evaluateAll source expression.assignments).map
    fun assignments => ⟨expression.id, assignments⟩

/-- The advice that an expression is fulfilled to. -/
def AdviceExpression.fulfil
    (source : AttributeSource)
    (expression : AdviceExpression) : Except Status Advice :=
  (AssignmentExpression.evaluateAll source expression.assignments).map
    fun assignments => ⟨expression.id, assignments⟩

/-- An expression is fulfilled to an obligation of its identifier with the
assignments computed for it. -/
theorem ObligationExpression.fulfil_eq_ok_iff
    {expression : ObligationExpression}
    {obligation : Obligation} :
    expression.fulfil source = .ok obligation ↔
      obligation.id = expression.id ∧
        AssignmentExpression.evaluateAll source expression.assignments =
          .ok obligation.assignments := by
  cases obligation
  rw [fulfil]
  cases AssignmentExpression.evaluateAll source expression.assignments <;>
    simp [Except.map, eq_comm]

/-- An expression is fulfilled to advice of its identifier with the assignments
computed for it. -/
theorem AdviceExpression.fulfil_eq_ok_iff
    {expression : AdviceExpression}
    {advice : Advice} :
    expression.fulfil source = .ok advice ↔
      advice.id = expression.id ∧
        AssignmentExpression.evaluateAll source expression.assignments =
          .ok advice.assignments := by
  cases advice
  rw [fulfil]
  cases AssignmentExpression.evaluateAll source expression.assignments <;>
    simp [Except.map, eq_comm]

/-- Obligations are fulfilled by those of the expressions that are stated for the
decision. -/
theorem fulfilObligations_eq_mapM (expressions : List ObligationExpression) :
    fulfilObligations source decision expressions =
      (expressions.filter fun expression => expression.effect.decision = decision).mapM
        (ObligationExpression.fulfil source) := by
  induction expressions with
  | nil => rfl
  | cons expression rest inductionHypothesis =>
      rw [fulfilObligations, inductionHypothesis]
      by_cases stated : expression.effect.decision = decision
      · rw [if_pos stated, List.filter_cons_of_pos (by simpa using stated), List.mapM_cons,
          ObligationExpression.fulfil]
        cases AssignmentExpression.evaluateAll source expression.assignments <;> rfl
      · rw [if_neg stated, List.filter_cons_of_neg (by simpa using stated)]

/-- Advice is given by those of the expressions that are stated for the
decision. -/
theorem fulfilAdvice_eq_mapM (expressions : List AdviceExpression) :
    fulfilAdvice source decision expressions =
      (expressions.filter fun expression => expression.effect.decision = decision).mapM
        (AdviceExpression.fulfil source) := by
  induction expressions with
  | nil => rfl
  | cons expression rest inductionHypothesis =>
      rw [fulfilAdvice, inductionHypothesis]
      by_cases stated : expression.effect.decision = decision
      · rw [if_pos stated, List.filter_cons_of_pos (by simpa using stated), List.mapM_cons,
          AdviceExpression.fulfil]
        cases AssignmentExpression.evaluateAll source expression.assignments <;> rfl
      · rw [if_neg stated, List.filter_cons_of_neg (by simpa using stated)]

/-- Directives are fulfilled when their obligations and their advice are. -/
theorem Directives.fulfil_eq_ok_iff
    {directives : Directives}
    {obligations : List Obligation}
    {advice : List Advice} :
    directives.fulfil source decision = .ok (obligations, advice) ↔
      fulfilObligations source decision directives.obligations = .ok obligations ∧
        fulfilAdvice source decision directives.advice = .ok advice := by
  rw [fulfil]
  cases fulfilObligations source decision directives.obligations <;>
    cases fulfilAdvice source decision directives.advice <;>
      simp [bind, Except.bind, pure, Except.pure]

/-- The directives hold an expression stated for a decision that is fulfilled to
an obligation. -/
def Directives.Oblige
    (directives : Directives)
    (source : AttributeSource)
    (decision : Decision)
    (obligation : Obligation) : Prop :=
  ∃ expression ∈ directives.obligations,
    expression.effect.decision = decision ∧
      obligation.id = expression.id ∧
        AssignmentExpression.evaluateAll source expression.assignments =
          .ok obligation.assignments

/-- The directives hold an expression stated for a decision that is fulfilled to
advice. -/
def Directives.Advise
    (directives : Directives)
    (source : AttributeSource)
    (decision : Decision)
    (advice : Advice) : Prop :=
  ∃ expression ∈ directives.advice,
    expression.effect.decision = decision ∧
      advice.id = expression.id ∧
        AssignmentExpression.evaluateAll source expression.assignments = .ok advice.assignments

theorem Directives.oblige_of_fulfil
    {directives : Directives}
    {obligations : List Obligation}
    {advice : List Advice}
    (fulfilled : directives.fulfil source decision = .ok (obligations, advice)) :
    (∀ obligation ∈ obligations, directives.Oblige source decision obligation) ∧
      ∀ given ∈ advice, directives.Advise source decision given := by
  obtain ⟨obliged, advised⟩ := fulfil_eq_ok_iff.mp fulfilled
  rw [fulfilObligations_eq_mapM, mapM_eq_ok_iff] at obliged
  rw [fulfilAdvice_eq_mapM, mapM_eq_ok_iff] at advised
  constructor
  · intro obligation member
    obtain ⟨expression, isStated, yields⟩ := exists_of_forall₂_of_mem obliged member
    obtain ⟨isExpression, stated⟩ := List.mem_filter.mp isStated
    exact ⟨expression, isExpression, of_decide_eq_true stated,
      ObligationExpression.fulfil_eq_ok_iff.mp yields⟩
  · intro given member
    obtain ⟨expression, isStated, yields⟩ := exists_of_forall₂_of_mem advised member
    obtain ⟨isExpression, stated⟩ := List.mem_filter.mp isStated
    exact ⟨expression, isExpression, of_decide_eq_true stated,
      AdviceExpression.fulfil_eq_ok_iff.mp yields⟩

end PolicyDecision
