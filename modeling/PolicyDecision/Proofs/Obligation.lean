import PolicyDecision.Obligation

/-!
# Equality of obligations and advice

A value equals itself unless it is the double that is not a number, and so do an
obligation and a piece of advice that assign only such values.
-/

namespace PolicyDecision

/-- The value is not the double that is not a number. -/
def Value.IsComparable (value : Value) : Prop := value ≠ .double .notANumber

theorem Value.IsComparable.beq_self
    {value : Value}
    (comparable : value.IsComparable) : (value == value) = true := by
  change value.same value = true
  cases value with
  | double number =>
      cases number with
      | notANumber => exact absurd rfl comparable
      | signed negative rank => exact Double.signed_beq_self negative rank
  | _ => exact beq_self_eq_true _

theorem Assignment.beq_self
    {assignment : Assignment}
    (comparable : assignment.value.IsComparable) : (assignment == assignment) = true := by
  have fields :
      (assignment.attributeId == assignment.attributeId &&
        (assignment.category == assignment.category &&
          assignment.value == assignment.value)) = true := by
    rw [comparable.beq_self]
    simp
  exact fields

/-- A list whose items equal themselves equals itself. -/
theorem list_beq_self
    {α : Type} [BEq α]
    {items : List α}
    (reflexive : ∀ item ∈ items, (item == item) = true) : (items == items) = true := by
  induction items with
  | nil => rfl
  | cons item rest inductionHypothesis =>
      obtain ⟨itself, restReflexive⟩ := List.forall_mem_cons.mp reflexive
      rw [List.cons_beq_cons, itself, inductionHypothesis restReflexive]
      rfl

theorem assignments_beq_self
    {assignments : List Assignment}
    (comparable : ∀ assignment ∈ assignments, assignment.value.IsComparable) :
    (assignments == assignments) = true :=
  list_beq_self fun assignment member => Assignment.beq_self (comparable assignment member)

/-- No value that the obligation assigns is the double that is not a number. -/
def Obligation.IsComparable (obligation : Obligation) : Prop :=
  ∀ assignment ∈ obligation.assignments, assignment.value.IsComparable

theorem Obligation.IsComparable.beq_self
    {obligation : Obligation}
    (comparable : obligation.IsComparable) : (obligation == obligation) = true := by
  have fields :
      (obligation.id == obligation.id && obligation.assignments == obligation.assignments) =
        true := by
    rw [assignments_beq_self comparable]
    simp
  exact fields

/-- No value that the advice assigns is the double that is not a number. -/
def Advice.IsComparable (advice : Advice) : Prop :=
  ∀ assignment ∈ advice.assignments, assignment.value.IsComparable

theorem Advice.IsComparable.beq_self
    {advice : Advice}
    (comparable : advice.IsComparable) : (advice == advice) = true := by
  have fields :
      (advice.id == advice.id && advice.assignments == advice.assignments) = true := by
    rw [assignments_beq_self comparable]
    simp
  exact fields

end PolicyDecision
