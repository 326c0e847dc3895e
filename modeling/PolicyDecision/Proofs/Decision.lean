import Mathlib.Data.Finset.Insert
import PolicyDecision.Combining.Fold

/-!
# Kinds of decisions

The definite decisions, their indeterminate counterparts, and the outcomes that
a decision still leaves within reach once its errors are gone.
-/

namespace PolicyDecision

namespace Decision

instance irreflexive : Std.Irrefl (α := Decision) (· < ·) :=
  ⟨fun decision => Nat.lt_irrefl decision.rank⟩

instance trichotomous : Std.Trichotomous (α := Decision) (· < ·) :=
  ⟨fun first second => by cases first <;> cases second <;> decide⟩

theorem permit_or_deny_of_isDefinite
    {decision : Decision} (definite : decision.isDefinite = true) :
    decision = .permit ∨ decision = .deny := by
  cases decision <;> simp_all [isDefinite]

theorem otherDefinite_isDefinite (decision : Decision) :
    decision.otherDefinite.isDefinite = true := by
  cases decision <;> rfl

theorem ne_otherDefinite
    {decision : Decision} (definite : decision.isDefinite = true) :
    decision ≠ decision.otherDefinite := by
  rcases permit_or_deny_of_isDefinite definite with rfl | rfl <;> decide

theorem asIndeterminate_ne_notApplicable
    {decision : Decision} (definite : decision.isDefinite = true) :
    decision.asIndeterminate ≠ .notApplicable := by
  rcases permit_or_deny_of_isDefinite definite with rfl | rfl <;> decide

theorem ne_notApplicable
    {decision : Decision} (definite : decision.isDefinite = true) :
    decision ≠ .notApplicable := by
  rintro rfl
  cases definite

theorem isDefinite_of_ne_notApplicable
    {decision : Decision}
    (determinate : decision.isIndeterminate = false)
    (applicable : decision ≠ .notApplicable) :
    decision.isDefinite = true := by
  cases decision <;> simp_all [isDefinite, isIndeterminate]

theorem not_isIndeterminate_of_isDefinite
    {decision : Decision} (definite : decision.isDefinite = true) :
    ¬decision.isIndeterminate = true := by
  rcases permit_or_deny_of_isDefinite definite with rfl | rfl <;> decide

theorem asIndeterminate_isIndeterminate
    {decision : Decision} (definite : decision.isDefinite = true) :
    decision.asIndeterminate.isIndeterminate = true := by
  rcases permit_or_deny_of_isDefinite definite with rfl | rfl <;> rfl

/-! ## The widest indeterminate decision -/

/-- The decision leaves both definite decisions within reach. -/
def isBoth (decision : Decision) : Bool :=
  decision = .indeterminate || decision = .indeterminateDenyPermit

/-- The decision with both spellings of the widest indeterminate decision made
one. -/
def unified : Decision → Decision
  | .indeterminate => .indeterminateDenyPermit
  | other => other

theorem eq_of_isBoth
    {decision : Decision} (both : decision.isBoth = true) :
    decision = .indeterminate ∨ decision = .indeterminateDenyPermit := by
  simpa [isBoth] using both

theorem unified_of_isBoth
    {decision : Decision} (both : decision.isBoth = true) :
    decision.unified = .indeterminateDenyPermit := by
  rcases eq_of_isBoth both with rfl | rfl <;> rfl

theorem unified_of_isDefinite
    {decision : Decision} (definite : decision.isDefinite = true) :
    decision.unified = decision := by
  rcases permit_or_deny_of_isDefinite definite with rfl | rfl <;> rfl

theorem unified_asIndeterminate
    {decision : Decision} (definite : decision.isDefinite = true) :
    decision.asIndeterminate.unified = decision.asIndeterminate := by
  rcases permit_or_deny_of_isDefinite definite with rfl | rfl <;> rfl

theorem eq_of_unified_eq
    {decision other : Decision}
    (same : decision.unified = other)
    (determinate : other.isIndeterminate = false) :
    decision = other := by
  cases decision <;> first | exact same | (cases same; cases determinate)

/-- A definite decision agrees only with itself. -/
theorem eq_of_unified_eq_unified
    {decision other : Decision}
    (same : decision.unified = other.unified)
    (definite : other.isDefinite = true) : decision = other :=
  eq_of_unified_eq (same.trans (unified_of_isDefinite definite))
    (Bool.eq_false_iff.mpr (not_isIndeterminate_of_isDefinite definite))

@[simp] theorem isIndeterminate_unified (decision : Decision) :
    decision.unified.isIndeterminate = decision.isIndeterminate := by
  cases decision <;> rfl

/-! ## Reach -/

/-- The outcomes that an evaluation without errors could still have. -/
def reach : Decision → Finset Decision
  | .permit => {.permit}
  | .deny => {.deny}
  | .notApplicable => {.notApplicable}
  | .indeterminateDeny => {.deny, .notApplicable}
  | .indeterminatePermit => {.permit, .notApplicable}
  | .indeterminate | .indeterminateDenyPermit => {.permit, .deny, .notApplicable}

/-- Both spellings of the widest indeterminate decision have one reach. -/
@[simp] theorem reach_unified (decision : Decision) :
    decision.unified.reach = decision.reach := by
  cases decision <;> rfl

theorem isIndeterminate_of_mem_reach
    {outcome decision : Decision} (reached : outcome ∈ decision.reach) :
    outcome.isIndeterminate = false := by
  cases decision <;> cases outcome <;> simp_all [reach, isIndeterminate]

/-- An outcome is definite or that nothing applies. -/
theorem eq_of_mem_reach
    {outcome decision : Decision}
    {overriding : Decision}
    (definite : overriding.isDefinite = true)
    (reached : outcome ∈ decision.reach) :
    outcome = overriding ∨ outcome = overriding.otherDefinite ∨ outcome = .notApplicable := by
  rcases permit_or_deny_of_isDefinite definite with rfl | rfl <;>
    cases decision <;> cases outcome <;> simp_all [reach, otherDefinite]

/-- A definite decision leaves nothing else within reach. -/
theorem eq_of_mem_reach_of_isDefinite
    {outcome decision : Decision}
    (definite : decision.isDefinite = true)
    (reached : outcome ∈ decision.reach) :
    outcome = decision := by
  rcases permit_or_deny_of_isDefinite definite with rfl | rfl <;>
    exact Finset.mem_singleton.mp reached

/-- The decisions that leave a definite outcome within reach. -/
theorem mem_reach_iff
    {outcome decision : Decision}
    (definite : outcome.isDefinite = true) :
    outcome ∈ decision.reach ↔
      decision = outcome ∨ decision = outcome.asIndeterminate ∨
        decision = .indeterminate ∨ decision = .indeterminateDenyPermit := by
  rcases permit_or_deny_of_isDefinite definite with rfl | rfl <;>
    cases decision <;> simp [reach, asIndeterminate]

/-- A decision that leaves both definite outcomes within reach leaves every
outcome within reach. -/
theorem mem_reach_of_both
    {overriding outcome decision : Decision}
    (definite : overriding.isDefinite = true)
    (towards : overriding ∈ decision.reach)
    (away : overriding.otherDefinite ∈ decision.reach)
    (determinate : outcome.isIndeterminate = false) :
    outcome ∈ decision.reach := by
  rcases permit_or_deny_of_isDefinite definite with rfl | rfl <;>
    cases decision <;> cases outcome <;>
      simp_all [reach, otherDefinite, isIndeterminate]

/-- A decision that may come to nothing and rules a definite outcome out is the
indeterminate decision towards the other one. -/
theorem eq_asIndeterminate_of_mem_reach
    {outcome decision : Decision}
    (definite : outcome.isDefinite = true)
    (applicable : decision ≠ .notApplicable)
    (avoidable : .notApplicable ∈ decision.reach)
    (ruledOut : outcome ∉ decision.reach) :
    decision = outcome.otherDefinite.asIndeterminate := by
  rcases permit_or_deny_of_isDefinite definite with rfl | rfl <;>
    cases decision <;> simp_all [reach, otherDefinite, asIndeterminate]

theorem not_mem_reach_asIndeterminate
    {outcome : Decision} (definite : outcome.isDefinite = true) :
    outcome ∉ outcome.otherDefinite.asIndeterminate.reach := by
  rcases permit_or_deny_of_isDefinite definite with rfl | rfl <;> decide

theorem notApplicable_mem_reach_asIndeterminate
    {decision : Decision} (definite : decision.isDefinite = true) :
    .notApplicable ∈ decision.asIndeterminate.reach := by
  rcases permit_or_deny_of_isDefinite definite with rfl | rfl <;> decide

end Decision
end PolicyDecision
