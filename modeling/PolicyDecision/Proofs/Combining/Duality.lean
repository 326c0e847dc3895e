import Mathlib.Tactic.SplitIfs
import PolicyDecision.Combining.Algorithm
import PolicyDecision.Proofs.Decision

/-!
# Duality of combining algorithms

Permit and deny are exchanged in decisions, and with them the algorithms that
prefer the one to the other. The dual algorithm combines the duals of children to
the dual of their combined result, and evaluates the same children.
-/

namespace PolicyDecision

namespace Decision

/-- The decision with permit and deny exchanged. -/
def dual : Decision → Decision
  | .permit => .deny
  | .deny => .permit
  | .indeterminateDeny => .indeterminatePermit
  | .indeterminatePermit => .indeterminateDeny
  | other => other

@[simp] theorem dual_dual (decision : Decision) : decision.dual.dual = decision := by
  cases decision <;> rfl

/-- Exchanging permit and deny is settled by exchanging them back. -/
theorem dual_eq_iff {decision other : Decision} :
    decision.dual = other ↔ decision = other.dual := by
  constructor
  · rintro rfl
    rw [dual_dual]
  · rintro rfl
    rw [dual_dual]

@[simp] theorem dual_inj {decision other : Decision} :
    decision.dual = other.dual ↔ decision = other := by
  rw [dual_eq_iff, dual_dual]

@[simp] theorem isDefinite_dual (decision : Decision) :
    decision.dual.isDefinite = decision.isDefinite := by
  cases decision <;> rfl

theorem asIndeterminate_dual (decision : Decision) :
    decision.dual.asIndeterminate = decision.asIndeterminate.dual := by
  cases decision <;> rfl

theorem otherDefinite_dual
    {decision : Decision} (definite : decision.isDefinite = true) :
    decision.dual.otherDefinite = decision.otherDefinite.dual := by
  rcases permit_or_deny_of_isDefinite definite with rfl | rfl <;> rfl

/-- Exchanging permit and deny keeps the decisions that leave both within reach. -/
theorem dual_eq_both_iff {decision : Decision} :
    decision.dual = .indeterminate ∨ decision.dual = .indeterminateDenyPermit ↔
      decision = .indeterminate ∨ decision = .indeterminateDenyPermit := by
  rw [dual_eq_iff, dual_eq_iff]
  rfl

end Decision

namespace EvaluationResult

/-- The result with permit and deny exchanged in its decision. -/
def dual (result : EvaluationResult) : EvaluationResult :=
  result.withDecision result.decision.dual

@[simp] theorem decision_dual (result : EvaluationResult) :
    result.dual.decision = result.decision.dual := rfl

end EvaluationResult

/-! ## Folds -/

theorem mergeInto_dual (collected : Option EvaluationResult) (result : EvaluationResult) :
    mergeInto (collected.map EvaluationResult.dual) result.dual =
      (mergeInto collected result).dual := by
  cases collected <;> rfl

/-- The child with permit and deny exchanged in its result. -/
def Candidate.dual (candidate : Candidate) : Candidate :=
  ⟨candidate.target, candidate.outcome.map fun outcome => outcome.map EvaluationResult.dual⟩

theorem Candidate.result_dual (candidate : Candidate) :
    candidate.dual.result = candidate.result.dual := by
  have mapped : candidate.dual.outcome.get = candidate.outcome.get.map EvaluationResult.dual := rfl
  rw [result, result, mapped]
  cases candidate.outcome.get <;> rfl

/-- The combination with permit and deny exchanged in its result. -/
def Combination.dual (combination : Combination) : Combination :=
  ⟨combination.result.dual, combination.evaluations⟩

/-- A step and another one lead to related states or end with dual results. -/
inductive FoldStep.Dual {σ : Type} (related : σ → σ → Prop) : FoldStep σ → FoldStep σ → Prop
  | next {state dualState : σ} :
      related state dualState → Dual related (.next state) (.next dualState)
  | done (result : EvaluationResult) : Dual related (.done result) (.done result.dual)

section Folds

variable
  {σ : Type}
  {related : σ → σ → Prop}
  {take dualTake : σ → EvaluationResult → FoldStep σ}
  {resolve dualResolve : σ → EvaluationResult}

/-- Two folds whose steps are dual have dual results and take as many children. -/
theorem foldResults_dual
    (step : ∀ {state dualState}, related state dualState → ∀ result : EvaluationResult,
      (take state result).Dual related (dualTake dualState result.dual))
    (resolved : ∀ {state dualState}, related state dualState →
      dualResolve dualState = (resolve state).dual)
    {state dualState : σ}
    (start : related state dualState)
    (candidates : List Candidate) :
    foldResults Candidate.result dualTake dualResolve dualState (candidates.map Candidate.dual) =
      (foldResults Candidate.result take resolve state candidates).map
        EvaluationResult.dual id := by
  induction candidates generalizing state dualState with
  | nil => exact Prod.ext (resolved start) rfl
  | cons candidate rest inductionHypothesis =>
      have stepped := step start candidate.result
      simp only [List.map_cons, foldResults, Candidate.result_dual]
      generalize take state candidate.result = taken at stepped ⊢
      generalize dualTake dualState candidate.result.dual = dualTaken at stepped ⊢
      cases stepped with
      | next following => simp only [inductionHypothesis following, Prod.map, id]
      | done final => rfl

theorem CombiningAlgorithm.foldCandidates_dual
    (step : ∀ {state dualState}, related state dualState → ∀ result : EvaluationResult,
      (take state result).Dual related (dualTake dualState result.dual))
    (resolved : ∀ {state dualState}, related state dualState →
      dualResolve dualState = (resolve state).dual)
    {state dualState : σ}
    (start : related state dualState)
    (candidates : List Candidate) :
    foldCandidates dualTake dualResolve dualState (candidates.map Candidate.dual) =
      (foldCandidates take resolve state candidates).dual := by
  simp only [foldCandidates, foldResults_dual step resolved start, List.length_map]
  rfl

end Folds

namespace OverridesState

/-- The state with all collected results replaced by their duals. -/
def dual (state : OverridesState) : OverridesState where
  overridden := state.overridden.map EvaluationResult.dual
  indeterminateOverriding := state.indeterminateOverriding.map EvaluationResult.dual
  indeterminateOverridden := state.indeterminateOverridden.map EvaluationResult.dual
  indeterminateBoth := state.indeterminateBoth.map EvaluationResult.dual

@[simp] theorem dual_empty : empty.dual = empty := rfl

/-- Taking in the dual result for the other definite decision keeps states dual. -/
theorem take_dual
    {overriding : Decision}
    (definite : overriding.isDefinite = true)
    {state dualState : OverridesState}
    (isDual : dualState = state.dual)
    (result : EvaluationResult) :
    (take overriding state result).Dual (fun state dualState => dualState = state.dual)
      (take overriding.dual dualState result.dual) := by
  subst isDual
  simp only [take, Decision.otherDefinite_dual definite, Decision.asIndeterminate_dual,
    EvaluationResult.decision_dual, Decision.dual_inj, Decision.dual_eq_both_iff]
  split_ifs
  · exact .done result
  · exact .next (by simp only [dual, Option.map_some, mergeInto_dual])
  · exact .next (by simp only [dual, Option.map_some, mergeInto_dual])
  · exact .next (by simp only [dual, Option.map_some, mergeInto_dual])
  · exact .next (by simp only [dual, Option.map_some, mergeInto_dual])
  · exact .next rfl

theorem resolve_dual
    {state dualState : OverridesState}
    (isDual : dualState = state.dual) : dualState.resolve = state.resolve.dual := by
  subst isDual
  obtain ⟨overridden, towards, away, both⟩ := state
  cases both with
  | some both => rfl
  | none => cases towards <;> cases overridden <;> cases away <;> rfl

end OverridesState

namespace UnlessState

/-- The state with its fallback and its collected result replaced by their
duals. -/
def dual (state : UnlessState) : UnlessState where
  fallback := state.fallback.dual
  collected := state.collected.map EvaluationResult.dual

@[simp] theorem dual_ofFallback (fallback : Decision) :
    (ofFallback fallback).dual = ofFallback fallback.dual := rfl

/-- Taking in the dual result keeps states dual whose fallback is definite. -/
theorem take_dual
    {state dualState : UnlessState}
    (isDual : state.fallback.isDefinite = true ∧ dualState = state.dual)
    (result : EvaluationResult) :
    (take state result).Dual
      (fun state dualState => state.fallback.isDefinite = true ∧ dualState = state.dual)
      (take dualState result.dual) := by
  obtain ⟨definite, rfl⟩ := isDual
  simp only [take, dual, Decision.otherDefinite_dual definite, EvaluationResult.decision_dual,
    Decision.dual_inj]
  split_ifs
  · exact .done result
  · exact .next ⟨definite, by simp only [Option.map_some, mergeInto_dual]⟩
  · exact .next ⟨definite, rfl⟩

theorem resolve_dual
    {state dualState : UnlessState}
    (isDual : state.fallback.isDefinite = true ∧ dualState = state.dual) :
    dualState.resolve = state.resolve.dual := by
  obtain ⟨-, rfl⟩ := isDual
  obtain ⟨fallback, collected⟩ := state
  cases collected <;> rfl

end UnlessState

theorem takeApplicable_dual (state dualState : Unit) (result : EvaluationResult) :
    (takeApplicable state result).Dual (fun _ _ => True)
      (takeApplicable dualState result.dual) := by
  have inapplicable : result.dual.decision = .notApplicable ↔ result.decision = .notApplicable :=
    Decision.dual_eq_iff
  simp only [takeApplicable, inapplicable]
  split_ifs
  · exact .next trivial
  · exact .done result

/-! ## Algorithms -/

namespace CombiningAlgorithm

/-- The algorithm that prefers the other definite decision. -/
def dual : CombiningAlgorithm → CombiningAlgorithm
  | .denyOverrides => .permitOverrides
  | .permitOverrides => .denyOverrides
  | .orderedDenyOverrides => .orderedPermitOverrides
  | .orderedPermitOverrides => .orderedDenyOverrides
  | .denyUnlessPermit => .permitUnlessDeny
  | .permitUnlessDeny => .denyUnlessPermit
  | neutral => neutral

theorem selectOnly_dual
    (passed : Nat)
    (selected : Option Nat)
    (candidates : List Candidate) :
    selectOnly passed selected (candidates.map Candidate.dual) =
      selectOnly passed selected candidates := by
  induction candidates generalizing passed selected with
  | nil => rfl
  | cons candidate rest inductionHypothesis =>
      have sameTarget : candidate.dual.target = candidate.target := rfl
      simp only [List.map_cons, selectOnly, sameTarget, inductionHypothesis]

theorem combineOnlyOne_dual (candidates : List Candidate) :
    combineOnlyOne (candidates.map Candidate.dual) = (combineOnlyOne candidates).dual := by
  unfold combineOnlyOne
  rw [selectOnly_dual, List.length_map]
  cases selectOnly 0 none candidates with
  | error status => rfl
  | ok selected =>
      cases selected with
      | none => rfl
      | some position =>
          simp only [List.getElem?_map]
          cases candidates[position]? with
          | none => rfl
          | some candidate =>
              simp only [Option.map_some, Candidate.result_dual]
              rfl

/-- The dual algorithm combines dual children to the dual result, and evaluates
the same ones. -/
theorem combine_dual (algorithm : CombiningAlgorithm) (candidates : List Candidate) :
    algorithm.dual.combine (candidates.map Candidate.dual) =
      (algorithm.combine candidates).dual := by
  have overriding (decision : Decision) (definite : decision.isDefinite = true) :
      foldCandidates (OverridesState.take decision.dual) OverridesState.resolve .empty
          (candidates.map Candidate.dual) =
        (foldCandidates (OverridesState.take decision) OverridesState.resolve .empty
          candidates).dual :=
    foldCandidates_dual (OverridesState.take_dual definite) OverridesState.resolve_dual
      OverridesState.dual_empty.symm candidates
  have fallingBack (decision : Decision) (definite : decision.isDefinite = true) :
      foldCandidates UnlessState.take UnlessState.resolve (.ofFallback decision.dual)
          (candidates.map Candidate.dual) =
        (foldCandidates UnlessState.take UnlessState.resolve (.ofFallback decision)
          candidates).dual :=
    foldCandidates_dual UnlessState.take_dual UnlessState.resolve_dual
      ⟨definite, (UnlessState.dual_ofFallback decision).symm⟩ candidates
  cases algorithm with
  | denyOverrides | orderedDenyOverrides => exact overriding .deny rfl
  | permitOverrides | orderedPermitOverrides => exact overriding .permit rfl
  | denyUnlessPermit => exact fallingBack .deny rfl
  | permitUnlessDeny => exact fallingBack .permit rfl
  | firstApplicable =>
      have resolved : EvaluationResult.notApplicable = EvaluationResult.notApplicable.dual := rfl
      exact foldCandidates_dual (fun {state dualState} _ => takeApplicable_dual state dualState)
        (fun _ => resolved) trivial candidates
  | onlyOneApplicable => exact combineOnlyOne_dual candidates

end CombiningAlgorithm
end PolicyDecision
