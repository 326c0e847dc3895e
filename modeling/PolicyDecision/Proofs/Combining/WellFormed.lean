import PolicyDecision.Proofs.Combining.Closure
import PolicyDecision.Proofs.Union

/-!
# Well-formed results

A well-formed result carries what its decision allows it to carry: nothing when
it does not apply, a plain success when it is definite, and an error without
directives when it is indeterminate. Merging keeps results of one decision well
formed, and every combining algorithm makes well-formed results of well-formed
ones.
-/

namespace PolicyDecision

/-- What a result carries agrees with its decision, and no policy or policy set
is recorded twice. -/
structure EvaluationResult.WellFormed (result : EvaluationResult) : Prop where
  /-- A result that does not apply carries nothing. -/
  bare_of_notApplicable :
    result.decision = .notApplicable → result = .notApplicable
  /-- A permit or a denial has succeeded. -/
  ok_of_definite :
    result.decision.isDefinite = true → result.status = .ok
  /-- An indeterminate result reports an error. -/
  failed_of_indeterminate :
    result.decision.isIndeterminate = true → result.status.isOk = false
  /-- An indeterminate result carries no directives. -/
  undirected_of_indeterminate :
    result.decision.isIndeterminate = true → result.obligations = [] ∧ result.advice = []
  /-- Each policy is recorded once. -/
  policies_nodup : result.policyIdentifiers.Nodup
  /-- Each policy set is recorded once. -/
  policySets_nodup : result.policySetIdentifiers.Nodup

namespace EvaluationResult

theorem wellFormed_notApplicable : notApplicable.WellFormed where
  bare_of_notApplicable := fun _ => rfl
  ok_of_definite := fun _ => rfl
  failed_of_indeterminate := fun indeterminate => by cases indeterminate
  undirected_of_indeterminate := fun _ => ⟨rfl, rfl⟩
  policies_nodup := .nil
  policySets_nodup := .nil

theorem wellFormed_ofDecision
    {decision : Decision} (definite : decision.isDefinite = true) :
    (ofDecision decision).WellFormed where
  bare_of_notApplicable := fun inapplicable => congrArg ofDecision inapplicable
  ok_of_definite := fun _ => rfl
  failed_of_indeterminate := fun indeterminate =>
    absurd indeterminate (Decision.not_isIndeterminate_of_isDefinite definite)
  undirected_of_indeterminate := fun _ => ⟨rfl, rfl⟩
  policies_nodup := .nil
  policySets_nodup := .nil

theorem wellFormed_withStatus
    {decision : Decision} {status : Status}
    (indeterminate : decision.isIndeterminate = true)
    (failed : status.isOk = false) :
    (withStatus decision status).WellFormed where
  bare_of_notApplicable := fun inapplicable => by
    cases (inapplicable : decision = .notApplicable)
    cases indeterminate
  ok_of_definite := fun definite =>
    absurd indeterminate (Decision.not_isIndeterminate_of_isDefinite definite)
  failed_of_indeterminate := fun _ => failed
  undirected_of_indeterminate := fun _ => ⟨rfl, rfl⟩
  policies_nodup := .nil
  policySets_nodup := .nil

/-- Two merged errors are an error. -/
theorem isOk_mergeStatus
    {first second : Status}
    (failed : first.isOk = false) : (mergeStatus first second).isOk = false := by
  unfold mergeStatus
  rw [failed]
  simp only [Bool.false_eq_true, if_false]
  split
  · exact failed
  · simpa [Status.isOk] using failed

/-- Merging well-formed results of one decision makes a well-formed result. -/
theorem WellFormed.merge
    {first second : EvaluationResult}
    (firstFormed : first.WellFormed)
    (secondFormed : second.WellFormed)
    (alike : first.decision.unified = second.decision.unified) :
    (first.merge second).WellFormed where
  bare_of_notApplicable := fun inapplicable => by
    have firstInapplicable : first.decision = .notApplicable := inapplicable
    have secondInapplicable : second.decision = .notApplicable :=
      Decision.eq_of_unified_eq (firstInapplicable ▸ alike).symm rfl
    rw [firstFormed.bare_of_notApplicable firstInapplicable,
      secondFormed.bare_of_notApplicable secondInapplicable]
    rfl
  ok_of_definite := fun definite => by
    have firstDefinite : first.decision.isDefinite = true := definite
    have sameDecision := Decision.eq_of_unified_eq_unified alike.symm firstDefinite
    have firstOk : first.status = .ok := firstFormed.ok_of_definite firstDefinite
    have secondOk : second.status = .ok :=
      secondFormed.ok_of_definite (sameDecision ▸ firstDefinite)
    simp [EvaluationResult.merge, mergeStatus, firstOk, secondOk]
  failed_of_indeterminate := fun indeterminate =>
    isOk_mergeStatus (firstFormed.failed_of_indeterminate indeterminate)
  undirected_of_indeterminate := fun indeterminate => by
    have secondIndeterminate : second.decision.isIndeterminate = true := by
      rw [← Decision.isIndeterminate_unified, ← alike, Decision.isIndeterminate_unified]
      exact indeterminate
    obtain ⟨noObligations, noAdvice⟩ := firstFormed.undirected_of_indeterminate indeterminate
    obtain ⟨noFurtherObligations, noFurtherAdvice⟩ :=
      secondFormed.undirected_of_indeterminate secondIndeterminate
    simp [EvaluationResult.merge, noObligations, noAdvice, noFurtherObligations,
      noFurtherAdvice]
  policies_nodup := nodup_unionWith firstFormed.policies_nodup _
  policySets_nodup := nodup_unionWith firstFormed.policySets_nodup _

theorem combinable_wellFormed : Combinable WellFormed where
  notApplicable := wellFormed_notApplicable
  merge := WellFormed.merge
  widen := fun definite towardsFormed _ isTowards _ => by
    refine wellFormed_withStatus rfl (towardsFormed.failed_of_indeterminate ?_)
    rw [isTowards]
    exact Decision.asIndeterminate_isIndeterminate definite

end EvaluationResult

/-! ## Algorithms -/

/-- A child has a well-formed result, and its target is indeterminate only with
an error. -/
structure Candidate.WellFormed (candidate : Candidate) : Prop where
  result : candidate.result.WellFormed
  target : ∀ status, candidate.target.get = .indeterminate status → status.isOk = false

namespace CombiningAlgorithm

/-- The choice of the only applicable child fails at an indeterminate target or
because a second child applies. -/
theorem selectOnly_error
    {passed : Nat}
    {selected : Option Nat}
    {candidates : List Candidate}
    {status : Status}
    (failed : selectOnly passed selected candidates = .error status) :
    status = moreThanOneApplicable ∨
      ∃ candidate ∈ candidates, candidate.target.get = .indeterminate status := by
  induction candidates generalizing passed selected with
  | nil => cases failed
  | cons candidate rest inductionHypothesis =>
      unfold selectOnly at failed
      split at failed
      · rcases inductionHypothesis failed with several | ⟨member, inRest, reports⟩
        · exact .inl several
        · exact .inr ⟨member, List.mem_cons_of_mem _ inRest, reports⟩
      · rename_i reported _ reports
        cases failed
        exact .inr ⟨candidate, List.mem_cons_self, reports⟩
      · cases failed
        exact .inl rfl
      · rcases inductionHypothesis failed with several | ⟨member, inRest, reports⟩
        · exact .inl several
        · exact .inr ⟨member, List.mem_cons_of_mem _ inRest, reports⟩

/-- Every algorithm makes a well-formed result of well-formed children. -/
theorem combine_wellFormed
    (algorithm : CombiningAlgorithm)
    {candidates : List Candidate}
    (formed : ∀ candidate ∈ candidates, candidate.WellFormed) :
    (algorithm.combine candidates).result.WellFormed := by
  refine algorithm.combine_keeps EvaluationResult.combinable_wellFormed
    (fun decision isFallback => ?_) (fun status failed => ?_)
    fun candidate member => (formed candidate member).result
  · exact EvaluationResult.wellFormed_ofDecision (isDefinite_of_fallback? isFallback)
  · refine EvaluationResult.wellFormed_withStatus rfl ?_
    rcases selectOnly_error failed with several | ⟨candidate, member, reports⟩
    · rw [several]
      rfl
    · exact (formed candidate member).target status reports

end CombiningAlgorithm
end PolicyDecision
