import PolicyDecision.Proofs.Combining.Overrides
import PolicyDecision.Proofs.Merge

/-!
# Prevailing results

The whole result of an overrides algorithm, not only its decision. Among the
results of the children one kind prevails: it is the first overriding result, or
else the results of the first kind in the precedence that occurs are merged.
-/

namespace PolicyDecision

theorem mergeAll_some (held : EvaluationResult) (results : List EvaluationResult) :
    mergeAll (some held) results = some (results.foldl EvaluationResult.merge held) := by
  induction results generalizing held with
  | nil => rfl
  | cons result rest inductionHypothesis => exact inductionHypothesis (held.merge result)

theorem mergeAll_none (results : List EvaluationResult) :
    mergeAll none results = merged? results := by
  cases results with
  | nil => rfl
  | cons first rest => exact mergeAll_some first rest

/-! ## The precedence of the kinds of results -/

/-- The result that prevails among the results of children: the first overriding
one, or else what the first kind in the precedence that occurs is merged to. Of
errors that leave the overriding decision within reach only the status is kept when
the overridden decision is within reach as well. -/
def prevailing (overriding : Decision) (results : List EvaluationResult) : EvaluationResult :=
  let overridden := overriding.otherDefinite
  let decisions := results.map EvaluationResult.decision
  let mergeOf (decision : Decision) := merged? (ofKind (· = decision) results)
  ((results.find? fun result => result.decision = overriding)
    |>.or (merged? (ofKind Decision.isBoth results))
    |>.or ((mergeOf overriding.asIndeterminate).map fun doubtful =>
      if overridden ∈ decisions ∨ overridden.asIndeterminate ∈ decisions then
        .withStatus .indeterminateDenyPermit doubtful.status
      else doubtful)
    |>.or (mergeOf overridden)
    |>.or (mergeOf overridden.asIndeterminate)).getD .notApplicable

/-- Results of a decision are merged exactly when it occurs. -/
theorem isSome_mergeAll_ofDecision (decision : Decision) (results : List EvaluationResult) :
    (mergeAll none (ofKind (· = decision) results)).isSome = true ↔
      decision ∈ results.map EvaluationResult.decision := by
  rcases mergeAll_ofDecision decision results with ⟨isNone, absent⟩ | ⟨merged, isMerged, -, occurs⟩
  · simp [isNone, absent]
  · simp only [isMerged, Option.isSome_some, occurs]

/-- The merges of the kinds are resolved by their precedence. -/
theorem OverridesState.find?_getD_resolve_collect
    (overriding : Decision)
    (results : List EvaluationResult) :
    (results.find? fun result => result.decision = overriding).getD
      (collect overriding .empty results).resolve = prevailing overriding results := by
  have within :
      ((mergeAll none (ofKind (· = overriding.otherDefinite.asIndeterminate) results)).isSome ||
          (mergeAll none (ofKind (· = overriding.otherDefinite) results)).isSome) = true ↔
        overriding.otherDefinite ∈ results.map EvaluationResult.decision ∨
          overriding.otherDefinite.asIndeterminate ∈ results.map EvaluationResult.decision := by
    rw [Bool.or_eq_true, isSome_mergeAll_ofDecision, isSome_mergeAll_ofDecision, or_comm]
  simp only [prevailing, ← mergeAll_none, collect, empty, resolve]
  cases results.find? fun result => result.decision = overriding with
  | some result => rfl
  | none =>
      cases mergeAll none (ofKind Decision.isBoth results) with
      | some both => rfl
      | none =>
          cases mergeAll none (ofKind (· = overriding.asIndeterminate) results) with
          | some doubtful =>
              simp only [within, Option.map_some, Option.none_or, Option.some_or,
                Option.getD_none, Option.getD_some]
          | none =>
              simp only [Option.map_none, Option.none_or, Option.getD_none]
              cases mergeAll none (ofKind (· = overriding.otherDefinite) results) with
              | some merged => rfl
              | none =>
                  cases mergeAll none
                    (ofKind (· = overriding.otherDefinite.asIndeterminate) results) <;> rfl

namespace CombiningAlgorithm

/-- An overrides algorithm gives the result that prevails among the results of the
children, and a merge of results from left to right takes from them the decision of
the first, the first error and everything that is attached to them. -/
theorem result_combine_eq_prevailing
    {algorithm : CombiningAlgorithm}
    {overriding : Decision}
    (overrides : algorithm.overriding? = some overriding) :
    (∀ candidates : List Candidate,
      (algorithm.combine candidates).result =
        prevailing overriding (candidates.map Candidate.result)) ∧
    ∀ (results : List EvaluationResult) (merged : EvaluationResult),
      merged? results = some merged → merged.IsMergeOf results := by
  refine ⟨fun candidates => ?_, fun _ _ => EvaluationResult.isMergeOf_of_merged?⟩
  rw [combine_overriding overrides]
  exact OverridesState.find?_getD_resolve_collect overriding (candidates.map Candidate.result)

/-- Two doubtful denials around a permit, and two permits that share an
obligation. -/
theorem result_combine_eq_prevailing_of_sharedObligation :
    let answering (result : EvaluationResult) : Candidate := ⟨.pure .matched, .pure (.ok result)⟩
    let missing := EvaluationResult.withStatus .indeterminateDeny (.missingAttribute "no subject")
    let failed := EvaluationResult.processingError .indeterminateDeny "no key"
    let logged : EvaluationResult := ⟨.permit, .ok, [⟨"log", []⟩, ⟨"mail", []⟩], [], [], []⟩
    let mailed : EvaluationResult := ⟨.permit, .ok, [⟨"mail", []⟩, ⟨"call", []⟩], [], [], []⟩
    (denyOverrides.combine [answering missing, answering logged, answering failed]).result =
      .withStatus .indeterminateDenyPermit
        ⟨.missingAttribute, some "no subject; no key"⟩ ∧
    (denyOverrides.combine [answering logged, answering mailed]).result = logged.merge mailed ∧
    (logged.merge mailed).obligations = [⟨"log", []⟩, ⟨"mail", []⟩, ⟨"call", []⟩] := by
  intro answering missing failed logged mailed
  obtain ⟨prevails, merges⟩ :=
    result_combine_eq_prevailing (show denyOverrides.overriding? = some .deny from rfl)
  have isMerge := merges [logged, mailed] (logged.merge mailed) rfl
  have distinct : ∀ result ∈ [logged, mailed], result.Distinct := by
    intro result member
    rcases List.mem_pair.mp member with rfl | rfl
    · exact ⟨by unfold WithoutRepetition; decide, .nil, .nil, .nil⟩
    · exact ⟨by unfold WithoutRepetition; decide, .nil, .nil, .nil⟩
  exact ⟨(prevails _).trans rfl, (prevails _).trans rfl, (isMerge.obligations distinct).trans rfl⟩

end CombiningAlgorithm
end PolicyDecision
