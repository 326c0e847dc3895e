import Mathlib.Tactic.SplitIfs
import PolicyDecision.Proofs.Combining.Fold
import PolicyDecision.Proofs.Decision

/-!
# Overrides algorithms

The closed form of the algorithms in which one definite decision overrides the
other. The fold ends with the first overriding result, or else resolves the
merges of the remaining results of each kind, so that the combined decision only
depends on which decisions occur among the children.
-/

namespace PolicyDecision

/-- The decision of a child. -/
def Candidate.decision (candidate : Candidate) : Decision := candidate.result.decision

/-- The results in order merged into those collected before them. -/
def mergeAll (collected : Option EvaluationResult) (results : List EvaluationResult) :
    Option EvaluationResult :=
  results.foldl (fun held result => some (mergeInto held result)) collected

/-- The results with a decision of some kind. -/
def ofKind (kind : Decision → Bool) (results : List EvaluationResult) :
    List EvaluationResult :=
  results.filter fun result => kind result.decision

theorem decision_mergeInto
    (collected : Option EvaluationResult)
    (result : EvaluationResult) :
    (mergeInto collected result).decision = (collected.getD result).decision := by
  cases collected <;> rfl

/-- A merge keeps the first decision. -/
theorem decision_mergeAll
    (collected : Option EvaluationResult)
    (results : List EvaluationResult) :
    (mergeAll collected results).map EvaluationResult.decision =
      (collected.or results.head?).map EvaluationResult.decision := by
  induction results generalizing collected with
  | nil => cases collected <;> rfl
  | cons result rest inductionHypothesis =>
      have merged := inductionHypothesis (some (mergeInto collected result))
      rw [mergeAll, List.foldl_cons, ← mergeAll, merged]
      simp only [Option.some_or, Option.map_some, decision_mergeInto, List.head?_cons]
      cases collected <;> rfl

/-- The merge of the results of a kind has a decision of that kind, and there is
none exactly when no decision of that kind occurs. -/
theorem mergeAll_ofKind
    (kind : Decision → Bool)
    (results : List EvaluationResult) :
    (mergeAll none (ofKind kind results) = none ∧
        ∀ decision ∈ results.map EvaluationResult.decision, kind decision = false) ∨
      ∃ merged, mergeAll none (ofKind kind results) = some merged ∧
        kind merged.decision = true ∧
        merged.decision ∈ results.map EvaluationResult.decision := by
  have decided := decision_mergeAll none (ofKind kind results)
  cases first : (ofKind kind results).head? with
  | none =>
      left
      have noneOfKind : ofKind kind results = [] := List.head?_eq_none_iff.mp first
      refine ⟨by rw [noneOfKind]; rfl, ?_⟩
      intro decision occurs
      obtain ⟨result, member, rfl⟩ := List.mem_map.mp occurs
      simpa using List.filter_eq_nil_iff.mp noneOfKind result member
  | some result =>
      right
      rw [first] at decided
      obtain ⟨merged, isMerged, sameDecision⟩ := Option.map_eq_some_iff.mp decided
      obtain ⟨member, isOfKind⟩ := List.mem_filter.mp (List.mem_of_head? first)
      refine ⟨merged, isMerged, ?_, ?_⟩
      · rw [sameDecision]
        exact isOfKind
      · rw [sameDecision]
        exact List.mem_map_of_mem member

/-- There is a merge of the results of a decision exactly when it occurs. -/
theorem mergeAll_ofDecision
    (decision : Decision)
    (results : List EvaluationResult) :
    (mergeAll none (ofKind (· = decision) results) = none ∧
        decision ∉ results.map EvaluationResult.decision) ∨
      ∃ merged, mergeAll none (ofKind (· = decision) results) = some merged ∧
        merged.decision = decision ∧ decision ∈ results.map EvaluationResult.decision := by
  rcases mergeAll_ofKind (· = decision) results with
    ⟨isNone, noneOfKind⟩ | ⟨merged, isMerged, isOfKind, occurs⟩
  · left
    refine ⟨isNone, fun occurs => ?_⟩
    simpa using noneOfKind decision occurs
  · right
    have decided : merged.decision = decision := of_decide_eq_true isOfKind
    exact ⟨merged, isMerged, decided, decided ▸ occurs⟩

/-- There is a merge of the widest indeterminate results exactly when one of the
two spellings occurs. -/
theorem mergeAll_isBoth (results : List EvaluationResult) :
    (mergeAll none (ofKind Decision.isBoth results) = none ∧
        ¬(.indeterminate ∈ results.map EvaluationResult.decision ∨
          .indeterminateDenyPermit ∈ results.map EvaluationResult.decision)) ∨
      ∃ merged, mergeAll none (ofKind Decision.isBoth results) = some merged ∧
        merged.decision.unified = .indeterminateDenyPermit ∧
        (.indeterminate ∈ results.map EvaluationResult.decision ∨
          .indeterminateDenyPermit ∈ results.map EvaluationResult.decision) := by
  rcases mergeAll_ofKind Decision.isBoth results with
    ⟨isNone, noneOfKind⟩ | ⟨merged, isMerged, isOfKind, occurs⟩
  · left
    refine ⟨isNone, ?_⟩
    rintro (occurs | occurs)
    · cases noneOfKind _ occurs
    · cases noneOfKind _ occurs
  · right
    refine ⟨merged, isMerged, Decision.unified_of_isBoth isOfKind, ?_⟩
    rcases Decision.eq_of_isBoth isOfKind with decided | decided
    · exact .inl (decided ▸ occurs)
    · exact .inr (decided ▸ occurs)

namespace OverridesState

/-- One result taken in that is not of the overriding decision. -/
def absorb (overriding : Decision) (state : OverridesState) (result : EvaluationResult) :
    OverridesState :=
  if result.decision = overriding.otherDefinite then
    { state with overridden := some (mergeInto state.overridden result) }
  else if result.decision = overriding.asIndeterminate then
    { state with
      indeterminateOverriding := some (mergeInto state.indeterminateOverriding result) }
  else if result.decision = overriding.otherDefinite.asIndeterminate then
    { state with
      indeterminateOverridden := some (mergeInto state.indeterminateOverridden result) }
  else if result.decision.isBoth then
    { state with indeterminateBoth := some (mergeInto state.indeterminateBoth result) }
  else state

/-- A result of the overriding decision ends the fold, and any other result is
absorbed. -/
theorem take_eq
    (overriding : Decision)
    (state : OverridesState)
    (result : EvaluationResult) :
    take overriding state result =
      if decide (result.decision = overriding) then .done result
      else .next (absorb overriding state result) := by
  simp only [take, absorb, Decision.isBoth, decide_eq_true_eq, Bool.or_eq_true]
  split_ifs <;> rfl

/-- The results of each kind merged into what a state has collected of it. -/
def collect (overriding : Decision) (state : OverridesState)
    (results : List EvaluationResult) : OverridesState where
  overridden :=
    mergeAll state.overridden (ofKind (· = overriding.otherDefinite) results)
  indeterminateOverriding :=
    mergeAll state.indeterminateOverriding (ofKind (· = overriding.asIndeterminate) results)
  indeterminateOverridden :=
    mergeAll state.indeterminateOverridden
      (ofKind (· = overriding.otherDefinite.asIndeterminate) results)
  indeterminateBoth :=
    mergeAll state.indeterminateBoth (ofKind Decision.isBoth results)

/-- Absorbing results one after another collects them by their kinds. -/
theorem foldl_absorb
    {overriding : Decision}
    (definite : overriding.isDefinite = true)
    (state : OverridesState)
    (results : List EvaluationResult) :
    results.foldl (absorb overriding) state = collect overriding state results := by
  induction results generalizing state with
  | nil => rfl
  | cons result rest inductionHypothesis =>
      rw [List.foldl_cons, inductionHypothesis]
      -- The four kinds are disjoint for a definite overriding decision, so only
      -- one of the merges takes the result.
      rcases Decision.permit_or_deny_of_isDefinite definite with rfl | rfl <;>
        cases decided : result.decision <;>
          simp [collect, absorb, ofKind, mergeAll, Decision.otherDefinite,
            Decision.asIndeterminate, Decision.isBoth, decided]

end OverridesState

namespace CombiningAlgorithm

/-- The definite decision that overrides the other one in an algorithm. -/
def overriding? : CombiningAlgorithm → Option Decision
  | .denyOverrides | .orderedDenyOverrides => some .deny
  | .permitOverrides | .orderedPermitOverrides => some .permit
  | _ => none

theorem isDefinite_of_overriding
    {algorithm : CombiningAlgorithm}
    {overriding : Decision}
    (overrides : algorithm.overriding? = some overriding) :
    overriding.isDefinite = true := by
  cases algorithm <;> cases overrides <;> rfl

/-- An overrides algorithm gives the first overriding result, or else resolves
the merges of the results of each kind. -/
theorem combine_overriding
    {algorithm : CombiningAlgorithm}
    {overriding : Decision}
    (overrides : algorithm.overriding? = some overriding)
    (candidates : List Candidate) :
    (algorithm.combine candidates).result =
      ((candidates.map Candidate.result).find? fun result => result.decision = overriding).getD
        (OverridesState.collect overriding .empty (candidates.map Candidate.result)).resolve := by
  have combined :
      algorithm.combine candidates =
        foldCandidates (OverridesState.take overriding) OverridesState.resolve .empty
          candidates := by
    cases algorithm <;> cases overrides <;> rfl
  rw [combined, ← OverridesState.foldl_absorb (isDefinite_of_overriding overrides)]
  exact foldResults_of_decisive (OverridesState.take_eq overriding) (fun _ _ => rfl) .empty
    candidates

end CombiningAlgorithm

/-- The decision of an overrides algorithm by the precedence of the decisions
that occur. -/
def Decision.overridden (overriding : Decision) (decisions : List Decision) : Decision :=
  if overriding ∈ decisions then overriding
  else if .indeterminate ∈ decisions ∨ .indeterminateDenyPermit ∈ decisions then
    .indeterminateDenyPermit
  else if overriding.asIndeterminate ∈ decisions then
    if overriding.otherDefinite ∈ decisions ∨
        overriding.otherDefinite.asIndeterminate ∈ decisions then
      .indeterminateDenyPermit
    else overriding.asIndeterminate
  else if overriding.otherDefinite ∈ decisions then overriding.otherDefinite
  else if overriding.otherDefinite.asIndeterminate ∈ decisions then
    overriding.otherDefinite.asIndeterminate
  else .notApplicable

namespace OverridesState

/-- The decision of the resolved merges follows the precedence of the decisions
that occur. -/
theorem unified_decision_resolve_collect
    {overriding : Decision}
    (definite : overriding.isDefinite = true)
    {results : List EvaluationResult}
    (noneOverriding : overriding ∉ results.map EvaluationResult.decision) :
    (collect overriding .empty results).resolve.decision.unified =
      Decision.overridden overriding (results.map EvaluationResult.decision) := by
  have otherUnified : overriding.otherDefinite.unified = overriding.otherDefinite :=
    Decision.unified_of_isDefinite overriding.otherDefinite_isDefinite
  have awayUnified :=
    Decision.unified_asIndeterminate overriding.otherDefinite_isDefinite
  rw [Decision.overridden, if_neg noneOverriding]
  rcases mergeAll_isBoth results with
    ⟨noBoth, bothAbsent⟩ | ⟨both, isBoth, bothDecided, bothOccurs⟩
  case inr =>
    rw [if_pos bothOccurs]
    simpa only [collect, empty, resolve, isBoth] using bothDecided
  rw [if_neg bothAbsent]
  have overriddenMerge := mergeAll_ofDecision overriding.otherDefinite results
  have awayMerge := mergeAll_ofDecision overriding.otherDefinite.asIndeterminate results
  rcases mergeAll_ofDecision overriding.asIndeterminate results with
    ⟨noTowards, towardsAbsent⟩ | ⟨towards, isTowards, towardsDecided, towardsOccurs⟩
  · rw [if_neg towardsAbsent]
    rcases overriddenMerge with
      ⟨noOverridden, overriddenAbsent⟩ | ⟨merged, isMerged, decided, occurs⟩
    · rw [if_neg overriddenAbsent]
      rcases awayMerge with ⟨noAway, awayAbsent⟩ | ⟨merged, isMerged, decided, occurs⟩
      · rw [if_neg awayAbsent]
        simp only [collect, empty, resolve, noBoth, noTowards, noOverridden, noAway]
        rfl
      · rw [if_pos occurs]
        simp only [collect, empty, resolve, noBoth, noTowards, noOverridden, isMerged, decided,
          awayUnified]
    · rw [if_pos occurs]
      simp only [collect, empty, resolve, noBoth, noTowards, isMerged, decided, otherUnified]
  · rw [if_pos towardsOccurs]
    rcases overriddenMerge with
      ⟨noOverridden, overriddenAbsent⟩ | ⟨merged, isMerged, decided, occurs⟩
    · rcases awayMerge with ⟨noAway, awayAbsent⟩ | ⟨merged, isMerged, decided, occurs⟩
      · rw [if_neg (not_or_intro overriddenAbsent awayAbsent)]
        simp only [collect, empty, resolve, noBoth, isTowards, noOverridden, noAway,
          Option.isSome_none, Bool.or_self, Bool.false_eq_true, if_false, towardsDecided,
          Decision.unified_asIndeterminate definite]
      · rw [if_pos (.inr occurs)]
        simp only [collect, empty, resolve, noBoth, isTowards, isMerged, Option.isSome_some,
          Bool.true_or, if_true]
        rfl
    · rw [if_pos (.inl occurs)]
      simp only [collect, empty, resolve, noBoth, isTowards, isMerged, Option.isSome_some,
        Bool.or_true, if_true]
      rfl

end OverridesState

/-- The decision of an overrides algorithm, apart from the spelling of the widest
indeterminate decision, follows the precedence of the decisions that occur. -/
theorem CombiningAlgorithm.unified_decision_combine_overriding
    {algorithm : CombiningAlgorithm}
    {overriding : Decision}
    (overrides : algorithm.overriding? = some overriding)
    (candidates : List Candidate) :
    (algorithm.combine candidates).result.decision.unified =
      Decision.overridden overriding (candidates.map Candidate.decision) := by
  have definite := isDefinite_of_overriding overrides
  have decisions :
      candidates.map Candidate.decision =
        (candidates.map Candidate.result).map EvaluationResult.decision := by
    rw [List.map_map]
    rfl
  rw [combine_overriding overrides, decisions]
  cases found : (candidates.map Candidate.result).find? fun result =>
      result.decision = overriding with
  | none =>
      apply OverridesState.unified_decision_resolve_collect definite
      intro occurs
      obtain ⟨result, member, decided⟩ := List.mem_map.mp occurs
      simpa [decided] using List.find?_eq_none.mp found result member
  | some result =>
      have decided : result.decision = overriding := by
        simpa using List.find?_some found
      have occurs :
          overriding ∈ (candidates.map Candidate.result).map EvaluationResult.decision :=
        decided ▸ List.mem_map_of_mem (List.mem_of_find?_eq_some found)
      rw [Decision.overridden, if_pos occurs, Option.getD_some, decided]
      exact Decision.unified_of_isDefinite definite

end PolicyDecision
