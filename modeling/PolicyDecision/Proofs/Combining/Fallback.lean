import PolicyDecision.Proofs.Combining.Closure
import PolicyDecision.Proofs.Combining.Prevailing

/-!
# Algorithms with a fallback decision

The whole result of the algorithms that decide one definite decision unless a child
decides the other. The first child that does is answered as it is, and otherwise the
results of the fallback decision are merged. All other children are as good as
absent, so the result is always definite.
-/

namespace PolicyDecision

/-! ## The fold -/

namespace UnlessState

/-- One result taken in that is not of the other definite decision. -/
def absorb (state : UnlessState) (result : EvaluationResult) : UnlessState :=
  if result.decision = state.fallback then
    { state with collected := some (mergeInto state.collected result) }
  else state

@[simp] theorem fallback_absorb (state : UnlessState) (result : EvaluationResult) :
    (state.absorb result).fallback = state.fallback := by
  unfold absorb
  split <;> rfl

/-- A result of the other definite decision ends the fold, and any other result is
absorbed. -/
theorem take_eq (state : UnlessState) (result : EvaluationResult) :
    take state result =
      if decide (result.decision = state.fallback.otherDefinite) then .done result
      else .next (state.absorb result) := by
  simp only [take, absorb, decide_eq_true_eq]
  split_ifs <;> rfl

/-- Absorbing results one after another merges those of the fallback decision. -/
theorem foldl_absorb (state : UnlessState) (results : List EvaluationResult) :
    results.foldl absorb state =
      ⟨state.fallback, mergeAll state.collected (ofKind (· = state.fallback) results)⟩ := by
  induction results generalizing state with
  | nil => rfl
  | cons result rest inductionHypothesis =>
      rw [List.foldl_cons, inductionHypothesis, fallback_absorb]
      by_cases decided : result.decision = state.fallback
      · simp [absorb, ofKind, mergeAll, decided]
      · simp [absorb, ofKind, decided]

end UnlessState

/-- The result that a fallback decision leaves: the first result of the other definite
decision, or else what the results of the fallback decision are merged to, or the bare
fallback decision. -/
def settled (fallback : Decision) (results : List EvaluationResult) : EvaluationResult :=
  ((results.find? fun result => result.decision = fallback.otherDefinite)
    |>.or (merged? (ofKind (· = fallback) results))).getD (.ofDecision fallback)

/-- The merge of the results of the fallback decision answers for them. -/
theorem UnlessState.find?_getD_resolve
    (fallback : Decision)
    (results : List EvaluationResult) :
    (results.find? fun result => result.decision = fallback.otherDefinite).getD
      (results.foldl absorb (ofFallback fallback)).resolve = settled fallback results := by
  rw [foldl_absorb, settled, ← mergeAll_none]
  cases results.find? fun result => result.decision = fallback.otherDefinite <;> rfl

/-! ## The result -/

/-- Results that are not definite may be left out. -/
theorem settled_filter_isDefinite
    {fallback : Decision}
    (definite : fallback.isDefinite = true)
    (results : List EvaluationResult) :
    settled fallback (results.filter fun result => result.decision.isDefinite) =
      settled fallback results := by
  have first :
      ((results.filter fun result => result.decision.isDefinite).find? fun result =>
          result.decision = fallback.otherDefinite) =
        results.find? fun result => result.decision = fallback.otherDefinite := by
    rw [List.find?_filter]
    apply congrArg (List.find? · results)
    funext result
    by_cases decided : result.decision = fallback.otherDefinite
    · simp [decided, fallback.otherDefinite_isDefinite]
    · simp [decided]
  have merges :
      ofKind (· = fallback) (results.filter fun result => result.decision.isDefinite) =
        ofKind (· = fallback) results := by
    rw [ofKind, ofKind, List.filter_filter]
    apply List.filter_congr
    intro result _
    by_cases decided : result.decision = fallback
    · simp [decided, definite]
    · simp [decided]
  rw [settled, settled, first, merges]

/-- The other definite decision is decided exactly when some result decides it. -/
theorem decision_settled (results : List EvaluationResult) :
    (settled fallback results).decision =
      if fallback.otherDefinite ∈ results.map EvaluationResult.decision then
        fallback.otherDefinite
      else fallback := by
  rw [settled]
  cases found : results.find? fun result => result.decision = fallback.otherDefinite with
  | some result =>
      have decided : result.decision = fallback.otherDefinite := by
        simpa using List.find?_some found
      have occurs : fallback.otherDefinite ∈ results.map EvaluationResult.decision :=
        decided ▸ List.mem_map_of_mem (List.mem_of_find?_eq_some found)
      rw [if_pos occurs]
      exact decided
  | none =>
      have absent : fallback.otherDefinite ∉ results.map EvaluationResult.decision := by
        intro occurs
        obtain ⟨result, member, decided⟩ := List.mem_map.mp occurs
        simpa [decided] using List.find?_eq_none.mp found result member
      rw [if_neg absent, ← mergeAll_none]
      rcases mergeAll_ofDecision fallback results with
        ⟨isNone, _⟩ | ⟨merged, isMerged, decided, _⟩
      · rw [isNone]
        rfl
      · rw [isMerged]
        exact decided

namespace CombiningAlgorithm

/-- An algorithm with a fallback decision folds the results from that decision. -/
theorem combine_fallback
    {algorithm : CombiningAlgorithm}
    {fallback : Decision}
    (fallsBack : algorithm.fallback? = some fallback)
    (candidates : List Candidate) :
    algorithm.combine candidates =
      foldCandidates UnlessState.take UnlessState.resolve (.ofFallback fallback) candidates := by
  cases algorithm <;> cases fallsBack <;> rfl

theorem result_combine_fallback
    {algorithm : CombiningAlgorithm}
    {fallback : Decision}
    (fallsBack : algorithm.fallback? = some fallback)
    (candidates : List Candidate) :
    (algorithm.combine candidates).result =
      settled fallback (candidates.map Candidate.result) := by
  rw [combine_fallback fallsBack, ← UnlessState.find?_getD_resolve]
  exact foldResults_of_decisive UnlessState.take_eq
    (fun state result => by rw [UnlessState.fallback_absorb]) (.ofFallback fallback) candidates

theorem decision_combine_fallback
    {algorithm : CombiningAlgorithm}
    {fallback : Decision}
    (fallsBack : algorithm.fallback? = some fallback)
    (candidates : List Candidate) :
    (algorithm.combine candidates).result.decision =
      if fallback.otherDefinite ∈ candidates.map Candidate.decision then fallback.otherDefinite
      else fallback := by
  rw [result_combine_fallback fallsBack, decision_settled, List.map_map]
  rfl

/-- Children that are not definite may be left out. -/
theorem result_combine_filter_isDefinite
    {algorithm : CombiningAlgorithm}
    {fallback : Decision}
    (fallsBack : algorithm.fallback? = some fallback)
    (candidates : List Candidate) :
    (algorithm.combine (candidates.filter fun child => child.decision.isDefinite)).result =
      (algorithm.combine candidates).result := by
  have results :
      (candidates.filter fun child => child.decision.isDefinite).map Candidate.result =
        (candidates.map Candidate.result).filter fun result => result.decision.isDefinite := by
    rw [List.filter_map]
    rfl
  rw [result_combine_fallback fallsBack, results,
    settled_filter_isDefinite (isDefinite_of_fallback? fallsBack),
    ← result_combine_fallback fallsBack]

/-- An algorithm with a fallback decision answers the first result of the other
definite decision as it is, or else the merge of the results of the fallback decision,
or the bare fallback. Children that are not definite, those that fail among them,
contribute nothing. The decision is definite and does not depend on the order of the
children. -/
theorem result_combine_eq_settled
    {algorithm : CombiningAlgorithm}
    {fallback : Decision}
    (fallsBack : algorithm.fallback? = some fallback) :
    (∀ candidates : List Candidate,
      (algorithm.combine candidates).result =
          settled fallback (candidates.map Candidate.result) ∧
        (algorithm.combine (candidates.filter fun child => child.decision.isDefinite)).result =
          (algorithm.combine candidates).result ∧
        (algorithm.combine candidates).result.decision.isDefinite = true ∧
        ∀ reordered : List Candidate, reordered.Perm candidates →
          (algorithm.combine reordered).result.decision =
            (algorithm.combine candidates).result.decision) ∧
    (∀ (results : List EvaluationResult) (merged : EvaluationResult),
      merged? results = some merged → merged.IsMergeOf results) ∧
    ∀ (child : Candidate) (fault : Fault),
      child.outcome.get = .error fault → child.decision = .indeterminate := by
  refine ⟨fun candidates => ⟨result_combine_fallback fallsBack candidates,
    result_combine_filter_isDefinite fallsBack candidates, ?_, ?_⟩,
    fun _ _ => EvaluationResult.isMergeOf_of_merged?, ?_⟩
  · rw [decision_combine_fallback fallsBack]
    split
    · exact fallback.otherDefinite_isDefinite
    · exact isDefinite_of_fallback? fallsBack
  · intro reordered perm
    have occurs : fallback.otherDefinite ∈ reordered.map Candidate.decision ↔
        fallback.otherDefinite ∈ candidates.map Candidate.decision :=
      (perm.map Candidate.decision).mem_iff
    simp only [decision_combine_fallback fallsBack, occurs]
  · intro child fault failed
    rw [Candidate.decision, Candidate.result, failed]
    rfl

/-- Two denials that share an obligation around a child that fails and one that is
doubtful, and the same with a permit in the end. -/
theorem result_combine_eq_settled_of_sharedObligation :
    let answering (result : EvaluationResult) : Candidate := ⟨.pure .matched, .pure (.ok result)⟩
    let failing : Candidate := ⟨.pure .matched, .pure (.error (.evaluation "no key"))⟩
    let doubtful : Candidate :=
      answering ⟨.indeterminatePermit, .syntaxError "no date", [⟨"warn", []⟩], [], [], []⟩
    let logged : EvaluationResult := ⟨.deny, .ok, [⟨"log", []⟩, ⟨"mail", []⟩], [], [], []⟩
    let mailed : EvaluationResult := ⟨.deny, .ok, [⟨"mail", []⟩, ⟨"call", []⟩], [], [], []⟩
    let children := [answering logged, failing, doubtful, answering mailed]
    denyUnlessPermit.fallback? = some .deny ∧
    (denyUnlessPermit.combine children).result =
      ⟨.deny, .ok, [⟨"log", []⟩, ⟨"mail", []⟩, ⟨"call", []⟩], [], [], []⟩ ∧
    (denyUnlessPermit.combine (children.filter fun child => child.decision.isDefinite)).result =
      (denyUnlessPermit.combine children).result ∧
    (denyUnlessPermit.combine (children ++ [answering (.ofDecision .permit)])).result =
      .ofDecision .permit ∧
    (logged.merge mailed).obligations =
      (logged.obligations ++ mailed.obligations).eraseDups := by
  intro answering failing doubtful logged mailed children
  obtain ⟨settles, merges, -⟩ :=
    result_combine_eq_settled (show denyUnlessPermit.fallback? = some .deny from rfl)
  have isMerge := merges [logged, mailed] (logged.merge mailed) rfl
  have distinct : ∀ result ∈ [logged, mailed], result.Distinct := by
    intro result member
    rcases List.mem_pair.mp member with rfl | rfl
    · exact ⟨by unfold WithoutRepetition; decide, .nil, .nil, .nil⟩
    · exact ⟨by unfold WithoutRepetition; decide, .nil, .nil, .nil⟩
  exact ⟨rfl, (settles children).1.trans rfl, (settles children).2.1,
    (settles (children ++ [answering (.ofDecision .permit)])).1.trans rfl,
    isMerge.obligations distinct⟩

end CombiningAlgorithm
end PolicyDecision
