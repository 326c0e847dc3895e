import PolicyDecision.Engine.CombinedDecision
import PolicyDecision.Proofs.Union

/-!
# Agreement of individual decisions

The combined decision is the decision that all individual results count with, or an
error once two of them differ: a mismatch is never made up for by what comes after
it. Only the decision survives a change of the order; the status is that of the
first result, and what is collected stands in the order in which it is seen first.
-/

namespace PolicyDecision
namespace CombinedDecision

/-! ## Counted decisions -/

/-- The decision and the status that an individual result counts with: results with
advice or obligations are errors, all others count as they are. -/
inductive CountsAs (individual : DecisionResult) : Decision → Status → Prop
  | advice :
      individual.advice ≠ [] →
        CountsAs individual .indeterminate
          (.processingError "Advice not allowed in combined decision")
  | obligations :
      individual.advice = [] → individual.obligations ≠ [] →
        CountsAs individual .indeterminate
          (.processingError "Obligations not allowed in combined decision")
  | itself :
      individual.advice = [] → individual.obligations = [] →
        CountsAs individual individual.decision individual.status

theorem countsAs_iff
    {individual : DecisionResult}
    {decision : Decision}
    {status : Status} :
    CountsAs individual decision status ↔ counted individual = (decision, status) := by
  unfold counted
  constructor
  · intro counts
    cases counts with
    | advice present => simp [present, adviceNotAllowed]
    | obligations absent present => simp [absent, present, obligationsNotAllowed]
    | itself noAdvice noObligations => simp [noAdvice, noObligations]
  · intro same
    split at same
    · rename_i present
      cases same
      exact .advice (by simpa using present)
    · rename_i absent
      split at same
      · rename_i present
        cases same
        exact .obligations (by simpa using absent) (by simpa using present)
      · rename_i noObligations
        cases same
        exact .itself (by simpa using absent) (by simpa using noObligations)

/-- The results count with one decision. -/
def AllCountAs (decision : Decision) (results : List DecisionResult) : Prop :=
  ∀ individual ∈ results, ∃ status, CountsAs individual decision status

theorem allCountAs_iff {decision : Decision} {results : List DecisionResult} :
    AllCountAs decision results ↔ ∀ individual ∈ results, (counted individual).1 = decision := by
  simp [AllCountAs, countsAs_iff, Prod.ext_iff]

/-! ## The running decision -/

/-- The decision and the status of results that count with the given ones. -/
def verdict (first : Decision × Status) (rest : List (Decision × Status)) : Decision × Status :=
  if ∀ other ∈ rest, other.1 = first.1 then first else (.indeterminate, decisionsDoNotMatch)

/-- One more result leaves a common decision if it counts with it. Once there is a
mismatch, it stays, also when a result counts as indeterminate like the mismatch. -/
theorem verdict_concat
    (first : Decision × Status)
    (rest : List (Decision × Status))
    (next : Decision × Status) :
    verdict first (rest ++ [next]) =
      if (verdict first rest).1 = next.1 then verdict first rest
      else (.indeterminate, decisionsDoNotMatch) := by
  by_cases agreed : ∀ other ∈ rest, other.1 = first.1
  · have before : verdict first rest = first := if_pos agreed
    rw [before]
    by_cases same : first.1 = next.1
    · rw [if_pos same, verdict, if_pos]
      intro other member
      rcases List.mem_append.mp member with earlier | last
      · exact agreed other earlier
      · rw [List.mem_singleton.mp last, same]
    · rw [if_neg same, verdict, if_neg]
      intro all
      exact same (all next (List.mem_append_right _ List.mem_cons_self)).symm
  · have before : verdict first rest = (.indeterminate, decisionsDoNotMatch) := if_neg agreed
    rw [before, ite_self, verdict, if_neg]
    exact fun all => agreed fun other member => all other (List.mem_append_left _ member)

/-- The combined result of a first individual result and the ones after it. -/
def combination (first : DecisionResult) (rest : List DecisionResult) : DecisionResult where
  decision := (verdict (counted first) (rest.map counted)).1
  status := (verdict (counted first) (rest.map counted)).2
  obligations := []
  advice := []
  policyIdentifiers := ((first :: rest).flatMap DecisionResult.policyIdentifiers).eraseDups
  policySetIdentifiers := ((first :: rest).flatMap DecisionResult.policySetIdentifiers).eraseDups
  attributes := ((first :: rest).flatMap DecisionResult.attributes).eraseDups

/-- What a result adds to what has been collected from the results before it. -/
theorem unionWith_eraseDups_flatMap
    {α : Type} [BEq α]
    (field : DecisionResult → List α)
    (earlier : List DecisionResult)
    (next : DecisionResult) :
    unionWith (earlier.flatMap field).eraseDups (field next) =
      ((earlier ++ [next]).flatMap field).eraseDups := by
  rw [List.flatMap_append, List.flatMap_singleton, ← unionWith_nil_eq_eraseDups,
    ← unionWith_nil_eq_eraseDups, unionWith_append]

theorem accumulate_none (first : DecisionResult) :
    accumulate none first = some (combination first []) := by
  simp only [combination, List.flatMap_singleton, ← unionWith_nil_eq_eraseDups]
  rfl

theorem accumulate_combination
    (first : DecisionResult)
    (rest : List DecisionResult)
    (next : DecisionResult) :
    accumulate (some (combination first rest)) next =
      some (combination first (rest ++ [next])) := by
  have decided := verdict_concat (counted first) (rest.map counted) (counted next)
  rw [← List.map_singleton, ← List.map_append] at decided
  simp only [combination, decided, ← List.cons_append, ← unionWith_eraseDups_flatMap]
  unfold accumulate agree
  dsimp only
  split <;> rfl

theorem foldl_accumulate_combination
    (first : DecisionResult)
    (earlier later : List DecisionResult) :
    later.foldl accumulate (some (combination first earlier)) =
      some (combination first (earlier ++ later)) := by
  induction later generalizing earlier with
  | nil => rw [List.foldl_nil, List.append_nil]
  | cons next later inductionHypothesis =>
      rw [List.foldl_cons, accumulate_combination, inductionHypothesis, List.append_assoc,
        List.singleton_append]

/-- Individual results are combined one after the other. -/
theorem combine_cons (first : DecisionResult) (rest : List DecisionResult) :
    combine (first :: rest) = some (combination first rest) := by
  rw [combine, List.foldl_cons, accumulate_none, foldl_accumulate_combination, List.nil_append]

/-! ## The combined result -/

/-- The combined result of individual results. -/
structure IsCombinationOf
    (combined : DecisionResult)
    (results : List DecisionResult) : Prop where
  agreed : ∀ decision, AllCountAs decision results →
    combined.decision = decision ∧
      ∀ first ∈ results.head?, CountsAs first decision combined.status
  differing : (¬∃ decision, AllCountAs decision results) →
    combined.decision = .indeterminate ∧
      combined.status = .processingError "Individual decisions do not match"
  obligations : combined.obligations = []
  advice : combined.advice = []
  policyIdentifiers :
    combined.policyIdentifiers = (results.flatMap DecisionResult.policyIdentifiers).eraseDups
  policySetIdentifiers :
    combined.policySetIdentifiers = (results.flatMap DecisionResult.policySetIdentifiers).eraseDups
  attributes : combined.attributes = (results.flatMap DecisionResult.attributes).eraseDups

theorem combination_isCombinationOf (first : DecisionResult) (rest : List DecisionResult) :
    IsCombinationOf (combination first rest) (first :: rest) := by
  refine ⟨fun decision agree => ?_, fun differ => ?_, rfl, rfl, rfl, rfl, rfl⟩
  · obtain ⟨firstCounts, restCounts⟩ := List.forall_mem_cons.mp (allCountAs_iff.mp agree)
    have decided : verdict (counted first) (rest.map counted) = counted first := by
      refine if_pos (List.forall_mem_map.mpr fun other member => ?_)
      rw [firstCounts, restCounts other member]
    refine ⟨(congrArg Prod.fst decided).trans firstCounts, fun head isHead => ?_⟩
    cases isHead
    exact countsAs_iff.mpr (Prod.ext firstCounts (congrArg Prod.snd decided).symm)
  · have decided : verdict (counted first) (rest.map counted) =
        (.indeterminate, decisionsDoNotMatch) := by
      refine if_neg fun same => differ ⟨(counted first).1, allCountAs_iff.mpr ?_⟩
      exact List.forall_mem_cons.mpr ⟨rfl, List.forall_mem_map.mp same⟩
    exact ⟨congrArg Prod.fst decided, congrArg Prod.snd decided⟩

/-- The decision does not depend on the order of the results. -/
theorem IsCombinationOf.decision_eq_of_perm
    {combined other : DecisionResult}
    {results rearranged : List DecisionResult}
    (isCombination : IsCombinationOf combined results)
    (otherIsCombination : IsCombinationOf other rearranged)
    (same : rearranged.Perm results) : other.decision = combined.decision := by
  have allCountAs_iff_of_perm (decision : Decision) :
      AllCountAs decision rearranged ↔ AllCountAs decision results :=
    forall_congr' fun individual => by rw [same.mem_iff]
  by_cases agreed : ∃ decision, AllCountAs decision results
  · obtain ⟨decision, agree⟩ := agreed
    rw [(isCombination.agreed decision agree).1,
      (otherIsCombination.agreed decision ((allCountAs_iff_of_perm decision).mpr agree)).1]
  · rw [(isCombination.differing agreed).1, (otherIsCombination.differing ?_).1]
    simpa only [allCountAs_iff_of_perm] using agreed

/-- Individual results are combined into their common decision or into an error, with
the identifiers and attributes of all of them. The decision is the same in any order
of the results. -/
theorem combine_isCombinationOf
    {results : List DecisionResult}
    (nonempty : results ≠ []) :
    ∃ combined, combine results = some combined ∧ IsCombinationOf combined results ∧
      ∀ rearranged : List DecisionResult, rearranged.Perm results →
        (combine rearranged).map DecisionResult.decision = some combined.decision := by
  obtain ⟨first, rest, rfl⟩ := List.exists_cons_of_ne_nil nonempty
  refine ⟨_, combine_cons first rest, combination_isCombinationOf first rest, ?_⟩
  intro rearranged same
  obtain ⟨front, others, rfl⟩ := List.exists_cons_of_ne_nil fun isEmpty : rearranged = [] =>
    nonempty (List.nil_perm.mp (isEmpty ▸ same))
  rw [combine_cons, Option.map_some,
    (combination_isCombinationOf first rest).decision_eq_of_perm
      (combination_isCombinationOf front others) same]

/-- A permit with an obligation between two errors counts as an error too, so there is
a common decision, with the status of the first error; a plain permit does not match,
and a later error does not make up for it. -/
theorem combine_isCombinationOf_of_obligation :
    let policy (id : String) : List PolicyIdentifier := [⟨id, none⟩]
    let missing : DecisionResult :=
      ⟨.indeterminate, .missingAttribute "no subject", [], [], policy "a", [], []⟩
    let obliged : DecisionResult := ⟨.permit, .ok, [⟨"log", []⟩], [], policy "b", [], []⟩
    let plain : DecisionResult := ⟨.permit, .ok, [], [], policy "a", [], []⟩
    (∃ combined, combine [missing, obliged, missing] = some combined ∧
      combined.decision = .indeterminate ∧ combined.status = .missingAttribute "no subject" ∧
      combined.policyIdentifiers = [⟨"a", none⟩, ⟨"b", none⟩]) ∧
    ∃ combined, combine [plain, missing, missing] = some combined ∧
      combined.decision = .indeterminate ∧
      combined.status = .processingError "Individual decisions do not match" := by
  intro policy missing obliged plain
  obtain ⟨errors, isErrors, areErrors, -⟩ :=
    combine_isCombinationOf (List.cons_ne_nil missing [obliged, missing])
  obtain ⟨mixed, isMixed, areMixed, -⟩ :=
    combine_isCombinationOf (List.cons_ne_nil plain [missing, missing])
  have agreed : AllCountAs .indeterminate [missing, obliged, missing] := by
    rw [allCountAs_iff]
    decide
  have differ : ¬∃ decision, AllCountAs decision [plain, missing, missing] := by
    rintro ⟨decision, agree⟩
    have counts := allCountAs_iff.mp agree
    have permits : Decision.permit = decision := counts plain List.mem_cons_self
    have fails : Decision.indeterminate = decision :=
      counts missing (List.mem_cons_of_mem _ List.mem_cons_self)
    rw [← permits] at fails
    cases fails
  obtain ⟨decision, status⟩ := areErrors.agreed _ agreed
  have first := countsAs_iff.mp (status missing rfl)
  refine ⟨⟨errors, isErrors, decision, ?_, areErrors.policyIdentifiers.trans (by decide)⟩,
    mixed, isMixed, areMixed.differing differ⟩
  exact (Prod.mk.inj first).2.symm

end CombinedDecision
end PolicyDecision
