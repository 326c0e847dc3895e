import PolicyDecision.Proofs.Merge
import PolicyDecision.Proofs.Obligation

/-!
# What a merge absorbs

Merging a result again that a merge was made from leaves everything that is attached
as it is. The status is a single text, in which the earlier messages cannot be told
apart any more, so that it absorbs a repeated error only when the text is that error's
message, or when there is no message to be joined on.
-/

namespace PolicyDecision

/-! ## Statuses -/

namespace Status

theorem length_join (first second : String) :
    (first ++ "; " ++ second).length = first.length + 2 + second.length := by
  rw [String.length_append, String.length_append]
  rfl

theorem join_ne_left (first second : String) : first ++ "; " ++ second ≠ first := by
  intro same
  have length := congrArg String.length same
  rw [length_join] at length
  omega

theorem join_ne_right (first second : String) : first ++ "; " ++ second ≠ second := by
  intro same
  have length := congrArg String.length same
  rw [length_join] at length
  omega

/-- A message that is joined on stays out when there is none or it is the same. -/
theorem concat_eq_left_iff {held further : Status} :
    held.concat further = held ↔
      further.message = none ∨ further.message = held.message := by
  obtain ⟨code, message⟩ := held
  obtain ⟨otherCode, other⟩ := further
  cases message with
  | none => cases other <;> simp [concat]
  | some first =>
      cases other with
      | none => simp [concat]
      | some second =>
          by_cases same : first = second
          · simp [concat, same]
          · simp [concat, same, join_ne_left, Ne.symm same]

/-- Two errors with different messages. -/
def Clashes (first second : Status) : Prop :=
  first.isOk = false ∧ second.isOk = false ∧
    ∃ message ∈ first.message, ∃ other ∈ second.message, message ≠ other

theorem not_clashes_self (status : Status) : ¬status.Clashes status := by
  rintro ⟨-, -, message, isMessage, other, isOther, different⟩
  exact different (Option.some.inj (isMessage.symm.trans isOther))

/-- A joined text can only be the second message when nothing was joined to it. -/
theorem message_concat_iff {first second : Status} :
    second.message = none ∨ second.message = (first.concat second).message ↔
      ¬∃ message ∈ first.message, ∃ other ∈ second.message, message ≠ other := by
  cases firstMessage : first.message with
  | none => simp [concat, firstMessage]
  | some message =>
      cases secondMessage : second.message with
      | none => simp
      | some other =>
          by_cases same : message = other
          · simp [concat, firstMessage, secondMessage, same]
          · simp [concat, firstMessage, secondMessage, same, Ne.symm (join_ne_right message other)]

end Status

namespace EvaluationResult

/-- A status absorbs another one when that is a success, or when it is an error itself
and has the other message. -/
theorem mergeStatus_eq_left_iff {held further : Status} :
    mergeStatus held further = held ↔
      further.isOk = true ∨
        held.isOk = false ∧ (further.message = none ∨ further.message = held.message) := by
  cases furtherOk : further.isOk with
  | true => cases heldOk : held.isOk <;> simp [mergeStatus, furtherOk, heldOk]
  | false =>
      cases heldOk : held.isOk with
      | true =>
          have different : further ≠ held := by
            rintro rfl
            rw [furtherOk] at heldOk
            cases heldOk
          simp [mergeStatus, furtherOk, heldOk, different]
      | false =>
          by_cases same : held = further
          · subst same
            simp [mergeStatus, furtherOk]
          · simp [mergeStatus, furtherOk, heldOk, same, Status.concat_eq_left_iff]

/-- A status that was merged is absorbed unless its message was joined to another
one. -/
theorem mergeStatus_mergeStatus_iff {first second : Status} :
    mergeStatus (mergeStatus first second) second = mergeStatus first second ↔
      ¬first.Clashes second := by
  rw [mergeStatus_eq_left_iff]
  cases secondOk : second.isOk with
  | true => simp [Status.Clashes, secondOk]
  | false =>
      cases firstOk : first.isOk with
      | true => simp [Status.Clashes, mergeStatus, firstOk, secondOk]
      | false =>
          by_cases same : first = second
          · subst same
            simp [first.not_clashes_self, mergeStatus, firstOk]
          · have joined : mergeStatus first second = first.concat second := by
              simp [mergeStatus, firstOk, secondOk, same]
            have joinedOk : (first.concat second).isOk = false := by
              rw [Status.isOk, Status.code_concat]
              exact firstOk
            rw [joined, joinedOk, Status.message_concat_iff, Status.Clashes]
            simp only [firstOk, secondOk, Bool.false_eq_true, false_or, true_and]

/-! ## Results -/

/-- No value in what is attached to the result is the double that is not a number. -/
structure IsComparable (result : EvaluationResult) : Prop where
  obligations : ∀ obligation ∈ result.obligations, obligation.IsComparable
  advice : ∀ advice ∈ result.advice, advice.IsComparable

section Field

variable
  {α : Type} [BEq α]
  (field : EvaluationResult → List α)
  (union : ∀ first second : EvaluationResult,
    field (first.merge second) = unionWith (field first) (field second))

include union

/-- A merge holds the items of each of its results. -/
theorem contains_foldl_merge
    {first : EvaluationResult}
    {rest : List EvaluationResult}
    (reflexive : ∀ result ∈ first :: rest, ∀ item ∈ field result, (item == item) = true)
    {result : EvaluationResult}
    (member : result ∈ first :: rest) :
    ∀ item ∈ field result, (field (rest.foldl merge first)).contains item = true := by
  intro item occurs
  obtain ⟨firstReflexive, restReflexive⟩ := List.forall_mem_cons.mp reflexive
  rw [foldl_merge_eq_unionWith union]
  rcases List.mem_cons.mp member with rfl | later
  · apply contains_unionWith_of_contains
    exact List.contains_iff_exists_mem_beq.mpr ⟨item, occurs, firstReflexive item occurs⟩
  · apply contains_unionWith_of_mem
    · intro other inRest
      obtain ⟨source, isSource, isItem⟩ := List.mem_flatMap.mp inRest
      exact restReflexive source isSource other isItem
    · exact List.mem_flatMap.mpr ⟨result, later, occurs⟩

/-- A merge absorbs the items of each of its results. -/
theorem unionWith_foldl_merge
    {first : EvaluationResult}
    {rest : List EvaluationResult}
    (reflexive : ∀ result ∈ first :: rest, ∀ item ∈ field result, (item == item) = true)
    {result : EvaluationResult}
    (member : result ∈ first :: rest) :
    unionWith (field (rest.foldl merge first)) (field result) = field (rest.foldl merge first) :=
  unionWith_eq_self (contains_foldl_merge field union reflexive member)

end Field

section Merged

variable
  {results : List EvaluationResult}
  {merged : EvaluationResult}
  (isMerged : merged? results = some merged)

include isMerged

/-- A merge of results without repetitions has none. -/
theorem distinct_of_merged? (distinct : ∀ result ∈ results, result.Distinct) : merged.Distinct := by
  cases results with
  | nil => cases isMerged
  | cons first rest =>
      cases isMerged
      obtain ⟨obligations, advice, policies, policySets⟩ := distinct first List.mem_cons_self
      exact {
        obligations := withoutRepetition_foldl_merge (fun _ _ => rfl) obligations rest
        advice := withoutRepetition_foldl_merge (fun _ _ => rfl) advice rest
        policyIdentifiers := withoutRepetition_foldl_merge (fun _ _ => rfl) policies rest
        policySetIdentifiers := withoutRepetition_foldl_merge (fun _ _ => rfl) policySets rest }

/-- Merging a result again changes at most the status. -/
theorem merge_repeated
    (comparable : ∀ result ∈ results, result.IsComparable)
    {repeated : EvaluationResult}
    (member : repeated ∈ results) :
    merged.merge repeated =
      { merged with status := mergeStatus merged.status repeated.status } := by
  cases results with
  | nil => cases isMerged
  | cons first rest =>
      cases isMerged
      have obligations := unionWith_foldl_merge EvaluationResult.obligations (fun _ _ => rfl)
        (fun result isResult obligation occurs =>
          ((comparable result isResult).obligations obligation occurs).beq_self) member
      have advice := unionWith_foldl_merge EvaluationResult.advice (fun _ _ => rfl)
        (fun result isResult advice occurs =>
          ((comparable result isResult).advice advice occurs).beq_self) member
      have policies := unionWith_foldl_merge EvaluationResult.policyIdentifiers (fun _ _ => rfl)
        (fun _ _ identifier _ => beq_self_eq_true identifier) member
      have policySets := unionWith_foldl_merge EvaluationResult.policySetIdentifiers
        (fun _ _ => rfl) (fun _ _ identifier _ => beq_self_eq_true identifier) member
      rw [merge, obligations, advice, policies, policySets]

theorem merge_repeated_eq_iff_status
    (comparable : ∀ result ∈ results, result.IsComparable)
    {repeated : EvaluationResult}
    (member : repeated ∈ results) :
    merged.merge repeated = merged ↔
      mergeStatus merged.status repeated.status = merged.status := by
  rw [merge_repeated isMerged comparable member]
  exact ⟨congrArg EvaluationResult.status, fun same => by rw [same]⟩

/-- A result is absorbed when it is merged again, unless it is an error whose message is
not the whole text of the merged status. -/
theorem merge_repeated_eq_iff
    (comparable : ∀ result ∈ results, result.IsComparable)
    {repeated : EvaluationResult}
    (member : repeated ∈ results) :
    merged.merge repeated = merged ↔
      repeated.status.isOk = true ∨ repeated.status.message = none ∨
        repeated.status.message = merged.status.message := by
  rw [merge_repeated_eq_iff_status isMerged comparable member, mergeStatus_eq_left_iff]
  cases repeatedOk : repeated.status.isOk with
  | true => simp only [true_or]
  | false =>
      have failed : merged.status.isOk = false := by
        rw [Bool.eq_false_iff]
        intro isOk
        have each := (isMergeOf_of_merged? isMerged).isOk_iff.mp isOk repeated member
        rw [repeatedOk] at each
        cases each
      simp only [failed, Bool.false_eq_true, false_or, true_and]

end Merged

/-- A result absorbs itself, and a result that is merged into it twice is absorbed unless
the two are errors with different messages. A merge of any number of results without
repetitions has none and absorbs whatever is attached to its results. It also absorbs
their statuses, except an error whose message has been joined to another one: that
message is joined on once more. -/
theorem merge_absorbs_iff
    (first second : EvaluationResult)
    (rest : List EvaluationResult)
    (comparable : ∀ result ∈ first :: second :: rest, result.IsComparable) :
    first.merge first = first ∧
    ((first.merge second).merge second = first.merge second ↔
      ¬first.status.Clashes second.status) ∧
    ∀ merged, merged? (first :: second :: rest) = some merged →
      ((∀ result ∈ first :: second :: rest, result.Distinct) → merged.Distinct) ∧
      ∀ repeated ∈ first :: second :: rest,
        merged.merge repeated =
            { merged with status := mergeStatus merged.status repeated.status } ∧
          (merged.merge repeated = merged ↔
            repeated.status.isOk = true ∨ repeated.status.message = none ∨
              repeated.status.message = merged.status.message) := by
  obtain ⟨firstComparable, later⟩ := List.forall_mem_cons.mp comparable
  have secondComparable : second.IsComparable := later second List.mem_cons_self
  refine ⟨?_, ?_, ?_⟩
  · have each : ∀ result ∈ [first], result.IsComparable :=
      List.forall_mem_singleton.mpr firstComparable
    exact (merge_repeated_eq_iff rfl each List.mem_cons_self).mpr (.inr (.inr rfl))
  · have each : ∀ result ∈ [first, second], result.IsComparable :=
      List.forall_mem_cons.mpr
        ⟨firstComparable, List.forall_mem_singleton.mpr secondComparable⟩
    have isMerged : merged? [first, second] = some (first.merge second) := rfl
    have member : second ∈ [first, second] := List.mem_cons_of_mem _ List.mem_cons_self
    rw [← mergeStatus_mergeStatus_iff]
    exact merge_repeated_eq_iff_status isMerged each member
  · intro merged isMerged
    refine ⟨distinct_of_merged? isMerged, ?_⟩
    intro repeated member
    exact ⟨merge_repeated isMerged comparable member,
      merge_repeated_eq_iff isMerged comparable member⟩

/-- A missing attribute and a missing key that share an obligation. -/
theorem merge_absorbs_iff_of_missingAttribute :
    let missing : EvaluationResult :=
      ⟨.indeterminateDeny, .missingAttribute "no subject", [⟨"log", []⟩], [], [], []⟩
    let failed : EvaluationResult :=
      ⟨.indeterminateDeny, .processingError "no key", [⟨"mail", []⟩, ⟨"log", []⟩], [], [], []⟩
    let merged := missing.merge failed
    (∀ result ∈ [missing, failed], result.IsComparable) ∧
    (∀ result ∈ [missing, failed], result.Distinct) ∧
    missing.merge missing = missing ∧
    (merged.merge failed = merged ↔ ¬missing.status.Clashes failed.status) ∧
    merged.Distinct ∧
    merged.merge failed = { merged with status := mergeStatus merged.status failed.status } := by
  intro missing failed merged
  have unassigned : ∀ obligation ∈ [Obligation.mk "mail" [], ⟨"log", []⟩],
      obligation.IsComparable :=
    List.forall_mem_cons.mpr
      ⟨List.forall_mem_nil _, List.forall_mem_singleton.mpr (List.forall_mem_nil _)⟩
  have comparable : ∀ result ∈ [missing, failed], result.IsComparable :=
    List.forall_mem_cons.mpr
      ⟨⟨(List.forall_mem_cons.mp unassigned).2, List.forall_mem_nil _⟩,
        List.forall_mem_singleton.mpr ⟨unassigned, List.forall_mem_nil _⟩⟩
  have distinct : ∀ result ∈ [missing, failed], result.Distinct :=
    List.forall_mem_cons.mpr
      ⟨⟨by unfold WithoutRepetition; decide, .nil, .nil, .nil⟩,
        List.forall_mem_singleton.mpr ⟨by unfold WithoutRepetition; decide, .nil, .nil, .nil⟩⟩
  obtain ⟨itself, again, ofMerge⟩ := merge_absorbs_iff missing failed [] comparable
  obtain ⟨distinctMerge, repeats⟩ := ofMerge merged rfl
  have member : failed ∈ [missing, failed] := List.mem_cons_of_mem _ List.mem_cons_self
  exact ⟨comparable, distinct, itself, again, distinctMerge distinct, (repeats failed member).1⟩

/-- A message that has been joined to another one is joined on again. -/
theorem merge_merge_ne_of_clash :
    let missing := withStatus .indeterminateDeny (.missingAttribute "no subject")
    let failed := processingError .indeterminateDeny "no key"
    (missing.IsComparable ∧ missing.Distinct) ∧ (failed.IsComparable ∧ failed.Distinct) ∧
    (missing.merge failed).status.message = some "no subject; no key" ∧
    ((missing.merge failed).merge failed).status.message =
      some "no subject; no key; no key" ∧
    (missing.merge failed).merge failed ≠ missing.merge failed := by
  intro missing failed
  have bare (decision : Decision) (status : Status) :
      (withStatus decision status).IsComparable ∧ (withStatus decision status).Distinct :=
    ⟨⟨List.forall_mem_nil _, List.forall_mem_nil _⟩, .nil, .nil, .nil, .nil⟩
  refine ⟨bare _ _, bare _ _, by decide, by decide, ?_⟩
  intro same
  exact absurd (congrArg (·.status.message) same) (by decide)

end EvaluationResult
end PolicyDecision
