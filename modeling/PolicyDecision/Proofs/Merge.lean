import PolicyDecision.Proofs.Union

/-!
# Merged results

Results are merged from left to right. A merge takes the first decision, the code of
the first error and everything that is attached to its results, each item once.
-/

namespace PolicyDecision

/-- The results merged from left to right, if there are any. -/
def merged? : List EvaluationResult → Option EvaluationResult
  | [] => none
  | first :: rest => some (rest.foldl EvaluationResult.merge first)

theorem Status.isOk_iff (status : Status) : status.isOk = true ↔ status.code = .ok :=
  beq_iff_eq

namespace EvaluationResult

/-- No list of the result has a repetition. -/
structure Distinct (result : EvaluationResult) : Prop where
  obligations : WithoutRepetition result.obligations
  advice : WithoutRepetition result.advice
  policyIdentifiers : WithoutRepetition result.policyIdentifiers
  policySetIdentifiers : WithoutRepetition result.policySetIdentifiers

/-- What a result takes from the results that it is merged from. -/
structure IsMergeOf (merged : EvaluationResult) (results : List EvaluationResult) : Prop where
  /-- The decision is that of the first result. -/
  decision : results.head?.map EvaluationResult.decision = some merged.decision
  /-- It is a success exactly when all of them are. -/
  isOk_iff : merged.status.isOk = true ↔ ∀ result ∈ results, result.status.isOk = true
  /-- The code of an error is that of the first error. -/
  code : merged.status.code =
    ((results.map fun result => result.status.code).find? (· ≠ .ok)).getD .ok
  /-- It has the obligations of all of them, each once. -/
  obligations : (∀ result ∈ results, result.Distinct) →
    merged.obligations = (results.flatMap EvaluationResult.obligations).eraseDups
  /-- It has the advice of all of them, each once. -/
  advice : (∀ result ∈ results, result.Distinct) →
    merged.advice = (results.flatMap EvaluationResult.advice).eraseDups
  /-- It has the policies of all of them, each once. -/
  policyIdentifiers : (∀ result ∈ results, result.Distinct) →
    merged.policyIdentifiers = (results.flatMap EvaluationResult.policyIdentifiers).eraseDups
  /-- It has the policy sets of all of them, each once. -/
  policySetIdentifiers : (∀ result ∈ results, result.Distinct) →
    merged.policySetIdentifiers =
      (results.flatMap EvaluationResult.policySetIdentifiers).eraseDups

/-- The code of the first of two statuses is kept if it is that of an error. -/
theorem code_mergeStatus (first second : Status) :
    (mergeStatus first second).code = if first.isOk then second.code else first.code := by
  unfold mergeStatus
  cases isFirst : first.isOk with
  | true =>
      cases isSecond : second.isOk with
      | true =>
          have firstCode := (Status.isOk_iff first).mp isFirst
          have secondCode := (Status.isOk_iff second).mp isSecond
          simp only [if_true, firstCode, secondCode]
      | false => rfl
  | false =>
      simp only [Bool.false_eq_true, if_false]
      split
      · rfl
      · exact Status.code_concat first second

theorem decision_foldl_merge (first : EvaluationResult) (rest : List EvaluationResult) :
    (rest.foldl merge first).decision = first.decision := by
  induction rest generalizing first with
  | nil => rfl
  | cons result rest inductionHypothesis => exact inductionHypothesis (first.merge result)

/-- A merge has the code of the first error, or of a success if there is none. -/
theorem code_foldl_merge (first : EvaluationResult) (rest : List EvaluationResult) :
    (rest.foldl merge first).status.code =
      (((first :: rest).map fun result => result.status.code).find? (· ≠ .ok)).getD .ok := by
  induction rest generalizing first with
  | nil => cases code : first.status.code <;> simp [code]
  | cons result rest inductionHypothesis =>
      have merged : (first.merge result).status.code =
          if first.status.isOk then result.status.code else first.status.code :=
        code_mergeStatus first.status result.status
      rw [List.foldl_cons, inductionHypothesis]
      simp only [List.map_cons, List.find?_cons, merged]
      cases code : first.status.code <;> simp only [Status.isOk, code] <;> rfl

theorem find?_getD_eq_ok_iff (codes : List StatusCode) :
    (codes.find? (· ≠ .ok)).getD .ok = .ok ↔ ∀ code ∈ codes, code = .ok := by
  cases found : codes.find? (· ≠ .ok) with
  | none => simpa using List.find?_eq_none.mp found
  | some code =>
      have failed : code ≠ .ok := by simpa using List.find?_some found
      exact iff_of_false failed fun each => failed (each code (List.mem_of_find?_eq_some found))

section Union

variable
  {α : Type} [BEq α]
  {field : EvaluationResult → List α}
  (union : ∀ first second : EvaluationResult,
    field (first.merge second) = unionWith (field first) (field second))

include union

theorem foldl_merge_eq_unionWith (first : EvaluationResult) (rest : List EvaluationResult) :
    field (rest.foldl merge first) = unionWith (field first) (rest.flatMap field) := by
  induction rest generalizing first with
  | nil => rfl
  | cons result rest inductionHypothesis =>
      rw [List.foldl_cons, inductionHypothesis, union, List.flatMap_cons, unionWith_append]

/-- A list that each merge takes the union of has in the end the items of all
results, each once, when the first result has none twice. -/
theorem foldl_merge_eq_eraseDups
    {first : EvaluationResult}
    (distinct : WithoutRepetition (field first))
    (rest : List EvaluationResult) :
    field (rest.foldl merge first) = ((first :: rest).flatMap field).eraseDups := by
  rw [foldl_merge_eq_unionWith union, List.flatMap_cons, ← unionWith_nil_eq_eraseDups,
    unionWith_append, unionWith_nil_eq_eraseDups, distinct.eraseDups_eq]

/-- A list that each merge takes the union of has no repetition when that of the first
result has none. -/
theorem withoutRepetition_foldl_merge
    {first : EvaluationResult}
    (distinct : WithoutRepetition (field first))
    (rest : List EvaluationResult) : WithoutRepetition (field (rest.foldl merge first)) := by
  rw [foldl_merge_eq_unionWith union]
  exact distinct.unionWith _

end Union

/-- A merge from left to right takes from its results what it should. -/
theorem isMergeOf_of_merged?
    {results : List EvaluationResult}
    {merged : EvaluationResult}
    (isMerged : merged? results = some merged) : merged.IsMergeOf results := by
  cases results with
  | nil => cases isMerged
  | cons first rest =>
      cases isMerged
      have code := code_foldl_merge first rest
      have distinct (each : ∀ result ∈ first :: rest, result.Distinct) : first.Distinct :=
        each first List.mem_cons_self
      exact {
        decision := by rw [decision_foldl_merge, List.head?_cons, Option.map_some]
        isOk_iff := by
          rw [Status.isOk_iff, code, find?_getD_eq_ok_iff, List.forall_mem_map]
          simp only [Status.isOk_iff]
        code := code
        obligations := fun each =>
          foldl_merge_eq_eraseDups (fun _ _ => rfl) (distinct each).obligations rest
        advice := fun each =>
          foldl_merge_eq_eraseDups (fun _ _ => rfl) (distinct each).advice rest
        policyIdentifiers := fun each =>
          foldl_merge_eq_eraseDups (fun _ _ => rfl) (distinct each).policyIdentifiers rest
        policySetIdentifiers := fun each =>
          foldl_merge_eq_eraseDups (fun _ _ => rfl) (distinct each).policySetIdentifiers rest }

end EvaluationResult

end PolicyDecision
