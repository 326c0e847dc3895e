import PolicyDecision.Engine.Basic
import PolicyDecision.Proofs.Itemwise

/-!
# Evaluation of individual requests

Every individual request gets one result, in order, whatever its share. As long
as no evaluation breaks off, the result is that of the individual request on its
own, and the division into shares leaves no trace.
-/

namespace PolicyDecision
namespace Engine

variable {engine : Engine}

/-- No root that a context finds for the individual request breaks off. -/
def Completes (engine : Engine) (individual : IndividualRequest) : Prop :=
  ∀ context, engine.contextFor individual = .ok (some context) →
    context.root.root ≠ some .brokenOff

/-- The evaluation of the individual requests gives an answer: always when several of them are
evaluated in parallel, and otherwise when none of their evaluations breaks off. -/
def Returns (engine : Engine) (individuals : List IndividualRequest) : Prop :=
  (engine.configuration.parallelEvaluation = true ∧ 2 ≤ individuals.length) ∨
    ∀ individual ∈ individuals, (engine.decideIndividual individual).isSome

/-- The result of an individual request on its own. -/
def resultOf (engine : Engine) (individual : IndividualRequest) : DecisionResult :=
  (engine.decideIndividual individual).getD (.ofStatus evaluationBrokeOff)

/-- An individual request whose evaluation completes has its result. -/
theorem Completes.decideIndividual_eq
    {individual : IndividualRequest}
    (completes : engine.Completes individual) :
    engine.decideIndividual individual = some (engine.resultOf individual) := by
  have decided : engine.decideIndividual individual ≠ none := by
    unfold decideIndividual
    split
    · split
      · rename_i context isContext
        unfold decideInContext
        split
        · split
          · exact Option.some_ne_none _
          · exact Option.some_ne_none _
          · exact Option.some_ne_none _
          · rename_i brokenOff
            exact absurd brokenOff (completes context isContext)
        · exact Option.some_ne_none _
      · exact Option.some_ne_none _
      · exact Option.some_ne_none _
    · exact Option.some_ne_none _
  obtain ⟨result, isResult⟩ := Option.ne_none_iff_exists'.mp decided
  rw [resultOf, isResult, Option.getD_some]

/-! ## Shares -/

theorem workerResults_eq_map
    {share : List IndividualRequest}
    (completes : ∀ individual ∈ share, engine.Completes individual) :
    engine.workerResults share = share.map engine.resultOf := by
  have computed : share.mapM engine.decideIndividual = some (share.map engine.resultOf) := by
    rw [mapM_eq_some_iff, List.forall₂_map_right_iff, List.forall₂_same]
    exact fun individual member => (completes individual member).decideIndividual_eq
  rw [workerResults, computed, Option.getD_some]

@[simp] theorem workerResults_singleton (engine : Engine) (individual : IndividualRequest) :
    engine.workerResults [individual] = [engine.resultOf individual] := by
  unfold workerResults resultOf
  cases decided : engine.decideIndividual individual <;> simp [decided]

@[simp] theorem length_workerResults (engine : Engine) (share : List IndividualRequest) :
    (engine.workerResults share).length = share.length := by
  unfold workerResults
  cases computed : share.mapM engine.decideIndividual with
  | none => simp
  | some results => simp [(mapM_eq_some_iff.mp computed).length_eq]

/-! ## All individual requests -/

/-- Without an evaluation that breaks off, each individual request has its own
result. -/
theorem evaluateAll_eq_map
    {individuals : List IndividualRequest}
    (completes : ∀ individual ∈ individuals, engine.Completes individual) :
    engine.evaluateAll individuals = individuals.map engine.resultOf := by
  let size := engine.shareSize individuals.length
  have parts : (chunksOf size individuals).flatten = individuals :=
    flatten_chunksOf size individuals
  have perShare : ∀ share ∈ chunksOf size individuals,
      engine.workerResults share = share.map engine.resultOf := by
    intro share isShare
    refine workerResults_eq_map fun individual member => completes individual ?_
    rw [← parts]
    exact List.mem_flatten_of_mem isShare member
  calc engine.evaluateAll individuals
      = ((chunksOf size individuals).map engine.workerResults).flatten := by
        rw [evaluateAll, List.flatMap_def]
    _ = ((chunksOf size individuals).map fun share => share.map engine.resultOf).flatten := by
        rw [List.map_congr_left perShare]
    _ = (chunksOf size individuals).flatten.map engine.resultOf := by rw [List.map_flatten]
    _ = individuals.map engine.resultOf := by rw [parts]

@[simp] theorem evaluateAll_singleton (engine : Engine) (individual : IndividualRequest) :
    engine.evaluateAll [individual] = [engine.resultOf individual] := by
  simp [evaluateAll, chunksOf]

@[simp] theorem length_evaluateAll (engine : Engine) (individuals : List IndividualRequest) :
    (engine.evaluateAll individuals).length = individuals.length := by
  have parts := flatten_chunksOf (engine.shareSize individuals.length) individuals
  conv_rhs => rw [← parts]
  simp [evaluateAll, List.length_flatMap, List.length_flatten]

/-! ## Responses -/

/-- The request is readable and is split into individual requests. -/
structure SplitsInto
    (engine : Engine)
    (request : Request)
    (individuals : List IndividualRequest) : Prop where
  readable : request.status.isOk = true
  split : engine.split request = .ok individuals
  nonempty : individuals ≠ []

/-- A request is taken in exactly when it splits into individual requests. -/
theorem intake_eq_ok_iff
    {request : Request}
    {individuals : List IndividualRequest} :
    engine.intake request = .ok individuals ↔ engine.SplitsInto request individuals := by
  constructor
  · intro taken
    unfold intake at taken
    split at taken
    · rename_i readable
      split at taken
      · cases taken
      · cases taken
      · rename_i first rest split
        cases taken
        exact ⟨readable, split, List.cons_ne_nil first rest⟩
    · cases taken
  · rintro ⟨readable, split, nonempty⟩
    rw [intake, readable, split]
    cases individuals with
    | nil => exact absurd rfl nonempty
    | cons first rest => rfl

/-- A request that does not split is rejected at intake. -/
theorem exists_intake_error
    {request : Request}
    (unsplit : ∀ individuals, ¬engine.SplitsInto request individuals) :
    ∃ status, engine.intake request = .error status := by
  cases intake : engine.intake request with
  | error status => exact ⟨status, rfl⟩
  | ok individuals => exact absurd (intake_eq_ok_iff.mp intake) (unsplit individuals)

theorem results_of_intake_error
    {request : Request}
    {status : Status}
    (rejected : engine.intake request = .error status) :
    (engine.decide request).results = [.ofStatus status] := by
  rw [decide, rejected]
  rfl

/-- A response that is not combined holds the results of all individual
requests. -/
theorem SplitsInto.results
    {request : Request}
    {individuals : List IndividualRequest}
    (splits : engine.SplitsInto request individuals)
    (separate : request.combinedDecision = false) :
    (engine.decide request).results = engine.evaluateAll individuals := by
  simp [decide, intake_eq_ok_iff.mpr splits, separate]

end Engine
end PolicyDecision
