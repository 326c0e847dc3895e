import PolicyDecision.Proofs.Engine.CategoryProduct
import PolicyDecision.Proofs.Engine.Evaluation

/-!
# Splitting before deciding

An individual request has one category for each identifier, so splitting it
again leaves it as it is. A request is therefore decided as its individual
requests are, each sent as a request of its own.
-/

namespace PolicyDecision

/-- A choice from groups that are apart has distinct identifiers. -/
theorem distinct_of_forall₂_mem
    {choice : List AttributeCategory}
    {groups : List (List AttributeCategory)}
    (chosen : List.Forall₂ (· ∈ ·) choice groups)
    (apart : groups.Pairwise Apart) :
    choice.Pairwise fun first second => first.category ≠ second.category := by
  induction chosen with
  | nil => exact .nil
  | cons inGroup restChosen inductionHypothesis =>
      obtain ⟨groupApart, restApart⟩ := List.pairwise_cons.mp apart
      refine List.pairwise_cons.mpr ⟨fun other isOther => ?_, inductionHypothesis restApart⟩
      obtain ⟨group, isGroup, inOther⟩ := exists_of_forall₂_of_mem restChosen.flip isOther
      exact groupApart group isGroup _ inGroup other inOther

/-! ## Individual requests -/

/-- An individual request sent as a request of its own. -/
def IndividualRequest.toRequest (individual : IndividualRequest) : Request :=
  ⟨individual.status, false, individual.categories⟩

namespace Request

/-- An individual request of a request has one category for each identifier. -/
theorem distinct_of_mem_split
    {request : Request}
    {individual : IndividualRequest}
    (member : individual ∈ request.split) :
    individual.categories.Pairwise fun first second => first.category ≠ second.category := by
  obtain ⟨choice, isChoice, rfl⟩ := List.mem_map.mp member
  exact distinct_of_forall₂_mem (mem_choices_iff.mp isChoice)
    (pairwise_apart_groupCategories request.categories)

theorem status_of_mem_split
    {request : Request}
    {individual : IndividualRequest}
    (member : individual ∈ request.split) : individual.status = request.status := by
  obtain ⟨choice, -, rfl⟩ := List.mem_map.mp member
  rfl

/-- An individual request of a request splits into itself. -/
theorem split_toRequest
    {request : Request}
    {individual : IndividualRequest}
    (member : individual ∈ request.split) : individual.toRequest.split = [individual] := by
  have alone := groupCategories_of_distinct (distinct_of_mem_split member)
  simp [Request.split, IndividualRequest.toRequest, alone, choices_singletons]

end Request

namespace Engine

/-- The engine splits requests at repeated categories. -/
def SplitsCategories (engine : Engine) : Prop :=
  ∀ request, engine.split request = .ok request.split

variable {engine : Engine}

/-- Every readable request splits into its individual requests. -/
theorem SplitsCategories.splitsInto
    (splits : engine.SplitsCategories)
    {request : Request}
    (readable : request.status.isOk = true) : engine.SplitsInto request request.split :=
  ⟨readable, splits request, request.split_ne_nil⟩

/-- An individual request sent on its own gets its own result. -/
theorem SplitsCategories.results_toRequest
    (splits : engine.SplitsCategories)
    {request : Request}
    (readable : request.status.isOk = true)
    {individual : IndividualRequest}
    (member : individual ∈ request.split) :
    (engine.decide individual.toRequest).results = [engine.resultOf individual] := by
  have individualReadable : individual.toRequest.status.isOk = true := by
    rw [IndividualRequest.toRequest, Request.status_of_mem_split member]
    exact readable
  have alone := splits.splitsInto individualReadable
  rw [Request.split_toRequest member] at alone
  rw [alone.results rfl, evaluateAll_singleton]

/-- A readable request that is not to be combined gets the results that its
individual requests get when each is sent as a request of its own, in their
order. Each of these splits into itself and gets one result. No evaluation may
break off, for there is nothing to catch that when a request is sent alone. -/
theorem results_eq_flatMap_split
    (splits : engine.SplitsCategories)
    {request : Request}
    (readable : request.status.isOk = true)
    (separate : request.combinedDecision = false)
    (completes : ∀ individual ∈ request.split, engine.Completes individual) :
    (engine.decide request).results =
        (request.split.flatMap fun individual => (engine.decide individual.toRequest).results) ∧
      ∀ individual ∈ request.split,
        individual.toRequest.split = [individual] ∧
          ∃ result, (engine.decide individual.toRequest).results = [result] := by
  have alone : ∀ individual ∈ request.split,
      (engine.decide individual.toRequest).results = [engine.resultOf individual] :=
    fun individual member => splits.results_toRequest readable member
  refine ⟨?_, fun individual member =>
    ⟨Request.split_toRequest member, _, alone individual member⟩⟩
  calc (engine.decide request).results
      = request.split.map engine.resultOf := by
        rw [(splits.splitsInto readable).results separate, evaluateAll_eq_map completes]
    _ = request.split.flatMap fun individual => [engine.resultOf individual] :=
        List.map_eq_flatMap
    _ = request.split.flatMap fun individual => (engine.decide individual.toRequest).results := by
        rw [List.flatMap_def, List.flatMap_def, List.map_congr_left alone]

/-- Reading and writing two documents is decided as the four single accesses are,
also by two workers. -/
theorem results_eq_flatMap_split_of_repeated_categories :
    let named (category attributeId text : String) : AttributeCategory :=
      ⟨category, [.ofValue attributeId (.string text)]⟩
    let request : Request :=
      ⟨.ok, false,
        [named resourceCategory resourceId "first", named actionCategory actionId "read",
          named resourceCategory resourceId "second", named actionCategory actionId "write"]⟩
    let permitsReading (individual : IndividualRequest) : EvaluationContext :=
      ⟨individual, .found (.answered
        (.ofDecision (if individual.actions = ["read"] then .permit else .deny)))⟩
    let engine : Engine :=
      ⟨⟨.deny, true⟩, fun request => .ok request.split,
        fun individual => .ok (some (permitsReading individual)), 2⟩
    engine.SplitsCategories ∧ request.status.isOk = true ∧ request.combinedDecision = false ∧
      (∀ individual ∈ request.split, engine.Completes individual) ∧
      (engine.decide request).results.map DecisionResult.decision =
        [.permit, .deny, .permit, .deny] ∧
      (engine.decide request).results =
        request.split.flatMap fun individual => (engine.decide individual.toRequest).results := by
  intro named request permitsReading engine
  have splits : engine.SplitsCategories := fun _ => rfl
  have completes : ∀ individual ∈ request.split, engine.Completes individual := by
    intro individual _ context isContext isBrokenOff
    cases isContext
    cases isBrokenOff
  have decisions : (engine.decide request).results.map DecisionResult.decision =
      [.permit, .deny, .permit, .deny] := by decide +kernel
  exact ⟨splits, rfl, rfl, completes, decisions,
    (results_eq_flatMap_split splits rfl rfl completes).1⟩

end Engine
end PolicyDecision
