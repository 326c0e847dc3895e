import PolicyDecision.Proofs.Engine.Decide
import PolicyDecision.Proofs.Engine.Evaluation
import PolicyDecision.Proofs.Policy.WellFormed

/-!
# Isolation of faults

An engine answers every request: with one result for each individual request, or
with a single one. A fault makes the result of its own individual request
indeterminate and leaves all others as they are, since a result depends on its
individual request alone. Over a store the results that report an error are
those that are indeterminate.
-/

namespace PolicyDecision

namespace CombinedDecision

/-- Results have a combined result. -/
theorem exists_combine
    {results : List DecisionResult}
    (nonempty : results ≠ []) : ∃ combined, combine results = some combined := by
  rcases List.eq_nil_or_concat results with isEmpty | ⟨earlier, last, rfl⟩
  · exact absurd isEmpty nonempty
  · rw [combine, List.concat_eq_append, List.foldl_append]
    exact ⟨_, rfl⟩

end CombinedDecision

namespace Engine

variable {engine : Engine}

/-! ## Faults -/

/-- Something goes wrong before the root of an individual request answers. -/
inductive Faults (engine : Engine) (individual : IndividualRequest) : Prop
  /-- The individual request could not be read. -/
  | unreadable : individual.status.isOk = false → Faults engine individual
  /-- The context could not be made. -/
  | contextFailed {fault : Fault} :
      engine.contextFor individual = .error fault → Faults engine individual
  /-- There is no context. -/
  | contextAbsent : engine.contextFor individual = .ok none → Faults engine individual
  /-- The lookup of the root reports an error. -/
  | lookupFailed {context : EvaluationContext} :
      engine.contextFor individual = .ok (some context) →
      context.root.status.isOk = false → Faults engine individual
  /-- The root fails. -/
  | rootFailed {context : EvaluationContext} {fault : Fault} :
      engine.contextFor individual = .ok (some context) →
      context.root.root = some (.failed fault) → Faults engine individual

/-- A context whose root fails, or whose lookup does, has an error as its result. -/
theorem decideInContext_of_failed
    {context : EvaluationContext}
    (failed : context.root.status.isOk = false ∨
      ∃ fault, context.root.root = some (.failed fault))
    (defaultDecision : Decision) :
    ∃ status, status.isOk = false ∧
      decideInContext defaultDecision context = some (.ofStatus status) := by
  unfold decideInContext
  cases lookup : context.root.status.isOk with
  | false => exact ⟨context.root.status, lookup, rfl⟩
  | true =>
      rcases failed with failed | ⟨fault, isRoot⟩
      · rw [lookup] at failed
        cases failed
      · rw [isRoot]
        exact ⟨.processingError fault.message, rfl, rfl⟩

/-- A fault is the result of its individual request. -/
theorem Faults.exists_decideIndividual
    {individual : IndividualRequest}
    (faults : engine.Faults individual) :
    ∃ status, status.isOk = false ∧
      engine.decideIndividual individual = some (.ofStatus status) := by
  unfold decideIndividual
  cases readable : individual.status.isOk with
  | false => exact ⟨individual.status, readable, rfl⟩
  | true =>
      cases faults with
      | unreadable failed =>
          rw [readable] at failed
          cases failed
      | @contextFailed fault failed =>
          rw [failed]
          exact ⟨.processingError fault.message, rfl, rfl⟩
      | contextAbsent absent =>
          rw [absent]
          exact ⟨noContext, rfl, rfl⟩
      | lookupFailed isContext failed =>
          rw [isContext]
          exact decideInContext_of_failed (.inl failed) _
      | rootFailed isContext failed =>
          rw [isContext]
          exact decideInContext_of_failed (.inr ⟨_, failed⟩) _

theorem Faults.resultOf
    {individual : IndividualRequest}
    (faults : engine.Faults individual) :
    (engine.resultOf individual).decision = .indeterminate ∧
      (engine.resultOf individual).status.isOk = false := by
  obtain ⟨status, failed, decided⟩ := faults.exists_decideIndividual
  rw [Engine.resultOf, decided]
  exact ⟨rfl, failed⟩

/-! ## Positions -/

/-- The result of an individual request depends on it, its context and the
default decision. -/
theorem resultOf_congr
    {other : Engine}
    {individual : IndividualRequest}
    (sameDefault : other.configuration.defaultDecision = engine.configuration.defaultDecision)
    (sameContext : other.contextFor individual = engine.contextFor individual) :
    other.resultOf individual = engine.resultOf individual := by
  rw [resultOf, resultOf, decideIndividual, decideIndividual, sameDefault, sameContext]

/-- The evaluation of a request completes when that of each of its individual
requests does. -/
def CompletesAll (engine : Engine) (request : Request) : Prop :=
  ∀ individuals, engine.SplitsInto request individuals →
    ∀ individual ∈ individuals, engine.Completes individual

theorem CompletesAll.results_eq_map
    {request : Request}
    (completes : engine.CompletesAll request)
    {individuals : List IndividualRequest}
    (splits : engine.SplitsInto request individuals)
    (separate : request.combinedDecision = false) :
    (engine.decide request).results = individuals.map engine.resultOf := by
  rw [splits.results separate, evaluateAll_eq_map (completes individuals splits)]

/-! ## Answers -/

/-- A request for a combined decision gets a single result. -/
theorem exists_results_of_combined
    (engine : Engine)
    {request : Request}
    (combined : request.combinedDecision = true) :
    ∃ result, (engine.decide request).results = [result] := by
  cases intake : engine.intake request with
  | error status => exact ⟨_, results_of_intake_error intake⟩
  | ok individuals =>
      have nonempty : engine.evaluateAll individuals ≠ [] := by
        rw [← List.length_pos_iff, length_evaluateAll, List.length_pos_iff]
        exact (intake_eq_ok_iff.mp intake).nonempty
      obtain ⟨result, isCombined⟩ := CombinedDecision.exists_combine nonempty
      refine ⟨result, ?_⟩
      simp [decide, intake, combined, isCombined]

/-- Without an applicable root the result reports an error exactly when the
default decision is indeterminate. -/
theorem isOk_withoutPolicy_eq_false_iff (defaultDecision : Decision) :
    (withoutPolicy defaultDecision).status.isOk = false ↔
      (withoutPolicy defaultDecision).decision.isIndeterminate = true := by
  cases defaultDecision <;> decide

end Engine

/-- A well-formed result reports an error exactly when it is indeterminate. -/
theorem EvaluationResult.WellFormed.isOk_eq_false_iff
    {result : EvaluationResult}
    (formed : result.WellFormed) :
    result.status.isOk = false ↔ result.decision.isIndeterminate = true := by
  refine ⟨fun failed => ?_, formed.failed_of_indeterminate⟩
  by_contra determinate
  have succeeded : result.status = .ok := by
    by_cases inapplicable : result.decision = .notApplicable
    · rw [formed.bare_of_notApplicable inapplicable]
      rfl
    · refine formed.ok_of_definite ?_
      cases decided : result.decision <;>
        simp_all [Decision.isDefinite, Decision.isIndeterminate]
  rw [succeeded] at failed
  cases failed

/-- Over a store the results that report an error are the indeterminate ones, be
they combined or not. -/
theorem Store.isOk_eq_false_iff_isIndeterminate
    (configuration : EngineConfiguration)
    (store : Store)
    (workers : Nat)
    (request : Request) :
    ∀ result ∈ (Engine.decide { Engine.ofStore configuration store with workers } request).results,
      (result.status.isOk = false ↔ result.decision.isIndeterminate = true) := by
  have relates : Engine.Relates { Engine.ofStore configuration store with workers }
      (fun decision status => status.isOk = false ↔ decision.isIndeterminate = true) := by
    refine ⟨fun failed => iff_of_true failed rfl, Engine.isOk_withoutPolicy_eq_false_iff _, ?_⟩
    intro individual context result isContext isRoot
    cases isContext
    obtain ⟨root, -, answered⟩ := Option.map_eq_some_iff.mp isRoot
    cases answered
    have formed := root.toNode.answer_wellFormed (store.scope_wellFormed individual)
    exact formed.result.isOk_eq_false_iff
  exact relates.decide request

namespace Engine

/-- An engine answers every request, as long as no evaluation breaks off. A
request that does not split into individual requests gets a single error, and
one for a combined decision a single result. Any other request gets the result
of each of its individual requests in order, and that is an indeterminate error
where a fault occurs. What stands at a position depends on the individual
request there, its context and the default decision alone, whatever becomes of
the others. Over a store the results that report an error are the indeterminate
ones, be they combined or not. -/
theorem decide_isolates_faults
    (engine : Engine)
    (request : Request)
    (completes : engine.CompletesAll request) :
    ((∀ individuals, ¬engine.SplitsInto request individuals) →
        ∃ status, status.isOk = false ∧ (engine.decide request).results = [.ofStatus status]) ∧
      (request.combinedDecision = true →
        ∃ result, (engine.decide request).results = [result]) ∧
      (∀ individuals, engine.SplitsInto request individuals →
        request.combinedDecision = false →
        List.Forall₂
            (fun individual result =>
              engine.decideIndividual individual = some result ∧
                (engine.Faults individual →
                  result.decision = .indeterminate ∧ result.status.isOk = false))
            individuals (engine.decide request).results ∧
          ∀ (other : Engine) (altered : Request) (others : List IndividualRequest),
            other.configuration.defaultDecision = engine.configuration.defaultDecision →
            other.CompletesAll altered →
            other.SplitsInto altered others →
            altered.combinedDecision = false →
            ∀ position : Nat,
              others[position]? = individuals[position]? →
              (∀ individual ∈ individuals[position]?,
                other.contextFor individual = engine.contextFor individual) →
              (other.decide altered).results[position]? =
                (engine.decide request).results[position]?) ∧
      ∀ (store : Store) (workers : Nat),
        engine = { Engine.ofStore engine.configuration store with workers } →
        ∀ result ∈ (engine.decide request).results,
          (result.status.isOk = false ↔ result.decision.isIndeterminate = true) := by
  refine ⟨fun unsplit => ?_, exists_results_of_combined engine,
    fun individuals splits separate => ?_, fun store workers standard => ?_⟩
  · obtain ⟨status, rejected⟩ := exists_intake_error unsplit
    exact ⟨status, isOk_of_intake_error rejected, results_of_intake_error rejected⟩
  · have results := completes.results_eq_map splits separate
    rw [results]
    refine ⟨?_, fun other altered others sameDefault otherCompletes otherSplits otherSeparate
      position sameIndividual sameContext => ?_⟩
    · rw [List.forall₂_map_right_iff, List.forall₂_same]
      exact fun individual member =>
        ⟨(completes individuals splits individual member).decideIndividual_eq, Faults.resultOf⟩
    · rw [otherCompletes.results_eq_map otherSplits otherSeparate, List.getElem?_map,
        List.getElem?_map, sameIndividual]
      exact Option.map_congr fun individual isThere =>
        resultOf_congr sameDefault (sameContext individual isThere)
  · rw [standard]
    exact store.isOk_eq_false_iff_isIndeterminate engine.configuration workers request

/-- Of three individual requests the second has no context. Its result is an
error, and the two others have the results that they have beside one with a
context. -/
theorem decide_isolates_faults_between_permits :
    let category : AttributeCategory := .empty resourceCategory
    let individuals : List IndividualRequest :=
      [.ofCategories [], .ofCategories [category], .ofCategories [category, category]]
    let permitting (individual : IndividualRequest) : EvaluationContext :=
      ⟨individual, .found (.answered (.ofDecision .permit))⟩
    let failing (individual : IndividualRequest) : Except Fault (Option EvaluationContext) :=
      if individual.categories.length = 1 then .error (.context "unavailable")
      else .ok (some (permitting individual))
    let engine : Engine := ⟨⟨.deny, true⟩, fun _ => .ok individuals, failing, 2⟩
    let sound : Engine :=
      { engine with contextFor := fun individual => .ok (some (permitting individual)) }
    engine.CompletesAll .empty ∧
      (engine.decide .empty).results.map DecisionResult.decision =
        [.permit, .indeterminate, .permit] ∧
      (sound.decide .empty).results.map DecisionResult.decision = [.permit, .permit, .permit] ∧
      (sound.decide .empty).results[0]? = (engine.decide .empty).results[0]? ∧
      (sound.decide .empty).results[2]? = (engine.decide .empty).results[2]? := by
  intro category individuals permitting failing engine sound
  have completes : engine.CompletesAll .empty := by
    intro _ _ individual _ context isContext isBrokenOff
    change failing individual = _ at isContext
    simp only [failing] at isContext
    split at isContext <;> cases isContext
    cases isBrokenOff
  have soundCompletes : sound.CompletesAll .empty := by
    intro _ _ individual _ context isContext isBrokenOff
    cases isContext
    cases isBrokenOff
  obtain ⟨-, -, separately, -⟩ := engine.decide_isolates_faults .empty completes
  have splits : engine.SplitsInto .empty individuals := ⟨rfl, rfl, List.cons_ne_nil _ _⟩
  have soundSplits : sound.SplitsInto .empty individuals := ⟨rfl, rfl, List.cons_ne_nil _ _⟩
  obtain ⟨-, isolated⟩ := separately individuals splits rfl
  have unchanged := isolated sound .empty individuals rfl soundCompletes soundSplits rfl
  refine ⟨completes, by decide +kernel, by decide +kernel, unchanged 0 rfl ?_, unchanged 2 rfl ?_⟩
  · intro individual isThere
    cases isThere
    rfl
  · intro individual isThere
    cases isThere
    rfl

end Engine
end PolicyDecision
