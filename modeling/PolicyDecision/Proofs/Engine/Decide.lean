import PolicyDecision.Engine.OverStore
import PolicyDecision.Proofs.Itemwise

/-!
# Decisions of an engine

Where the decisions in the answer of an engine come from, and the statuses that
go with them: from the evaluation of the roots that its contexts find, from the
default decision, or from a fault, which is indeterminate. Individual requests
may be evaluated in any shares and their results combined or not.
-/

namespace PolicyDecision

namespace CombinedDecision

variable {property : Decision → Status → Prop}

/-- A result counts with its own decision and status or as an error. -/
theorem counted_keeps
    (failed : ∀ message, property .indeterminate (.processingError message))
    {individual : DecisionResult}
    (holds : property individual.decision individual.status) :
    property (counted individual).1 (counted individual).2 := by
  unfold counted
  split
  · exact failed _
  · split
    · exact failed _
    · exact holds

theorem accumulate_keeps
    (failed : ∀ message, property .indeterminate (.processingError message))
    {combined : Option DecisionResult}
    {individual : DecisionResult}
    (kept : ∀ running ∈ combined, property running.decision running.status)
    (holds : property individual.decision individual.status) :
    ∀ running ∈ accumulate combined individual, property running.decision running.status := by
  have agreed :
      property (agree combined individual).decision (agree combined individual).status := by
    cases combined with
    | none => exact counted_keeps failed holds
    | some running =>
        unfold agree
        dsimp only
        split
        · exact kept running rfl
        · exact failed _
  intro running isRunning
  cases isRunning
  exact agreed

/-- The combined decision and its status are those of an individual result or an
error. -/
theorem combine_keeps
    (failed : ∀ message, property .indeterminate (.processingError message))
    {results : List DecisionResult}
    (each : ∀ result ∈ results, property result.decision result.status) :
    ∀ combined ∈ combine results, property combined.decision combined.status := by
  refine List.foldlRecOn results accumulate
    (motive := fun combined =>
      ∀ running ∈ combined, property running.decision running.status) ?_ ?_
  · intro running isRunning
    cases isRunning
  · intro combined kept individual member
    exact accumulate_keeps failed kept (each individual member)

end CombinedDecision

namespace Engine

variable {engine : Engine}

/-! ## Decisions with their statuses -/

/-- Every decision that an engine makes its answers from is related to the status
that goes with it. -/
structure Relates (engine : Engine) (property : Decision → Status → Prop) : Prop where
  failed : ∀ {status : Status}, status.isOk = false → property .indeterminate status
  withoutPolicy :
    property (withoutPolicy engine.configuration.defaultDecision).decision
      (withoutPolicy engine.configuration.defaultDecision).status
  answered : ∀ {individual : IndividualRequest} {context : EvaluationContext}
    {result : EvaluationResult}, engine.contextFor individual = .ok (some context) →
    context.root.root = some (.answered result) → property result.decision result.status

section Relates

variable {property : Decision → Status → Prop}

theorem Relates.decideInContext
    (relates : engine.Relates property)
    {individual : IndividualRequest}
    {context : EvaluationContext}
    (isContext : engine.contextFor individual = .ok (some context)) :
    ∀ result ∈ decideInContext engine.configuration.defaultDecision context,
      property result.decision result.status := by
  intro result decided
  unfold Engine.decideInContext at decided
  split at decided
  · split at decided
    · cases decided
      exact relates.withoutPolicy
    · rename_i evaluated isRoot
      cases decided
      have sameDecision :
          (echoing context.request evaluated).decision = evaluated.decision := by
        unfold echoing
        dsimp only
        split <;> rfl
      have sameStatus : (echoing context.request evaluated).status = evaluated.status := by
        unfold echoing
        dsimp only
        split <;> rfl
      rw [sameDecision, sameStatus]
      exact relates.answered isContext isRoot
    · cases decided
      exact relates.failed rfl
    · cases decided
  · rename_i failure
    cases decided
    exact relates.failed (Bool.eq_false_iff.mpr failure)

theorem Relates.decideIndividual
    (relates : engine.Relates property)
    (individual : IndividualRequest) :
    ∀ result ∈ engine.decideIndividual individual,
      property result.decision result.status := by
  intro result decided
  unfold Engine.decideIndividual at decided
  split at decided
  · split at decided
    · rename_i context isContext
      exact relates.decideInContext isContext result decided
    · cases decided
      exact relates.failed rfl
    · cases decided
      exact relates.failed rfl
  · rename_i failure
    cases decided
    exact relates.failed (Bool.eq_false_iff.mpr failure)

theorem Relates.workerResults
    (relates : engine.Relates property)
    (share : List IndividualRequest) :
    ∀ result ∈ engine.workerResults share, property result.decision result.status := by
  intro result member
  unfold Engine.workerResults at member
  cases computed : share.mapM engine.decideIndividual with
  | some results =>
      rw [computed] at member
      obtain ⟨individual, -, decided⟩ :=
        exists_of_forall₂_of_mem (mapM_eq_some_iff.mp computed) member
      exact relates.decideIndividual individual result decided
  | none =>
      rw [computed] at member
      obtain ⟨individual, -, rfl⟩ := List.mem_map.mp member
      exact relates.failed rfl

theorem Relates.evaluateAll
    (relates : engine.Relates property)
    (individuals : List IndividualRequest) :
    ∀ result ∈ engine.evaluateAll individuals, property result.decision result.status := by
  intro result member
  obtain ⟨share, -, inShare⟩ := List.mem_flatMap.mp member
  exact relates.workerResults share result inShare

/-- A request is rejected at intake with an error. -/
theorem isOk_of_intake_error
    {request : Request}
    {status : Status}
    (rejected : engine.intake request = .error status) : status.isOk = false := by
  unfold intake at rejected
  split at rejected
  · split at rejected <;> cases rejected <;> rfl
  · rename_i failure
    cases rejected
    exact Bool.eq_false_iff.mpr failure

/-- Every decision of an engine is related to its status as what it is made from
is. -/
theorem Relates.decide
    (relates : engine.Relates property)
    (request : Request) :
    ∀ result ∈ (engine.decide request).results, property result.decision result.status := by
  intro result member
  unfold Engine.decide at member
  split at member
  · rename_i rejected
    cases List.mem_singleton.mp member
    exact relates.failed (isOk_of_intake_error rejected)
  · rename_i individuals _
    have each := relates.evaluateAll individuals
    dsimp only at member
    split at member
    · exact CombinedDecision.combine_keeps (fun _ => relates.failed rfl) each result
        (Option.mem_toList.mp member)
    · exact each result member

end Relates

/-! ## Decisions alone -/

/-- Every decision that an engine makes its answers from has a property. -/
structure Yields (engine : Engine) (property : Decision → Prop) : Prop where
  indeterminate : property .indeterminate
  defaultDecision : property engine.configuration.defaultDecision
  answered : ∀ {individual : IndividualRequest} {context : EvaluationContext}
    {result : EvaluationResult}, engine.contextFor individual = .ok (some context) →
    context.root.root = some (.answered result) → property result.decision

/-- Every decision of an engine has a property that what it is made from has. -/
theorem Yields.decide
    {property : Decision → Prop}
    (yields : engine.Yields property)
    (request : Request) :
    ∀ result ∈ (engine.decide request).results, property result.decision := by
  have relates : engine.Relates fun decision _ => property decision :=
    ⟨fun _ => yields.indeterminate, yields.defaultDecision, yields.answered⟩
  exact relates.decide request

end Engine
end PolicyDecision
