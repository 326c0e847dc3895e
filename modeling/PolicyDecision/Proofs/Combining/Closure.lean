import Mathlib.Tactic.SplitIfs
import PolicyDecision.Proofs.Combining.Fold
import PolicyDecision.Proofs.Decision

/-!
# Properties kept by combining

A property of results that is kept when results of one kind are merged, and when
an error towards one definite decision is widened to both, is kept by every
combining algorithm, as long as the results that an algorithm makes on its own
have it: the bare fallback and the failed choice of a child. Proofs about combined
results state how a property behaves in these few ways and leave the folds alone.
-/

namespace PolicyDecision

/-- A property of results that is kept in each of the ways in which algorithms
make new results of those of children. -/
structure Combinable (property : EvaluationResult → Prop) : Prop where
  /-- No child applies. -/
  notApplicable : property .notApplicable
  /-- Two results of one decision are merged, where both spellings of the widest
  indeterminate decision count as one. -/
  merge : ∀ {first second : EvaluationResult}, property first → property second →
    first.decision.unified = second.decision.unified → property (first.merge second)
  /-- An error towards one definite decision meets a result towards the other. -/
  widen : ∀ {overriding : Decision} {towards away : EvaluationResult},
    overriding.isDefinite = true → property towards → property away →
    towards.decision = overriding.asIndeterminate →
    away.decision = overriding.otherDefinite ∨
      away.decision = overriding.otherDefinite.asIndeterminate →
    property (.withStatus .indeterminateDenyPermit towards.status)

/-- A collected result has a property and a decision of some kind. -/
def Gathers
    (property : EvaluationResult → Prop)
    (kind : Decision → Prop)
    (collected : Option EvaluationResult) : Prop :=
  ∀ result ∈ collected, property result ∧ kind result.decision

variable {property : EvaluationResult → Prop}

theorem gathers_none {kind : Decision → Prop} : Gathers property kind none := by
  intro result held
  cases held

/-- A result of a kind merged into the collected one leaves a result of it. -/
theorem Gathers.mergeInto
    {kind : Decision → Prop}
    {collected : Option EvaluationResult}
    {result : EvaluationResult}
    (combinable : Combinable property)
    (alike : ∀ {first second : Decision}, kind first → kind second →
      first.unified = second.unified)
    (held : Gathers property kind collected)
    (holds : property result)
    (ofKind : kind result.decision) :
    Gathers property kind (some (PolicyDecision.mergeInto collected result)) := by
  intro merged isMerged
  cases isMerged
  cases collected with
  | none => exact ⟨holds, ofKind⟩
  | some first =>
      obtain ⟨firstHolds, firstOfKind⟩ := held first rfl
      exact ⟨combinable.merge firstHolds holds (alike firstOfKind ofKind), firstOfKind⟩

theorem Gathers.mergeInto_decision
    {decision : Decision}
    {collected : Option EvaluationResult}
    {result : EvaluationResult}
    (combinable : Combinable property)
    (held : Gathers property (· = decision) collected)
    (holds : property result)
    (decided : result.decision = decision) :
    Gathers property (· = decision) (some (PolicyDecision.mergeInto collected result)) :=
  held.mergeInto combinable (fun first second => by rw [first, second]) holds decided

/-! ## Folds -/

namespace OverridesState

/-- Every result that a state has collected has a property and the decision it
was collected for. -/
structure Keeps
    (property : EvaluationResult → Prop)
    (overriding : Decision)
    (state : OverridesState) : Prop where
  overridden : Gathers property (· = overriding.otherDefinite) state.overridden
  indeterminateOverriding :
    Gathers property (· = overriding.asIndeterminate) state.indeterminateOverriding
  indeterminateOverridden :
    Gathers property (· = overriding.otherDefinite.asIndeterminate)
      state.indeterminateOverridden
  indeterminateBoth : Gathers property (·.isBoth = true) state.indeterminateBoth

theorem keeps_empty (overriding : Decision) : empty.Keeps property overriding :=
  ⟨gathers_none, gathers_none, gathers_none, gathers_none⟩

/-- Taking in a result keeps the property of the collected ones. -/
theorem take_leads_keeps
    (combinable : Combinable property)
    {overriding : Decision}
    (state : OverridesState)
    (result : EvaluationResult)
    (kept : state.Keeps property overriding)
    (holds : property result) :
    (take overriding state result).Leads (Keeps property overriding) property := by
  simp only [take]
  split_ifs with isOverriding isOverridden isTowards isAway isBoth
  · exact holds
  · exact { kept with
      overridden := kept.overridden.mergeInto_decision combinable holds isOverridden }
  · exact { kept with
      indeterminateOverriding :=
        kept.indeterminateOverriding.mergeInto_decision combinable holds isTowards }
  · exact { kept with
      indeterminateOverridden :=
        kept.indeterminateOverridden.mergeInto_decision combinable holds isAway }
  · have both : result.decision.isBoth = true := by simpa [Decision.isBoth] using isBoth
    have alike {first second : Decision}
        (firstBoth : first.isBoth = true) (secondBoth : second.isBoth = true) :
        first.unified = second.unified := by
      rw [Decision.unified_of_isBoth firstBoth, Decision.unified_of_isBoth secondBoth]
    exact { kept with
      indeterminateBoth := kept.indeterminateBoth.mergeInto combinable alike holds both }
  · exact kept

/-- Resolving the collected results keeps their property. -/
theorem resolve_keeps
    (combinable : Combinable property)
    {overriding : Decision}
    (definite : overriding.isDefinite = true)
    (state : OverridesState)
    (kept : state.Keeps property overriding) : property state.resolve := by
  unfold resolve
  split
  · rename_i both isBoth
    exact (kept.indeterminateBoth both isBoth).1
  · rename_i towards _ isTowards
    obtain ⟨towardsHolds, towardsDecided⟩ := kept.indeterminateOverriding towards isTowards
    split
    · rename_i reachable
      rcases (Bool.or_eq_true _ _).mp reachable with isAway | isOverridden
      · obtain ⟨away, found⟩ := Option.isSome_iff_exists.mp isAway
        obtain ⟨awayHolds, awayDecided⟩ := kept.indeterminateOverridden away found
        exact combinable.widen definite towardsHolds awayHolds towardsDecided (.inr awayDecided)
      · obtain ⟨away, found⟩ := Option.isSome_iff_exists.mp isOverridden
        obtain ⟨awayHolds, awayDecided⟩ := kept.overridden away found
        exact combinable.widen definite towardsHolds awayHolds towardsDecided (.inl awayDecided)
    · exact towardsHolds
  · split
    · rename_i overridden isOverridden
      exact (kept.overridden overridden isOverridden).1
    · rename_i away _ isAway
      exact (kept.indeterminateOverridden away isAway).1
    · exact combinable.notApplicable

end OverridesState

namespace UnlessState

/-- The collected result and the bare fallback have a property. -/
structure Keeps
    (property : EvaluationResult → Prop)
    (fallback : Decision)
    (state : UnlessState) : Prop where
  fallback_eq : state.fallback = fallback
  bare : property (.ofDecision fallback)
  collected : Gathers property (· = fallback) state.collected

/-- Taking in a result keeps the property of the collected one. -/
theorem take_leads_keeps
    (combinable : Combinable property)
    {fallback : Decision}
    (state : UnlessState)
    (result : EvaluationResult)
    (kept : state.Keeps property fallback)
    (holds : property result) :
    (take state result).Leads (Keeps property fallback) property := by
  simp only [take]
  split_ifs with isOther isFallback
  · exact holds
  · exact { kept with
      collected := kept.collected.mergeInto_decision combinable holds
        (isFallback.trans kept.fallback_eq) }
  · exact kept

/-- Resolving the collected result keeps its property. -/
theorem resolve_keeps
    {fallback : Decision}
    (state : UnlessState)
    (kept : state.Keeps property fallback) : property state.resolve := by
  cases held : state.collected with
  | some result =>
      simp only [resolve, held]
      exact (kept.collected result held).1
  | none =>
      simp only [resolve, held, kept.fallback_eq]
      exact kept.bare

end UnlessState

theorem takeApplicable_leads
    (state : Unit)
    (result : EvaluationResult)
    (holds : property result) :
    (takeApplicable state result).Leads (fun _ => True) property := by
  unfold takeApplicable
  split
  · trivial
  · exact holds

/-! ## Algorithms -/

namespace CombiningAlgorithm

/-- The decision of an algorithm that falls back to one. -/
def fallback? : CombiningAlgorithm → Option Decision
  | .denyUnlessPermit => some .deny
  | .permitUnlessDeny => some .permit
  | _ => none

theorem isDefinite_of_fallback?
    {algorithm : CombiningAlgorithm}
    {decision : Decision}
    (isFallback : algorithm.fallback? = some decision) : decision.isDefinite = true := by
  cases algorithm <;> cases isFallback <;> rfl

theorem combineOnlyOne_keeps
    (combinable : Combinable property)
    {candidates : List Candidate}
    (undecided : ∀ status, selectOnly 0 none candidates = .error status →
      property (.withStatus .indeterminate status))
    (each : ∀ candidate ∈ candidates, property candidate.result) :
    property (combineOnlyOne candidates).result := by
  unfold combineOnlyOne
  split
  · rename_i status failed
    exact undecided status failed
  · exact combinable.notApplicable
  · split
    · rename_i candidate found
      exact each candidate (List.mem_of_getElem? found)
    · exact combinable.notApplicable

/-- A combinable property of the results of all children is one of the combined
result, when it also holds of the bare fallback of the algorithm and of a failed
choice. -/
theorem combine_keeps
    (combinable : Combinable property)
    (algorithm : CombiningAlgorithm)
    (bare : ∀ decision ∈ algorithm.fallback?, property (.ofDecision decision))
    {candidates : List Candidate}
    (undecided : ∀ status, selectOnly 0 none candidates = .error status →
      property (.withStatus .indeterminate status))
    (each : ∀ candidate ∈ candidates, property candidate.result) :
    property (algorithm.combine candidates).result := by
  have overridden (overriding : Decision) (definite : overriding.isDefinite = true) :
      property (foldCandidates (OverridesState.take overriding) OverridesState.resolve .empty
        candidates).result :=
    foldResults_invariant (OverridesState.take_leads_keeps combinable)
      (OverridesState.resolve_keeps combinable definite) each
      (OverridesState.keeps_empty overriding)
  have fallingBack (fallback : Decision) (holds : property (.ofDecision fallback)) :
      property (foldCandidates UnlessState.take UnlessState.resolve (.ofFallback fallback)
        candidates).result :=
    foldResults_invariant (UnlessState.take_leads_keeps combinable)
      UnlessState.resolve_keeps each ⟨rfl, holds, gathers_none⟩
  cases algorithm with
  | denyOverrides | orderedDenyOverrides => exact overridden .deny rfl
  | permitOverrides | orderedPermitOverrides => exact overridden .permit rfl
  | denyUnlessPermit => exact fallingBack .deny (bare .deny rfl)
  | permitUnlessDeny => exact fallingBack .permit (bare .permit rfl)
  | firstApplicable =>
      exact foldResults_invariant
        (fun state result _ holds => takeApplicable_leads state result holds)
        (fun _ _ => combinable.notApplicable) each trivial
  | onlyOneApplicable => exact combineOnlyOne_keeps combinable undecided each

end CombiningAlgorithm
end PolicyDecision
