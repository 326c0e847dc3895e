import PolicyDecision.Proofs.Combining.Reach

/-!
# Reach of the first applicable decision

The first applicable decision ignores the children after it. An indeterminate
child that might not have applied therefore hides what those children would have
decided, and this is the only way for an outcome to be lost.
-/

namespace PolicyDecision

namespace Decision

/-- The first decision that applies. -/
def firstApplicable (decisions : List Decision) : Decision :=
  (decisions.find? (· ≠ .notApplicable)).getD .notApplicable

@[simp] theorem firstApplicable_nil : firstApplicable [] = .notApplicable := rfl

@[simp] theorem firstApplicable_notApplicable (rest : List Decision) :
    firstApplicable (.notApplicable :: rest) = firstApplicable rest := rfl

theorem firstApplicable_cons
    {decision : Decision}
    (applicable : decision ≠ .notApplicable)
    (rest : List Decision) :
    firstApplicable (decision :: rest) = decision := by
  rw [firstApplicable, List.find?_cons_of_pos (by simpa using applicable), Option.getD_some]

theorem firstApplicable_append
    {before : List Decision}
    (inapplicable : ∀ decision ∈ before, decision = .notApplicable)
    (rest : List Decision) :
    firstApplicable (before ++ rest) = firstApplicable rest := by
  induction before with
  | nil => rfl
  | cons decision further inductionHypothesis =>
      obtain ⟨rfl, furtherInapplicable⟩ := List.forall_mem_cons.mp inapplicable
      exact inductionHypothesis furtherInapplicable

/-- An outcome that some decision allows after decisions that need not apply. -/
def Possible (outcome : Decision) (decisions : List Decision) : Prop :=
  ∃ between decision after,
    decisions = between ++ decision :: after ∧
      (∀ earlier ∈ between, .notApplicable ∈ earlier.reach) ∧
      outcome ∈ decision.reach

/-- A decision that stops the choice although it need not apply, and a later one
that allows the outcome which the first rules out. -/
def Hides (decisions : List Decision) : Prop :=
  ∃ outcome before stop after,
    outcome.isDefinite = true ∧
      decisions = before ++ stop :: after ∧
      (∀ earlier ∈ before, earlier = .notApplicable) ∧
      stop = outcome.otherDefinite.asIndeterminate ∧
      Possible outcome after

theorem Possible.cons
    {outcome decision : Decision}
    {rest : List Decision}
    (possible : Possible outcome rest)
    (avoidable : .notApplicable ∈ decision.reach) :
    Possible outcome (decision :: rest) := by
  obtain ⟨between, later, after, rfl, betweenAvoidable, reached⟩ := possible
  exact ⟨decision :: between, later, after, rfl,
    List.forall_mem_cons.mpr ⟨avoidable, betweenAvoidable⟩, reached⟩

/-- Only a possible outcome is the first applicable one of any picks. -/
theorem possible_of_picks
    {decisions picks : List Decision}
    (picked : List.Forall₂ (fun decision pick => pick ∈ decision.reach) decisions picks)
    (definite : (firstApplicable picks).isDefinite = true) :
    Possible (firstApplicable picks) decisions := by
  induction picked with
  | nil => cases definite
  | @cons decision pick rest restPicks reached _ inductionHypothesis =>
      by_cases inapplicable : pick = .notApplicable
      · subst inapplicable
        exact (inductionHypothesis definite).cons reached
      · rw [firstApplicable_cons inapplicable]
        exact ⟨[], decision, rest, rfl, by simp, reached⟩

/-- A possible outcome is the first applicable one when it is preferred. -/
theorem firstApplicable_map_prefer
    {outcome : Decision}
    (definite : outcome.isDefinite = true)
    {decisions : List Decision}
    (possible : Possible outcome decisions) :
    firstApplicable (decisions.map (prefer outcome)) = outcome := by
  have applicable : outcome ≠ .notApplicable := ne_notApplicable definite
  obtain ⟨between, decision, after, rfl, avoidable, reached⟩ := possible
  have preferred : prefer outcome decision = outcome := if_pos reached
  induction between with
  | nil =>
      rw [List.nil_append, List.map_cons, preferred, firstApplicable_cons applicable]
  | cons earlier between inductionHypothesis =>
      obtain ⟨earlierAvoidable, betweenAvoidable⟩ := List.forall_mem_cons.mp avoidable
      rw [List.cons_append, List.map_cons]
      by_cases earlierReaches : outcome ∈ earlier.reach
      · rw [prefer, if_pos earlierReaches, firstApplicable_cons applicable]
      · rw [prefer, if_neg earlierReaches, if_pos earlierAvoidable,
          firstApplicable_notApplicable]
        exact inductionHypothesis betweenAvoidable

theorem Possible.append
    {outcome : Decision}
    {before rest : List Decision}
    (possible : Possible outcome rest)
    (avoidable : ∀ earlier ∈ before, .notApplicable ∈ earlier.reach) :
    Possible outcome (before ++ rest) := by
  induction before with
  | nil => exact possible
  | cons earlier before inductionHypothesis =>
      obtain ⟨earlierAvoidable, beforeAvoidable⟩ := List.forall_mem_cons.mp avoidable
      exact (inductionHypothesis beforeAvoidable).cons earlierAvoidable

theorem firstApplicable_eq_or_mem (decisions : List Decision) :
    firstApplicable decisions = .notApplicable ∨ firstApplicable decisions ∈ decisions := by
  unfold firstApplicable
  cases found : decisions.find? (· ≠ .notApplicable) with
  | none => exact .inl rfl
  | some decision => exact .inr (List.mem_of_find?_eq_some found)

/-- The first applicable pick is lost only where a decision hides it. -/
theorem hides_of_picks
    {decisions picks : List Decision}
    (picked : List.Forall₂ (fun decision pick => pick ∈ decision.reach) decisions picks)
    (lost : firstApplicable picks ∉ (firstApplicable decisions).reach) :
    Hides decisions := by
  induction picked with
  | nil => exact absurd (by decide) lost
  | @cons decision pick rest restPicks reached restPicked inductionHypothesis =>
      by_cases inapplicable : decision = .notApplicable
      · subst inapplicable
        cases Finset.mem_singleton.mp reached
        obtain ⟨outcome, before, stop, after, definite, rfl, allBefore, stops, possible⟩ :=
          inductionHypothesis lost
        exact ⟨outcome, .notApplicable :: before, stop, after, definite, rfl,
          List.forall_mem_cons.mpr ⟨rfl, allBefore⟩, stops, possible⟩
      · rw [firstApplicable_cons inapplicable] at lost
        by_cases avoided : pick = .notApplicable
        · -- The errors of the stopping decision come to nothing, so a later
          -- decision gives the outcome.
          subst avoided
          rw [firstApplicable_notApplicable] at lost
          have applicable : firstApplicable restPicks ≠ .notApplicable :=
            fun none => lost (none ▸ reached)
          have occurs := (firstApplicable_eq_or_mem restPicks).resolve_left applicable
          obtain ⟨_, _, within⟩ := exists_of_forall₂_of_mem restPicked occurs
          have definite :=
            isDefinite_of_ne_notApplicable (isIndeterminate_of_mem_reach within) applicable
          exact ⟨firstApplicable restPicks, [], decision, rest, definite, rfl, by simp,
            eq_asIndeterminate_of_mem_reach definite inapplicable reached lost,
            possible_of_picks restPicked definite⟩
        · rw [firstApplicable_cons avoided] at lost
          exact absurd reached lost

/-- A hidden outcome is lost when it is preferred. -/
theorem Hides.exists_lost
    {decisions : List Decision} (hides : Hides decisions) :
    ∃ outcome : Decision,
      firstApplicable (decisions.map (prefer outcome)) = outcome ∧
      outcome ∉ (firstApplicable decisions).reach := by
  obtain ⟨outcome, before, stop, after, definite, rfl, allBefore, rfl, possible⟩ := hides
  have otherDefinite := outcome.otherDefinite_isDefinite
  refine ⟨outcome, ?_, ?_⟩
  · apply firstApplicable_map_prefer definite
    apply (possible.cons (notApplicable_mem_reach_asIndeterminate otherDefinite)).append
    intro earlier member
    rw [allBefore earlier member]
    decide
  · rw [firstApplicable_append allBefore,
      firstApplicable_cons (asIndeterminate_ne_notApplicable otherDefinite)]
    exact not_mem_reach_asIndeterminate definite

end Decision

namespace CombiningAlgorithm

/-- The first-applicable algorithm gives the first decision that applies. -/
theorem decision_combine_firstApplicable (candidates : List Candidate) :
    (firstApplicable.combine candidates).result.decision =
      Decision.firstApplicable (candidates.map Candidate.decision) := by
  have combined :
      (firstApplicable.combine candidates).result =
        ((candidates.map Candidate.result).find? fun result =>
          decide (result.decision ≠ .notApplicable)).getD .notApplicable :=
    foldResults_of_decisive takeApplicable_eq (fun _ _ => rfl) () candidates
  have sameChoice :
      (fun decision : Decision => decide (decision ≠ .notApplicable)) ∘ Candidate.decision =
        (fun result : EvaluationResult => decide (result.decision ≠ .notApplicable)) ∘
          Candidate.result :=
    rfl
  rw [combined, Decision.firstApplicable, List.find?_map, List.find?_map, sameChoice]
  cases candidates.find? _ <;> rfl

/-- The first-applicable decision leaves within reach every outcome the children
can be resolved to exactly when no child hides an outcome of a later one. -/
theorem resolutions_firstApplicable_subset_reach_iff (candidates : List Candidate) :
    firstApplicable.resolutions candidates ⊆
        ((firstApplicable.combine candidates).result.decision.reach : Set Decision) ↔
      ¬Decision.Hides (candidates.map Candidate.decision) := by
  rw [decision_combine_firstApplicable]
  constructor
  · intro contains hides
    obtain ⟨outcome, comesAbout, lost⟩ := hides.exists_lost
    have resolution :=
      mem_resolutions_of_choice firstApplicable (Decision.prefer_mem_reach outcome) candidates
    rw [decision_combine_firstApplicable, decision_deciding, comesAbout] at resolution
    exact lost (contains resolution)
  · rintro nothingHidden outcome ⟨resolved, resolves, rfl⟩
    rw [decision_combine_firstApplicable, Finset.mem_coe]
    by_contra lost
    exact nothingHidden
      (Decision.hides_of_picks (Candidate.picked_of_resolves resolves) lost)

/-- A child that may have failed to apply hides the permit after it. -/
theorem firstApplicable_hides_permit :
    (firstApplicable.combine [.deciding .indeterminateDeny, .deciding .permit]).result.decision =
        .indeterminateDeny ∧
      .permit ∈ firstApplicable.resolutions [.deciding .indeterminateDeny, .deciding .permit] ∧
      .permit ∉ Decision.indeterminateDeny.reach := by
  refine ⟨rfl, ⟨[.deciding .notApplicable, .deciding .permit], ?_, rfl⟩, by decide⟩
  have first :
      (Candidate.deciding .indeterminateDeny).ResolvesTo (.deciding .notApplicable) :=
    show Decision.notApplicable ∈ Decision.indeterminateDeny.reach by decide
  have second : (Candidate.deciding .permit).ResolvesTo (.deciding .permit) :=
    show Decision.permit ∈ Decision.permit.reach by decide
  exact .cons first (.cons second .nil)

end CombiningAlgorithm
end PolicyDecision
