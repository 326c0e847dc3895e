import PolicyDecision.Combining.Algorithm

/-!
# Folds of results

What one step of a fold keeps, the whole fold keeps. A fold whose decisive
results do not depend on its state ends with the first of them, or else resolves
the state that has absorbed all results.
-/

namespace PolicyDecision

/-- A step goes on in a state with an invariant or ends with a result that has a
property. -/
def FoldStep.Leads
    {σ : Type}
    (invariant : σ → Prop)
    (property : EvaluationResult → Prop) : FoldStep σ → Prop
  | .next state => invariant state
  | .done result => property result

section Folds

variable
  {α σ : Type}
  {resultOf : α → EvaluationResult}
  {take : σ → EvaluationResult → FoldStep σ}
  {resolve : σ → EvaluationResult}

/-- A property of the results of all items is one of the result of the fold when
each step keeps an invariant of the state that gives the property in the end. -/
theorem foldResults_invariant
    {invariant : σ → Prop}
    {property : EvaluationResult → Prop}
    (step : ∀ state result, invariant state → property result →
      (take state result).Leads invariant property)
    (resolved : ∀ state, invariant state → property (resolve state))
    {items : List α}
    (each : ∀ item ∈ items, property (resultOf item))
    {state : σ}
    (start : invariant state) :
    property (foldResults resultOf take resolve state items).1 := by
  induction items generalizing state with
  | nil => exact resolved state start
  | cons item rest inductionHypothesis =>
      obtain ⟨itemHas, restHave⟩ := List.forall_mem_cons.mp each
      have stepped := step state (resultOf item) start itemHas
      simp only [foldResults]
      cases taken : take state (resultOf item) with
      | done final =>
          rw [taken] at stepped
          exact stepped
      | next following =>
          rw [taken] at stepped
          exact inductionHypothesis restHave stepped

section Decisive

variable
  {decisive : σ → EvaluationResult → Bool}
  {absorb : σ → EvaluationResult → σ}
  (shape : ∀ state result, take state result =
    if decisive state result then .done result else .next (absorb state result))
  (kept : ∀ state result, decisive (absorb state result) = decisive state)

include shape kept

/-- A fold ends with the first decisive result and does not look at the items after
it. -/
theorem foldResults_append_of_decisive
    (state : σ)
    {before : List α}
    (undecided : ∀ earlier ∈ before, decisive state (resultOf earlier) = false)
    {stop : α}
    (decides : decisive state (resultOf stop) = true)
    (after : List α) :
    foldResults resultOf take resolve state (before ++ stop :: after) =
      (resultOf stop, before.length + 1) := by
  induction before generalizing state with
  | nil => simp only [List.nil_append, foldResults, shape, decides, if_true, List.length_nil]
  | cons item rest inductionHypothesis =>
      obtain ⟨itemUndecided, restUndecided⟩ := List.forall_mem_cons.mp undecided
      have lasting := kept state (resultOf item)
      have further := inductionHypothesis (absorb state (resultOf item))
        (by rwa [lasting]) (by rwa [lasting])
      simp only [List.cons_append, foldResults, shape, itemUndecided, Bool.false_eq_true,
        if_false, further, List.length_cons]

/-- A fold without decisive results takes all of them and resolves the state that has
absorbed them. -/
theorem foldResults_of_undecided
    (state : σ)
    {items : List α}
    (undecided : ∀ item ∈ items, decisive state (resultOf item) = false) :
    foldResults resultOf take resolve state items =
      (resolve ((items.map resultOf).foldl absorb state), items.length) := by
  induction items generalizing state with
  | nil => rfl
  | cons item rest inductionHypothesis =>
      obtain ⟨itemUndecided, restUndecided⟩ := List.forall_mem_cons.mp undecided
      have further := inductionHypothesis (absorb state (resultOf item))
        (by rwa [kept state (resultOf item)])
      simp only [foldResults, shape, itemUndecided, Bool.false_eq_true, if_false, further,
        List.map_cons, List.foldl_cons, List.length_cons]

/-- The result of a fold is the first decisive one, or else the resolution of the
state that has absorbed all results. -/
theorem foldResults_of_decisive
    (state : σ)
    (items : List α) :
    (foldResults resultOf take resolve state items).1 =
      ((items.map resultOf).find? (decisive state)).getD
        (resolve ((items.map resultOf).foldl absorb state)) := by
  rw [List.find?_map]
  cases found : items.find? (decisive state ∘ resultOf) with
  | none =>
      have undecided : ∀ item ∈ items, decisive state (resultOf item) = false := by
        simpa using List.find?_eq_none.mp found
      rw [foldResults_of_undecided shape kept state undecided]
      rfl
  | some stop =>
      obtain ⟨decides, before, after, rfl, earlier⟩ := List.find?_eq_some_iff_append.mp found
      have undecided : ∀ item ∈ before, decisive state (resultOf item) = false := by
        simpa using earlier
      rw [foldResults_append_of_decisive shape kept state undecided decides]
      rfl

end Decisive

end Folds

/-- The first result that applies ends the search for it. -/
theorem takeApplicable_eq (state : Unit) (result : EvaluationResult) :
    takeApplicable state result =
      if decide (result.decision ≠ .notApplicable) then .done result else .next () := by
  unfold takeApplicable
  by_cases inapplicable : result.decision = .notApplicable <;> simp [inapplicable]

end PolicyDecision
