import PolicyDecision.Result

/-!
# Folds of results

The combining algorithms that go through the results of children in order. Each
is a state that takes one result after another, where a decisive result ends the
fold, and a resolution of the state when no result was decisive.
-/

namespace PolicyDecision

/-- What a fold does after one result: go on in a new state or end. -/
inductive FoldStep (σ : Type)
  | next (state : σ)
  | done (result : EvaluationResult)

/-- The result of a fold over the results of items, and how many of them it took.
The items after those are not looked at. -/
def foldResults
    {α σ : Type}
    (resultOf : α → EvaluationResult)
    (take : σ → EvaluationResult → FoldStep σ)
    (resolve : σ → EvaluationResult) : σ → List α → EvaluationResult × Nat
  | state, [] => (resolve state, 0)
  | state, item :: rest =>
      match take state (resultOf item) with
      | .done final => (final, 1)
      | .next following =>
          let (final, taken) := foldResults resultOf take resolve following rest
          (final, taken + 1)

/-- A fold depends on nothing but the results of its items. -/
theorem foldResults_map
    {α σ : Type}
    (resultOf : α → EvaluationResult)
    (take : σ → EvaluationResult → FoldStep σ)
    (resolve : σ → EvaluationResult)
    (state : σ)
    (items : List α) :
    foldResults id take resolve state (items.map resultOf) =
      foldResults resultOf take resolve state items := by
  induction items generalizing state with
  | nil => rfl
  | cons item rest inductionHypothesis =>
      simp only [List.map_cons, foldResults, id]
      split
      · rfl
      · rw [inductionHypothesis]

/-- A result merged into those collected before it. -/
def mergeInto (collected : Option EvaluationResult) (result : EvaluationResult) :
    EvaluationResult :=
  match collected with
  | some first => first.merge result
  | none => result

/-- The definite decision other than the given one. -/
def Decision.otherDefinite : Decision → Decision
  | .deny => .permit
  | _ => .deny

/-- The state of an overrides algorithm. The results of each kind that does not
decide at once are merged in the order of the children. -/
structure OverridesState where
  overridden : Option EvaluationResult
  indeterminateOverriding : Option EvaluationResult
  indeterminateOverridden : Option EvaluationResult
  indeterminateBoth : Option EvaluationResult

namespace OverridesState

/-- The state before any result. -/
def empty : OverridesState := ⟨none, none, none, none⟩

/-- One result taken in, where a result of the overriding decision ends the
fold. -/
def take (overriding : Decision) (state : OverridesState) (result : EvaluationResult) :
    FoldStep OverridesState :=
  let overridden := overriding.otherDefinite
  if result.decision = overriding then .done result
  else if result.decision = overridden then
    .next { state with overridden := some (mergeInto state.overridden result) }
  else if result.decision = overriding.asIndeterminate then
    .next
      { state with
        indeterminateOverriding := some (mergeInto state.indeterminateOverriding result) }
  else if result.decision = overridden.asIndeterminate then
    .next
      { state with
        indeterminateOverridden := some (mergeInto state.indeterminateOverridden result) }
  else if result.decision = .indeterminate ∨ result.decision = .indeterminateDenyPermit then
    .next { state with indeterminateBoth := some (mergeInto state.indeterminateBoth result) }
  else .next state

/-- The answer when no result was overriding. An error that leaves both definite
decisions within reach comes first, then one that leaves the overriding decision
within reach, then the overridden results. -/
def resolve (state : OverridesState) : EvaluationResult :=
  match state.indeterminateBoth, state.indeterminateOverriding with
  | some both, _ => both
  | none, some overriding =>
      if state.indeterminateOverridden.isSome || state.overridden.isSome then
        .withStatus .indeterminateDenyPermit overriding.status
      else overriding
  | none, none =>
      match state.overridden, state.indeterminateOverridden with
      | some overridden, _ => overridden
      | none, some indeterminate => indeterminate
      | none, none => .notApplicable

end OverridesState

/-- The state of an algorithm with a fallback decision: the merged results of the
children that decided it. -/
structure UnlessState where
  fallback : Decision
  collected : Option EvaluationResult

namespace UnlessState

/-- The state before any result. -/
def ofFallback (fallback : Decision) : UnlessState := ⟨fallback, none⟩

/-- One result taken in, where a result of the other definite decision ends the
fold. -/
def take (state : UnlessState) (result : EvaluationResult) : FoldStep UnlessState :=
  if result.decision = state.fallback.otherDefinite then .done result
  else if result.decision = state.fallback then
    .next { state with collected := some (mergeInto state.collected result) }
  else .next state

/-- The answer when no result was decisive. -/
def resolve (state : UnlessState) : EvaluationResult :=
  state.collected.getD (.ofDecision state.fallback)

end UnlessState

/-- One result taken in by an algorithm that ends at the first applicable one. -/
def takeApplicable (_ : Unit) (result : EvaluationResult) : FoldStep Unit :=
  if result.decision = .notApplicable then .next () else .done result

end PolicyDecision
