import PolicyDecision.Proofs.Combining.Fallback

/-!
# Passes through the children

All algorithms but the choice of the only applicable child go through the children
until one of them is decisive. Such a pass evaluates each child that it comes to once
and none of the others, and the combined result depends on a child's result exactly
when the pass has come to it.
-/

namespace PolicyDecision

/-- The child with another answer to its evaluation. -/
def Candidate.answering
    (child : Candidate)
    (outcome : Except Fault EvaluationResult) : Candidate :=
  { child with outcome := .pure outcome }

theorem Candidate.result_congr
    {first second : Candidate}
    (same : first.outcome.get = second.outcome.get) : first.result = second.result := by
  rw [result, result, same]

/-- Two lists of children agree on the evaluations that took place. -/
inductive AgreeWhereEvaluated : List Nat → List Candidate → List Candidate → Prop
  | nil : AgreeWhereEvaluated [] [] []
  | cons
      {count : Nat} {counts : List Nat}
      {child other : Candidate} {children others : List Candidate}
      (same : count ≠ 0 → other.outcome.get = child.outcome.get)
      (rest : AgreeWhereEvaluated counts children others) :
      AgreeWhereEvaluated (count :: counts) (child :: children) (other :: others)

namespace AgreeWhereEvaluated

variable {counts : List Nat} {children others : List Candidate}

theorem length_eq (agree : AgreeWhereEvaluated counts children others) :
    others.length = children.length := by
  induction agree with
  | nil => rfl
  | cons _ _ inductionHypothesis => rw [List.length_cons, List.length_cons, inductionHypothesis]

theorem refl
    (length : counts.length = children.length) : AgreeWhereEvaluated counts children children := by
  induction children generalizing counts with
  | nil =>
      cases List.eq_nil_of_length_eq_zero length
      exact .nil
  | cons child rest inductionHypothesis =>
      obtain ⟨count, counts, rfl⟩ := List.exists_cons_of_length_eq_add_one length
      exact .cons (fun _ => rfl) (inductionHypothesis (Nat.succ.inj length))

/-- An evaluated child has the same result in both lists. -/
theorem result_of_evaluated
    (agree : AgreeWhereEvaluated counts children others)
    {position : Nat}
    (evaluated : counts[position]? = some 1) :
    others[position]?.map Candidate.result = children[position]?.map Candidate.result := by
  induction agree generalizing position with
  | nil => rfl
  | @cons count counts child other children others same _ inductionHypothesis =>
      cases position with
      | zero =>
          cases evaluated
          have results := Candidate.result_congr (same Nat.one_ne_zero)
          simp only [List.getElem?_cons_zero, Option.map_some, results]
      | succ position => exact inductionHypothesis evaluated

/-- A child that was not evaluated may answer anything. -/
theorem replace
    {before after : List Candidate}
    {child : Candidate}
    (length : counts.length = (before ++ child :: after).length)
    (unevaluated : counts[before.length]? = some 0)
    (outcome : Except Fault EvaluationResult) :
    AgreeWhereEvaluated counts (before ++ child :: after)
      (before ++ child.answering outcome :: after) := by
  induction before generalizing counts with
  | nil =>
      obtain ⟨count, counts, rfl⟩ := List.exists_cons_of_length_eq_add_one length
      cases unevaluated
      exact .cons (fun evaluated => absurd rfl evaluated) (refl (Nat.succ.inj length))
  | cons earlier before inductionHypothesis =>
      obtain ⟨count, counts, rfl⟩ := List.exists_cons_of_length_eq_add_one length
      exact .cons (fun _ => rfl) (inductionHypothesis (Nat.succ.inj length) unevaluated)

end AgreeWhereEvaluated

/-- Every decision can be answered with a result other than a given one. -/
theorem EvaluationResult.exists_ne (decision : Decision) (result : EvaluationResult) :
    ∃ other : EvaluationResult, other.decision = decision ∧ other ≠ result := by
  by_cases isOk : result.status = .ok
  · refine ⟨.processingError decision "", rfl, ?_⟩
    rintro rfl
    cases isOk
  · refine ⟨.ofDecision decision, rfl, ?_⟩
    rintro rfl
    exact isOk rfl

namespace CombiningAlgorithm

/-! ## Folds -/

section Folds

variable
  {σ : Type}
  {take : σ → EvaluationResult → FoldStep σ}
  {resolve : σ → EvaluationResult}

/-- A fold evaluates its first child and goes on unless that was decisive. -/
theorem foldCandidates_cons (state : σ) (child : Candidate) (rest : List Candidate) :
    foldCandidates take resolve state (child :: rest) =
      match take state child.result with
      | .done final => ⟨final, 1 :: List.replicate rest.length 0⟩
      | .next following =>
          let further := foldCandidates take resolve following rest
          ⟨further.result, 1 :: further.evaluations⟩ := by
  simp only [foldCandidates, foldResults, List.length_cons]
  cases take state child.result with
  | done final => rfl
  | next following =>
      simp only [Nat.add_sub_add_right, List.replicate_succ, List.cons_append]

/-- A fold does not look at what children answer that it does not evaluate. -/
theorem foldCandidates_congr
    {state : σ}
    {children others : List Candidate}
    (agree : AgreeWhereEvaluated (foldCandidates take resolve state children).evaluations
      children others) :
    foldCandidates take resolve state others = foldCandidates take resolve state children := by
  induction children generalizing state others with
  | nil =>
      cases List.eq_nil_of_length_eq_zero agree.length_eq
      rfl
  | cons child rest inductionHypothesis =>
      rw [foldCandidates_cons] at agree ⊢
      cases taken : take state child.result with
      | done final =>
          rw [taken] at agree
          cases agree with
          | cons same further =>
              have results := Candidate.result_congr (same Nat.one_ne_zero)
              simp only [foldCandidates_cons, results, taken, further.length_eq]
      | next following =>
          rw [taken] at agree
          cases agree with
          | cons same further =>
              have results := Candidate.result_congr (same Nat.one_ne_zero)
              simp only [foldCandidates_cons, results, taken, inductionHypothesis further]

end Folds

/-! ## Passes -/

/-- The decisions of a child after which the remaining children are not evaluated. -/
def isDecisive : CombiningAlgorithm → Decision → Bool
  | .denyOverrides, decision => decision = .deny
  | .orderedDenyOverrides, decision => decision = .deny
  | .permitUnlessDeny, decision => decision = .deny
  | .permitOverrides, decision => decision = .permit
  | .orderedPermitOverrides, decision => decision = .permit
  | .denyUnlessPermit, decision => decision = .permit
  | .firstApplicable, decision => decision ≠ .notApplicable
  | .onlyOneApplicable, _ => false

/-- Either a child is the first decisive one or none is decisive. -/
theorem exists_decisive_or_undecided
    (algorithm : CombiningAlgorithm)
    (candidates : List Candidate) :
    (∃ before stop after, candidates = before ++ stop :: after ∧
        (∀ earlier ∈ before, algorithm.isDecisive earlier.decision = false) ∧
        algorithm.isDecisive stop.decision = true) ∨
      ∀ child ∈ candidates, algorithm.isDecisive child.decision = false := by
  cases found : candidates.find? fun child => algorithm.isDecisive child.decision with
  | none =>
      right
      simpa using List.find?_eq_none.mp found
  | some stop =>
      left
      obtain ⟨decides, before, after, split, undecided⟩ :=
        List.find?_eq_some_iff_append.mp found
      exact ⟨before, stop, after, split, by simpa using undecided, decides⟩

/-- An algorithm as a pass through the results of the children that ends with the
first decisive one and absorbs the others. -/
structure Pass (algorithm : CombiningAlgorithm) where
  State : Type
  start : State
  take : State → EvaluationResult → FoldStep State
  resolve : State → EvaluationResult
  decisive : State → EvaluationResult → Bool
  absorb : State → EvaluationResult → State
  combine_eq : ∀ candidates,
    algorithm.combine candidates = foldCandidates take resolve start candidates
  take_eq : ∀ state result, take state result =
    if decisive state result then .done result else .next (absorb state result)
  decisive_absorb : ∀ state result, decisive (absorb state result) = decisive state
  decisive_start : ∀ result, decisive start result = algorithm.isDecisive result.decision

namespace Pass

variable {algorithm : CombiningAlgorithm}

/-- An overrides algorithm passes to the first overriding result. -/
def ofOverriding
    {overriding : Decision}
    (overrides : algorithm.overriding? = some overriding) : Pass algorithm where
  State := OverridesState
  start := .empty
  take := OverridesState.take overriding
  resolve := OverridesState.resolve
  decisive _ result := result.decision = overriding
  absorb := OverridesState.absorb overriding
  combine_eq _ := by cases algorithm <;> cases overrides <;> rfl
  take_eq := OverridesState.take_eq overriding
  decisive_absorb _ _ := rfl
  decisive_start _ := by cases algorithm <;> cases overrides <;> rfl

/-- An algorithm with a fallback decision passes to the first result of the other
definite decision. -/
def ofFallback
    {fallback : Decision}
    (fallsBack : algorithm.fallback? = some fallback) : Pass algorithm where
  State := UnlessState
  start := .ofFallback fallback
  take := UnlessState.take
  resolve := UnlessState.resolve
  decisive state result := result.decision = state.fallback.otherDefinite
  absorb := UnlessState.absorb
  combine_eq := combine_fallback fallsBack
  take_eq := UnlessState.take_eq
  decisive_absorb _ _ := by rw [UnlessState.fallback_absorb]
  decisive_start _ := by cases algorithm <;> cases fallsBack <;> rfl

/-- The first applicable result ends the pass. -/
def toFirstApplicable : Pass .firstApplicable where
  State := Unit
  start := ()
  take := takeApplicable
  resolve _ := .notApplicable
  decisive _ result := result.decision ≠ .notApplicable
  absorb _ _ := ()
  combine_eq _ := rfl
  take_eq := takeApplicable_eq
  decisive_absorb _ _ := rfl
  decisive_start _ := rfl

/-- A pass ends with the first decisive child and evaluates none of the children after
it. -/
theorem combine_append_of_decisive
    (pass : Pass algorithm)
    {before : List Candidate}
    (undecided : ∀ earlier ∈ before, algorithm.isDecisive earlier.decision = false)
    {stop : Candidate}
    (decides : algorithm.isDecisive stop.decision = true)
    (after : List Candidate) :
    algorithm.combine (before ++ stop :: after) =
      ⟨stop.result, List.replicate (before.length + 1) 1 ++ List.replicate after.length 0⟩ := by
  have folded :
      foldResults Candidate.result pass.take pass.resolve pass.start (before ++ stop :: after) =
        (stop.result, before.length + 1) :=
    foldResults_append_of_decisive pass.take_eq pass.decisive_absorb pass.start
      (fun earlier member =>
        (pass.decisive_start earlier.result).trans (undecided earlier member))
      ((pass.decisive_start stop.result).trans decides) after
  have unevaluated : (before ++ stop :: after).length - (before.length + 1) = after.length := by
    rw [List.length_append, List.length_cons]
    omega
  simp only [pass.combine_eq, foldCandidates, folded, unevaluated]

/-- A pass without a decisive child evaluates all children. -/
theorem evaluations_combine_of_undecided
    (pass : Pass algorithm)
    {candidates : List Candidate}
    (undecided : ∀ child ∈ candidates, algorithm.isDecisive child.decision = false) :
    (algorithm.combine candidates).evaluations = List.replicate candidates.length 1 := by
  have folded :
      foldResults Candidate.result pass.take pass.resolve pass.start candidates =
        (pass.resolve ((candidates.map Candidate.result).foldl pass.absorb pass.start),
          candidates.length) :=
    foldResults_of_undecided pass.take_eq pass.decisive_absorb pass.start
      fun child member => (pass.decisive_start child.result).trans (undecided child member)
  simp only [pass.combine_eq, foldCandidates, folded, Nat.sub_self, List.replicate_zero,
    List.append_nil]

/-- A pass does not look at what children answer that it does not evaluate. -/
theorem combine_congr
    (pass : Pass algorithm)
    {candidates others : List Candidate}
    (agree : AgreeWhereEvaluated (algorithm.combine candidates).evaluations candidates others) :
    algorithm.combine others = algorithm.combine candidates := by
  rw [pass.combine_eq] at agree
  rw [pass.combine_eq, pass.combine_eq, foldCandidates_congr agree]

end Pass

/-- Every algorithm that may evaluate several children is a pass through them. -/
theorem exists_pass
    {algorithm : CombiningAlgorithm}
    (several : algorithm ≠ .onlyOneApplicable) : Nonempty (Pass algorithm) := by
  cases algorithm with
  | denyOverrides | orderedDenyOverrides | permitOverrides | orderedPermitOverrides =>
      exact ⟨.ofOverriding rfl⟩
  | denyUnlessPermit | permitUnlessDeny => exact ⟨.ofFallback rfl⟩
  | firstApplicable => exact ⟨.toFirstApplicable⟩
  | onlyOneApplicable => exact absurd rfl several

/-- The children are evaluated once up to the first decisive one, or all of them when
none is decisive. -/
def EvaluatesToDecisive
    (algorithm : CombiningAlgorithm)
    (candidates : List Candidate)
    (evaluations : List Nat) : Prop :=
  (∃ before stop after, candidates = before ++ stop :: after ∧
      (∀ earlier ∈ before, algorithm.isDecisive earlier.decision = false) ∧
      algorithm.isDecisive stop.decision = true ∧
      evaluations =
        List.replicate (before.length + 1) 1 ++ List.replicate after.length 0) ∨
    (∀ child ∈ candidates, algorithm.isDecisive child.decision = false) ∧
      evaluations = List.replicate candidates.length 1

theorem Pass.evaluatesToDecisive
    {algorithm : CombiningAlgorithm}
    (pass : Pass algorithm)
    (candidates : List Candidate) :
    algorithm.EvaluatesToDecisive candidates (algorithm.combine candidates).evaluations := by
  rcases algorithm.exists_decisive_or_undecided candidates with
    ⟨before, stop, after, rfl, undecided, decides⟩ | undecided
  · left
    refine ⟨before, stop, after, rfl, undecided, decides, ?_⟩
    rw [pass.combine_append_of_decisive undecided decides]
  · right
    exact ⟨undecided, pass.evaluations_combine_of_undecided undecided⟩

theorem exists_isDecisive
    {algorithm : CombiningAlgorithm}
    (several : algorithm ≠ .onlyOneApplicable) :
    ∃ decision, algorithm.isDecisive decision = true := by
  cases algorithm with
  | denyOverrides | orderedDenyOverrides | permitUnlessDeny | firstApplicable => exact ⟨.deny, rfl⟩
  | permitOverrides | orderedPermitOverrides | denyUnlessPermit => exact ⟨.permit, rfl⟩
  | onlyOneApplicable => exact absurd rfl several

/-- No child before an evaluated one is decisive. -/
theorem Pass.undecided_of_evaluated
    {algorithm : CombiningAlgorithm}
    (pass : Pass algorithm)
    {before after : List Candidate}
    {child : Candidate}
    (evaluated : (algorithm.combine (before ++ child :: after)).evaluations[before.length]? =
      some 1) :
    ∀ earlier ∈ before, algorithm.isDecisive earlier.decision = false := by
  rcases algorithm.exists_decisive_or_undecided before with
    ⟨front, stop, back, rfl, undecided, decides⟩ | undecided
  · exfalso
    rw [List.append_assoc, List.cons_append, pass.combine_append_of_decisive undecided decides,
      List.getElem?_append_right (by simp)] at evaluated
    simp [List.getElem?_replicate] at evaluated
  · exact undecided

end CombiningAlgorithm
end PolicyDecision
