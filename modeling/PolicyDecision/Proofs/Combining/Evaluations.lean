import Mathlib.Algebra.GroupWithZero.Nat
import PolicyDecision.Proofs.Combining.OnlyOneApplicable
import PolicyDecision.Proofs.Combining.Pass
import PolicyDecision.Proofs.Combining.Reach

/-!
# Evaluated children

Which children a combination evaluates. A pass evaluates the children up to the first
decisive one, and the choice of the only applicable child evaluates at most one of
them. Under every algorithm the combined result depends on a child's result exactly
when the child is evaluated.
-/

namespace PolicyDecision
namespace CombiningAlgorithm

/-! ## The choice of the only applicable child -/

/-- Of the children of a list only one may be evaluated, and it is evaluated once. -/
def EvaluatesOne (candidates : List Candidate) (evaluations : List Nat) : Prop :=
  (∃ before child after, candidates = before ++ child :: after ∧
      OnlyApplies before child after ∧
      evaluations = List.replicate before.length 0 ++ 1 :: List.replicate after.length 0) ∨
    evaluations = List.replicate candidates.length 0

theorem evaluatesOne_combineOnlyOne (candidates : List Candidate) :
    EvaluatesOne candidates (combineOnlyOne candidates).evaluations := by
  rcases noneApplies_or_oneApplies_or_undecided candidates with
    none | ⟨before, child, after, rfl, only⟩ | ⟨status, undecided⟩
  · right
    rw [combineOnlyOne_of_noneApplies none]
  · left
    refine ⟨before, child, after, rfl, only, ?_⟩
    rw [combineOnlyOne_of_onlyApplies only]
  · right
    rw [combineOnlyOne_of_undecided undecided]

/-- The choice of the only applicable child looks at nothing but the targets. -/
theorem selectOnly_congr
    {candidates others : List Candidate}
    (targets : others.map (fun child => child.target.get) =
      candidates.map fun child => child.target.get)
    (passed : Nat)
    (selected : Option Nat) :
    selectOnly passed selected others = selectOnly passed selected candidates := by
  induction candidates generalizing others passed selected with
  | nil =>
      rw [List.map_eq_nil_iff.mp targets]
  | cons child rest inductionHypothesis =>
      obtain ⟨other, others, rfl, same, further⟩ := List.map_eq_cons_iff.mp targets
      simp only [selectOnly, same, inductionHypothesis further]

/-- The choice of the only applicable child does not look at what the others answer. -/
theorem combineOnlyOne_congr
    {candidates others : List Candidate}
    (targets : others.map (fun child => child.target.get) =
      candidates.map fun child => child.target.get)
    (agree : AgreeWhereEvaluated (combineOnlyOne candidates).evaluations candidates others) :
    combineOnlyOne others = combineOnlyOne candidates := by
  have length := agree.length_eq
  have selections := selectOnly_congr targets 0 none
  cases chosen : selectOnly 0 none candidates with
  | error status => simp only [combineOnlyOne, selections, chosen, length]
  | ok selected =>
      cases selected with
      | none => simp only [combineOnlyOne, selections, chosen, length]
      | some position =>
          cases found : candidates[position]? with
          | none =>
              have missing : others[position]? = none := by
                rw [List.getElem?_eq_none_iff] at found ⊢
                rwa [length]
              simp only [combineOnlyOne, selections, chosen, found, missing, length]
          | some child =>
              obtain ⟨within, -⟩ := List.getElem?_eq_some_iff.mp found
              have evaluated : (combineOnlyOne candidates).evaluations[position]? = some 1 := by
                simp only [combineOnlyOne, chosen, found]
                rw [List.getElem?_set_self (by rwa [List.length_replicate])]
              have results := agree.result_of_evaluated evaluated
              rw [found] at results
              obtain ⟨other, otherFound, same⟩ := Option.map_eq_some_iff.mp results
              simp only [combineOnlyOne, selections, chosen, found, otherFound, same, length]

/-- An evaluated child is the only one that applies. -/
theorem onlyApplies_of_evaluated
    {before after : List Candidate}
    {child : Candidate}
    (evaluated : (combineOnlyOne (before ++ child :: after)).evaluations[before.length]? =
      some 1) :
    OnlyApplies before child after := by
  rcases evaluatesOne_combineOnlyOne (before ++ child :: after) with
    ⟨front, only, back, split, applies, counts⟩ | counts
  · rw [counts] at evaluated
    have position : before.length = front.length := by
      rcases Nat.lt_trichotomy before.length front.length with less | same | greater
      · rw [List.getElem?_append_left (by simpa using less)] at evaluated
        simp [List.getElem?_replicate] at evaluated
      · exact same
      · obtain ⟨gap, isGap⟩ := Nat.exists_eq_add_of_lt greater
        rw [isGap, List.getElem?_append_right (by simp; omega), List.length_replicate,
          Nat.add_assoc, Nat.add_sub_cancel_left, List.getElem?_cons_succ] at evaluated
        simp [List.getElem?_replicate] at evaluated
    obtain ⟨rfl, rest⟩ := List.append_inj split position
    obtain ⟨rfl, rfl⟩ := List.cons.inj rest
    exact applies
  · rw [counts] at evaluated
    simp at evaluated

/-- The result of an algorithm depends on what an evaluated child answers. -/
theorem exists_result_ne_of_evaluated
    (algorithm : CombiningAlgorithm)
    {before after : List Candidate}
    {child : Candidate}
    (evaluated : (algorithm.combine (before ++ child :: after)).evaluations[before.length]? =
      some 1) :
    ∃ outcome, (algorithm.combine (before ++ child.answering outcome :: after)).result ≠
      (algorithm.combine (before ++ child :: after)).result := by
  by_cases single : algorithm = .onlyOneApplicable
  · subst single
    obtain ⟨applies, noOther⟩ := onlyApplies_of_evaluated evaluated
    obtain ⟨result, -, different⟩ :=
      EvaluationResult.exists_ne .permit (combineOnlyOne (before ++ child :: after)).result
    have only : OnlyApplies before (child.answering (.ok result)) after := ⟨applies, noOther⟩
    refine ⟨.ok result, ?_⟩
    rw [combine, combineOnlyOne_of_onlyApplies only]
    exact different
  · obtain ⟨pass⟩ := exists_pass single
    obtain ⟨decision, decides⟩ := exists_isDecisive single
    obtain ⟨result, rfl, different⟩ :=
      EvaluationResult.exists_ne decision (algorithm.combine (before ++ child :: after)).result
    have decisive : algorithm.isDecisive (child.answering (.ok result)).decision = true := decides
    refine ⟨.ok result, ?_⟩
    rw [pass.combine_append_of_decisive (pass.undecided_of_evaluated evaluated) decisive]
    exact different

/-! ## Every algorithm -/

theorem EvaluatesToDecisive.bounded
    {algorithm : CombiningAlgorithm}
    {candidates : List Candidate}
    {evaluations : List Nat}
    (evaluates : algorithm.EvaluatesToDecisive candidates evaluations) :
    evaluations.length = candidates.length ∧ ∀ count ∈ evaluations, count ≤ 1 := by
  obtain ⟨before, stop, after, rfl, -, -, rfl⟩ | ⟨-, rfl⟩ := evaluates
  · refine ⟨by simp; omega, ?_⟩
    simp only [List.mem_append, List.mem_replicate]
    omega
  · refine ⟨List.length_replicate, ?_⟩
    simp only [List.mem_replicate]
    omega

theorem EvaluatesOne.bounded
    {candidates : List Candidate}
    {evaluations : List Nat}
    (evaluates : EvaluatesOne candidates evaluations) :
    (evaluations.length = candidates.length ∧ ∀ count ∈ evaluations, count ≤ 1) ∧
      evaluations.sum ≤ 1 := by
  obtain ⟨before, child, after, rfl, -, rfl⟩ | rfl := evaluates
  · refine ⟨⟨by simp, ?_⟩, by simp⟩
    simp only [List.mem_append, List.mem_cons, List.mem_replicate]
    omega
  · refine ⟨⟨List.length_replicate, ?_⟩, by simp⟩
    simp only [List.mem_replicate]
    omega

/-- Each child is evaluated at most once. -/
theorem evaluations_bounded (algorithm : CombiningAlgorithm) (candidates : List Candidate) :
    (algorithm.combine candidates).evaluations.length = candidates.length ∧
      ∀ count ∈ (algorithm.combine candidates).evaluations, count ≤ 1 := by
  by_cases single : algorithm = .onlyOneApplicable
  · subst single
    exact (evaluatesOne_combineOnlyOne candidates).bounded.1
  · obtain ⟨pass⟩ := exists_pass single
    exact (pass.evaluatesToDecisive candidates).bounded

/-- What a combination answers does not depend on the answers of children that it does
not evaluate. -/
theorem combine_congr
    {algorithm : CombiningAlgorithm}
    {candidates others : List Candidate}
    (agree : AgreeWhereEvaluated (algorithm.combine candidates).evaluations candidates others)
    (targets : algorithm = .onlyOneApplicable →
      others.map (fun child => child.target.get) = candidates.map fun child => child.target.get) :
    algorithm.combine others = algorithm.combine candidates := by
  by_cases single : algorithm = .onlyOneApplicable
  · subst single
    exact combineOnlyOne_congr (targets rfl) agree
  · obtain ⟨pass⟩ := exists_pass single
    exact pass.combine_congr agree

/-- A child on whose answer the result depends was evaluated. -/
theorem evaluated_of_result_ne
    {algorithm : CombiningAlgorithm}
    {before after : List Candidate}
    {child : Candidate}
    {outcome : Except Fault EvaluationResult}
    (depends : (algorithm.combine (before ++ child.answering outcome :: after)).result ≠
      (algorithm.combine (before ++ child :: after)).result) :
    (algorithm.combine (before ++ child :: after)).evaluations[before.length]? = some 1 := by
  obtain ⟨length, once⟩ := algorithm.evaluations_bounded (before ++ child :: after)
  have within : before.length <
      (algorithm.combine (before ++ child :: after)).evaluations.length := by
    rw [length, List.length_append, List.length_cons]
    omega
  have count := List.getElem?_eq_getElem within
  rcases Nat.le_one_iff_eq_zero_or_eq_one.mp (once _ (List.getElem_mem within)) with
    unevaluated | evaluated
  · rw [unevaluated] at count
    have sameTargets :
        (before ++ child.answering outcome :: after).map (fun child => child.target.get) =
          (before ++ child :: after).map fun child => child.target.get := by
      rw [List.map_append, List.map_append]
      rfl
    have same := combine_congr (.replace length count outcome) fun _ => sameTargets
    exact absurd (congrArg Combination.result same) depends
  · rw [count, evaluated]

/-- Every algorithm evaluates each child at most once. An algorithm other than the
choice of the only applicable child evaluates the children up to the first decisive
one, and that choice evaluates at most one child. The answers of the children that are
not evaluated make no difference, and those of the others do. -/
theorem evaluations_combine (algorithm : CombiningAlgorithm) (candidates : List Candidate) :
    ((algorithm.combine candidates).evaluations.length = candidates.length ∧
      ∀ count ∈ (algorithm.combine candidates).evaluations, count ≤ 1) ∧
    (algorithm ≠ .onlyOneApplicable →
      algorithm.EvaluatesToDecisive candidates (algorithm.combine candidates).evaluations) ∧
    (algorithm = .onlyOneApplicable → (algorithm.combine candidates).evaluations.sum ≤ 1) ∧
    (∀ others : List Candidate,
      AgreeWhereEvaluated (algorithm.combine candidates).evaluations candidates others →
      (algorithm = .onlyOneApplicable →
        others.map (fun child => child.target.get) =
          candidates.map fun child => child.target.get) →
      algorithm.combine others = algorithm.combine candidates) ∧
    ∀ before child after, candidates = before ++ child :: after →
      ((algorithm.combine candidates).evaluations[before.length]? = some 1 ↔
        ∃ outcome, (algorithm.combine (before ++ child.answering outcome :: after)).result ≠
          (algorithm.combine candidates).result) := by
  refine ⟨algorithm.evaluations_bounded candidates, ?_, ?_, fun _ => combine_congr, ?_⟩
  · intro several
    obtain ⟨pass⟩ := exists_pass several
    exact pass.evaluatesToDecisive candidates
  · rintro rfl
    exact (evaluatesOne_combineOnlyOne candidates).bounded.2
  · rintro before child after rfl
    refine ⟨algorithm.exists_result_ne_of_evaluated, ?_⟩
    rintro ⟨outcome, depends⟩
    exact evaluated_of_result_ne depends

/-- A permit and a denial are evaluated, and whatever the child behind them answers
makes no difference. -/
theorem evaluations_combine_of_denial :
    let permit := Candidate.deciding .permit
    let denial := Candidate.deciding .deny
    let later := Candidate.deciding .notApplicable
    denyOverrides ≠ .onlyOneApplicable ∧
    denyOverrides.EvaluatesToDecisive [permit, denial, later] [1, 1, 0] ∧
    ∀ outcome, denyOverrides.combine [permit, denial, later.answering outcome] =
      denyOverrides.combine [permit, denial, later] := by
  intro permit denial later
  obtain ⟨-, evaluates, -, unread, -⟩ := denyOverrides.evaluations_combine [permit, denial, later]
  have several : denyOverrides ≠ .onlyOneApplicable := by decide
  refine ⟨several, evaluates several, fun outcome => unread _ ?_ fun _ => rfl⟩
  have agree :
      AgreeWhereEvaluated [1, 1, 0] ([permit, denial] ++ later :: [])
        ([permit, denial] ++ later.answering outcome :: []) := .replace rfl rfl outcome
  exact agree

end CombiningAlgorithm
end PolicyDecision
