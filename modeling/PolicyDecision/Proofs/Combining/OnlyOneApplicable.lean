import Mathlib.Data.List.Induction
import PolicyDecision.Combining.Algorithm

/-!
# The only applicable child

The choice of the only child that applies goes by the targets alone and ends in one
of three ways. No child applies, or one does and the others do not, or an
indeterminate target or a second match leaves the choice undecided. A child is
evaluated only when all targets have been passed and it is the one that applies.
-/

namespace PolicyDecision
namespace CombiningAlgorithm

/-- No child applies, and no target is indeterminate. -/
def NoneApplies (candidates : List Candidate) : Prop :=
  ∀ candidate ∈ candidates, candidate.target.get = .unmatched

/-- The child between the others applies, and none of the others does. -/
structure OnlyApplies
    (before : List Candidate)
    (child : Candidate)
    (after : List Candidate) : Prop where
  applies : child.target.get = .matched
  noOther : NoneApplies (before ++ after)

/-- One of the children is the only one that applies. -/
def OneApplies (candidates : List Candidate) : Prop :=
  ∃ before child after, candidates = before ++ child :: after ∧ OnlyApplies before child after

/-- The choice stops with a status, either at an indeterminate target before which at
most one child applies, or at the second child that applies. -/
def Undecided (candidates : List Candidate) (status : Status) : Prop :=
  ∃ before stop after, candidates = before ++ stop :: after ∧
    ((NoneApplies before ∨ OneApplies before) ∧ stop.target.get = .indeterminate status ∨
      OneApplies before ∧ stop.target.get = .matched ∧ status = moreThanOneApplicable)

/-! ## The three ends of the choice -/

theorem noneApplies_append {first second : List Candidate} :
    NoneApplies (first ++ second) ↔ NoneApplies first ∧ NoneApplies second :=
  List.forall_mem_append

theorem NoneApplies.perm
    {candidates reordered : List Candidate}
    (none : NoneApplies candidates)
    (perm : reordered.Perm candidates) : NoneApplies reordered :=
  fun candidate member => none candidate (perm.mem_iff.mp member)

/-- The only child that applies is so in every order. -/
theorem OnlyApplies.perm
    {before after reordered : List Candidate}
    {child : Candidate}
    (only : OnlyApplies before child after)
    (perm : reordered.Perm (before ++ child :: after)) :
    ∃ front back, reordered = front ++ child :: back ∧ OnlyApplies front child back := by
  have member : child ∈ reordered :=
    perm.mem_iff.mpr (List.mem_append_right before List.mem_cons_self)
  obtain ⟨front, back, rfl⟩ := List.append_of_mem member
  have others : (front ++ back).Perm (before ++ after) :=
    (List.perm_middle.symm.trans (perm.trans List.perm_middle)).cons_inv
  exact ⟨front, back, rfl, only.applies, only.noOther.perm others⟩

theorem Undecided.append
    {candidates : List Candidate}
    {status : Status}
    (undecided : Undecided candidates status)
    (further : List Candidate) : Undecided (candidates ++ further) status := by
  obtain ⟨before, stop, after, rfl, stops⟩ := undecided
  exact ⟨before, stop, after ++ further, by simp, stops⟩

/-- The choice ends in one of three ways. -/
theorem noneApplies_or_oneApplies_or_undecided (candidates : List Candidate) :
    NoneApplies candidates ∨ OneApplies candidates ∨ ∃ status, Undecided candidates status := by
  induction candidates using List.reverseRecOn with
  | nil => exact .inl (List.forall_mem_nil _)
  | append_singleton before last inductionHypothesis =>
      rcases inductionHypothesis with none | one | ⟨status, undecided⟩
      · cases target : last.target.get with
        | unmatched =>
            left
            exact noneApplies_append.mpr ⟨none, List.forall_mem_singleton.mpr target⟩
        | matched =>
            right; left
            exact ⟨before, last, [], rfl, target, by rwa [List.append_nil]⟩
        | indeterminate status =>
            right; right
            exact ⟨status, before, last, [], rfl, .inl ⟨.inl none, target⟩⟩
      · cases target : last.target.get with
        | unmatched =>
            right; left
            obtain ⟨front, child, back, rfl, only⟩ := one
            refine ⟨front, child, back ++ [last], by simp, only.applies, ?_⟩
            rw [← List.append_assoc]
            exact noneApplies_append.mpr ⟨only.noOther, List.forall_mem_singleton.mpr target⟩
        | matched =>
            right; right
            exact ⟨moreThanOneApplicable, before, last, [], rfl, .inr ⟨one, target, rfl⟩⟩
        | indeterminate status =>
            right; right
            exact ⟨status, before, last, [], rfl, .inl ⟨.inr one, target⟩⟩
      · right; right
        exact ⟨status, undecided.append [last]⟩

/-- The choice reports an error when the indeterminate targets do. -/
theorem Undecided.isOk_eq_false
    {candidates : List Candidate}
    {status : Status}
    (undecided : Undecided candidates status)
    (reported : ∀ candidate ∈ candidates, ∀ failure : Status,
      candidate.target.get = .indeterminate failure → failure.isOk = false) :
    status.isOk = false := by
  obtain ⟨before, stop, after, rfl, ⟨_, failed⟩ | ⟨_, _, rfl⟩⟩ := undecided
  · exact reported stop (List.mem_append_right before List.mem_cons_self) status failed
  · rfl

/-! ## The scan of the targets -/

/-- Children that do not apply are passed. -/
theorem selectOnly_append_of_noneApplies
    {before : List Candidate}
    (none : NoneApplies before)
    (passed : Nat)
    (selected : Option Nat)
    (rest : List Candidate) :
    selectOnly passed selected (before ++ rest) =
      selectOnly (passed + before.length) selected rest := by
  induction before generalizing passed with
  | nil => rfl
  | cons candidate before inductionHypothesis =>
      obtain ⟨unmatched, further⟩ := List.forall_mem_cons.mp none
      have position : passed + 1 + before.length = passed + (before.length + 1) := by omega
      simp only [List.cons_append, selectOnly, unmatched, List.length_cons]
      rw [inductionHypothesis further, position]

/-- The only child that applies is kept in mind while the others are passed. -/
theorem selectOnly_append_of_onlyApplies
    {before after : List Candidate}
    {child : Candidate}
    (only : OnlyApplies before child after)
    (rest : List Candidate) :
    selectOnly 0 none ((before ++ child :: after) ++ rest) =
      selectOnly (before.length + 1 + after.length) (some before.length) rest := by
  obtain ⟨noneBefore, noneAfter⟩ := noneApplies_append.mp only.noOther
  rw [List.append_assoc, selectOnly_append_of_noneApplies noneBefore, Nat.zero_add,
    List.cons_append]
  simp only [selectOnly, only.applies]
  exact selectOnly_append_of_noneApplies noneAfter _ _ rest

/-- An undecided choice fails with its status. -/
theorem selectOnly_of_undecided
    {candidates : List Candidate}
    {status : Status}
    (undecided : Undecided candidates status) :
    selectOnly 0 none candidates = .error status := by
  obtain ⟨before, stop, after, rfl, ⟨none | one, failed⟩ | ⟨one, applies, rfl⟩⟩ := undecided
  · rw [selectOnly_append_of_noneApplies none]
    simp only [selectOnly, failed]
  · obtain ⟨front, child, back, rfl, only⟩ := one
    rw [selectOnly_append_of_onlyApplies only]
    simp only [selectOnly, failed]
  · obtain ⟨front, child, back, rfl, only⟩ := one
    rw [selectOnly_append_of_onlyApplies only]
    simp only [selectOnly, applies]

/-! ## The combination -/

/-- When no child applies, none is evaluated. -/
theorem combineOnlyOne_of_noneApplies
    {candidates : List Candidate}
    (noneApplies : NoneApplies candidates) :
    combineOnlyOne candidates = ⟨.notApplicable, List.replicate candidates.length 0⟩ := by
  have selected : selectOnly 0 none candidates = .ok none := by
    simpa only [List.append_nil, selectOnly] using
      selectOnly_append_of_noneApplies noneApplies 0 none []
  rw [combineOnlyOne, selected]

/-- The only child that applies is the only one to be evaluated. -/
theorem combineOnlyOne_of_onlyApplies
    {before after : List Candidate}
    {child : Candidate}
    (only : OnlyApplies before child after) :
    combineOnlyOne (before ++ child :: after) =
      ⟨child.result, List.replicate before.length 0 ++ 1 :: List.replicate after.length 0⟩ := by
  have selected : selectOnly 0 none (before ++ child :: after) = .ok (some before.length) := by
    simpa only [List.append_nil, selectOnly] using selectOnly_append_of_onlyApplies only []
  have found : (before ++ child :: after)[before.length]? = some child := by
    rw [List.getElem?_append_right (Nat.le_refl _), Nat.sub_self, List.getElem?_cons_zero]
  have counts : (List.replicate (before ++ child :: after).length 0).set before.length 1 =
      List.replicate before.length 0 ++ 1 :: List.replicate after.length 0 := by
    rw [List.length_append, List.length_cons, ← List.replicate_append_replicate,
      List.replicate_succ, List.set_append_right _ _ (Nat.le_of_eq List.length_replicate),
      List.length_replicate, Nat.sub_self, List.set_cons_zero]
  simp only [combineOnlyOne, selected, found, counts]

/-- While the choice is undecided, no child is evaluated. -/
theorem combineOnlyOne_of_undecided
    {candidates : List Candidate}
    {status : Status}
    (undecided : Undecided candidates status) :
    combineOnlyOne candidates =
      ⟨.withStatus .indeterminate status, List.replicate candidates.length 0⟩ := by
  rw [combineOnlyOne, selectOnly_of_undecided undecided]

/-- The result does not depend on the order of the children while the choice is not
undecided. -/
theorem result_combineOnlyOne_of_perm
    {candidates reordered : List Candidate}
    (perm : reordered.Perm candidates)
    (decided : NoneApplies candidates ∨ OneApplies candidates) :
    (combineOnlyOne reordered).result = (combineOnlyOne candidates).result := by
  rcases decided with none | ⟨before, child, after, rfl, only⟩
  · rw [combineOnlyOne_of_noneApplies none, combineOnlyOne_of_noneApplies (none.perm perm)]
  · obtain ⟨front, back, rfl, alsoOnly⟩ := only.perm perm
    rw [combineOnlyOne_of_onlyApplies only, combineOnlyOne_of_onlyApplies alsoOnly]

/-- In any order an undecided choice has the same result apart from its status. -/
theorem exists_status_of_perm
    {candidates reordered : List Candidate}
    (perm : reordered.Perm candidates) :
    ∃ status, (combineOnlyOne reordered).result =
      { (combineOnlyOne candidates).result with status } := by
  rcases noneApplies_or_oneApplies_or_undecided candidates with none | one | ⟨first, undecided⟩
  · exact ⟨_, result_combineOnlyOne_of_perm perm (.inl none)⟩
  · exact ⟨_, result_combineOnlyOne_of_perm perm (.inr one)⟩
  · rcases noneApplies_or_oneApplies_or_undecided reordered with
      none | one | ⟨second, alsoUndecided⟩
    · exact ⟨_, (result_combineOnlyOne_of_perm perm.symm (.inl none)).symm⟩
    · exact ⟨_, (result_combineOnlyOne_of_perm perm.symm (.inr one)).symm⟩
    · refine ⟨second, ?_⟩
      rw [combineOnlyOne_of_undecided undecided, combineOnlyOne_of_undecided alsoUndecided]
      rfl

/-- The only child that applies is evaluated, where a fault counts as an
indeterminate result. Nothing applies when no child does, and otherwise the choice
is indeterminate with an error and no child is evaluated. Apart from the status of
an undecided choice, the order of the children does not matter. -/
theorem combine_onlyOneApplicable
    (candidates : List Candidate)
    (reported : ∀ candidate ∈ candidates, ∀ failure : Status,
      candidate.target.get = .indeterminate failure → failure.isOk = false) :
    (NoneApplies candidates ∨ OneApplies candidates ∨ ∃ status, Undecided candidates status) ∧
    (∀ before child after, candidates = before ++ child :: after →
      OnlyApplies before child after →
      onlyOneApplicable.combine candidates =
          ⟨child.result, List.replicate before.length 0 ++ 1 :: List.replicate after.length 0⟩ ∧
        (∀ result, child.outcome.get = .ok result → child.result = result) ∧
        ∀ fault, child.outcome.get = .error fault →
          child.result = .processingError .indeterminate fault.message) ∧
    (NoneApplies candidates →
      onlyOneApplicable.combine candidates =
        ⟨.notApplicable, List.replicate candidates.length 0⟩) ∧
    (∀ status, Undecided candidates status →
      onlyOneApplicable.combine candidates =
          ⟨.withStatus .indeterminate status, List.replicate candidates.length 0⟩ ∧
        status.isOk = false) ∧
    ∀ reordered : List Candidate, reordered.Perm candidates →
      (NoneApplies candidates ∨ OneApplies candidates →
        (onlyOneApplicable.combine reordered).result =
          (onlyOneApplicable.combine candidates).result) ∧
      ∃ status, (onlyOneApplicable.combine reordered).result =
        { (onlyOneApplicable.combine candidates).result with status } := by
  refine ⟨noneApplies_or_oneApplies_or_undecided candidates, ?_, combineOnlyOne_of_noneApplies,
    ?_, ?_⟩
  · rintro before child after rfl only
    refine ⟨combineOnlyOne_of_onlyApplies only, ?_, ?_⟩
    · intro result succeeded
      rw [Candidate.result, succeeded]
    · intro fault failed
      rw [Candidate.result, failed]
  · intro status undecided
    exact ⟨combineOnlyOne_of_undecided undecided, undecided.isOk_eq_false reported⟩
  · intro reordered perm
    exact ⟨result_combineOnlyOne_of_perm perm, exists_status_of_perm perm⟩

/-- An indeterminate target between two children that apply, and behind both of
them. -/
theorem combine_onlyOneApplicable_of_indeterminateTarget :
    let missing := Status.missingAttribute "no subject"
    let applying : Candidate := ⟨.pure .matched, .pure (.error (.evaluation "no key"))⟩
    let doubtful : Candidate := ⟨.pure (.indeterminate missing), .pure (.ok .notApplicable)⟩
    missing.isOk = false ∧
    onlyOneApplicable.combine [applying, doubtful, applying] =
      ⟨.withStatus .indeterminate missing, [0, 0, 0]⟩ ∧
    onlyOneApplicable.combine [applying, applying, doubtful] =
      ⟨.withStatus .indeterminate moreThanOneApplicable, [0, 0, 0]⟩ ∧
    ∃ status, (onlyOneApplicable.combine [applying, applying, doubtful]).result =
      { (onlyOneApplicable.combine [applying, doubtful, applying]).result with status } := by
  intro missing applying doubtful
  have reported : ∀ candidate ∈ [applying, doubtful, applying], ∀ failure : Status,
      candidate.target.get = .indeterminate failure → failure.isOk = false := by
    intro candidate member failure failed
    simp only [List.mem_cons, List.not_mem_nil, or_false] at member
    rcases member with rfl | rfl | rfl <;> cases failed
    rfl
  obtain ⟨-, -, -, undecided, ordered⟩ :=
    combine_onlyOneApplicable [applying, doubtful, applying] reported
  have one : OneApplies [applying] := ⟨[], applying, [], rfl, rfl, List.forall_mem_nil _⟩
  have stops : Undecided [applying, doubtful, applying] missing :=
    ⟨[applying], doubtful, [applying], rfl, .inl ⟨.inr one, rfl⟩⟩
  have swapped : [applying, applying, doubtful].Perm [applying, doubtful, applying] :=
    .cons applying (.swap doubtful applying [])
  exact ⟨rfl, (undecided missing stops).1, rfl, (ordered _ swapped).2⟩

end CombiningAlgorithm
end PolicyDecision
