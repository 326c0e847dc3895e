import PolicyDecision.Proofs.Combining.Reach

/-!
# The join of decisions

An overrides algorithm joins the decisions of its children. Apart from the two
spellings of the widest indeterminate decision, the join is commutative,
associative and idempotent, and a child that does not apply adds nothing to it.
So the decision depends neither on the order of the children nor on repetitions,
and some of the children may be combined beforehand.
-/

namespace PolicyDecision
namespace Decision

/-! ## The join of two decisions -/

/-- The decision of two children under an overriding decision. Where they differ,
both definite decisions stay within reach, except that an error which could at
most have given the overridden decision changes nothing beside that decision. -/
def join (overriding first second : Decision) : Decision :=
  if first = overriding ∨ second = overriding then overriding
  else if first = .notApplicable then second.unified
  else if second = .notApplicable then first.unified
  else if first.unified = second.unified then first.unified
  else if first = overriding.otherDefinite ∧ second = overriding.otherDefinite.asIndeterminate ∨
      first = overriding.otherDefinite.asIndeterminate ∧ second = overriding.otherDefinite then
    overriding.otherDefinite
  else .indeterminateDenyPermit

theorem overridden_nil (overriding : Decision) :
    overridden overriding [] = .notApplicable := by
  simp only [overridden, List.not_mem_nil, or_self, if_false]

section Join

variable
  {overriding : Decision}
  (definite : overriding.isDefinite = true)

include definite

theorem join_comm (first second : Decision) :
    join overriding first second = join overriding second first := by
  rcases permit_or_deny_of_isDefinite definite with rfl | rfl <;>
    cases first <;> cases second <;> rfl

theorem join_assoc (first second third : Decision) :
    join overriding (join overriding first second) third =
      join overriding first (join overriding second third) := by
  rcases permit_or_deny_of_isDefinite definite with rfl | rfl <;>
    cases first <;> cases second <;> cases third <;> rfl

theorem join_left_comm (first second third : Decision) :
    join overriding first (join overriding second third) =
      join overriding second (join overriding first third) := by
  rw [← join_assoc definite, join_comm definite first, join_assoc definite]

/-- A decision that is joined a second time changes nothing. -/
theorem join_join_self (first second : Decision) :
    join overriding first (join overriding first second) = join overriding first second := by
  rcases permit_or_deny_of_isDefinite definite with rfl | rfl <;>
    cases first <;> cases second <;> rfl

/-- The join does not look at the spelling of a decision. -/
theorem join_unified_left (first second : Decision) :
    join overriding first.unified second = join overriding first second := by
  rcases permit_or_deny_of_isDefinite definite with rfl | rfl <;>
    cases first <;> cases second <;> rfl

theorem unified_join (first second : Decision) :
    (join overriding first second).unified = join overriding first second := by
  rcases permit_or_deny_of_isDefinite definite with rfl | rfl <;>
    cases first <;> cases second <;> rfl

/-- Something that does not apply changes at most the spelling of a decision. -/
theorem notApplicable_join (decision : Decision) :
    join overriding .notApplicable decision = decision.unified := by
  rcases permit_or_deny_of_isDefinite definite with rfl | rfl <;> cases decision <;> rfl

/-! ## The join of a list of decisions -/

/-- The first decision is joined to what the precedence of the others gives. -/
theorem overridden_cons (decision : Decision) (decisions : List Decision) :
    overridden overriding (decision :: decisions) =
      join overriding decision (overridden overriding decisions) := by
  -- Once the first decision is known, only the precedence of the others is left
  -- to be compared on both sides.
  rcases permit_or_deny_of_isDefinite definite with rfl | rfl <;> cases decision <;>
    grind [overridden, join, unified, otherDefinite, asIndeterminate]

theorem unified_overridden (decisions : List Decision) :
    (overridden overriding decisions).unified = overridden overriding decisions := by
  cases decisions with
  | nil =>
      rw [overridden_nil]
      rfl
  | cons decision rest => rw [overridden_cons definite, unified_join definite]

/-- Something that does not apply changes nothing. -/
theorem overridden_notApplicable_cons (decisions : List Decision) :
    overridden overriding (.notApplicable :: decisions) = overridden overriding decisions := by
  rw [overridden_cons definite, notApplicable_join definite, unified_overridden definite]

/-- The precedence of two lists is the join of the precedences of each. -/
theorem overridden_append (first second : List Decision) :
    overridden overriding (first ++ second) =
      join overriding (overridden overriding first) (overridden overriding second) := by
  induction first with
  | nil =>
      rw [overridden_nil, notApplicable_join definite, unified_overridden definite]
      rfl
  | cons decision rest inductionHypothesis =>
      rw [List.cons_append, overridden_cons definite, inductionHypothesis,
        overridden_cons definite decision rest, join_assoc definite]

theorem overridden_perm
    {first second : List Decision}
    (reordered : first.Perm second) :
    overridden overriding first = overridden overriding second := by
  induction reordered with
  | nil => rfl
  | cons decision _ inductionHypothesis =>
      rw [overridden_cons definite, inductionHypothesis, ← overridden_cons definite]
  | swap first second rest =>
      simp only [overridden_cons definite]
      exact join_left_comm definite second first _
  | trans _ _ firstHypothesis secondHypothesis => exact firstHypothesis.trans secondHypothesis

/-- A decision that occurs already changes nothing. -/
theorem overridden_cons_of_mem
    {decision : Decision}
    {decisions : List Decision}
    (occurs : decision ∈ decisions) :
    overridden overriding (decision :: decisions) = overridden overriding decisions := by
  have inFront := overridden_perm definite (List.perm_cons_erase occurs)
  rw [overridden_cons definite, inFront, overridden_cons definite, join_join_self definite]

/-- Further decisions change nothing when each of them occurs already or tells that
something does not apply. -/
theorem overridden_append_of_mem
    {added decisions : List Decision}
    (each : ∀ decision ∈ added, decision ∈ decisions ∨ decision = .notApplicable) :
    overridden overriding (added ++ decisions) = overridden overriding decisions := by
  induction added with
  | nil => rfl
  | cons decision rest inductionHypothesis =>
      obtain ⟨ofFirst, ofRest⟩ := List.forall_mem_cons.mp each
      rw [← inductionHypothesis ofRest, List.cons_append]
      rcases ofFirst with occurs | rfl
      · exact overridden_cons_of_mem definite (List.mem_append_right rest occurs)
      · exact overridden_notApplicable_cons definite (rest ++ decisions)

end Join

end Decision

namespace CombiningAlgorithm

/-- The decision of a combination, with both spellings of the widest indeterminate
decision made one. -/
def outcome (algorithm : CombiningAlgorithm) (candidates : List Candidate) : Decision :=
  (algorithm.combine candidates).result.decision.unified

/-- The outcome of an overrides algorithm depends neither on the order of the
children nor on repeated children nor on children that do not apply, and a child
that stands for the combination of some children may take their place. -/
theorem outcome_of_rearranged
    {algorithm : CombiningAlgorithm}
    {overriding : Decision}
    (overrides : algorithm.overriding? = some overriding)
    (candidates : List Candidate) :
    (∀ reordered : List Candidate, reordered.Perm candidates →
      algorithm.outcome reordered = algorithm.outcome candidates) ∧
    (∀ extended : List Candidate, candidates.Sublist extended →
      (∀ candidate ∈ extended, candidate.result ∈ candidates.map Candidate.result ∨
        candidate.decision = .notApplicable) →
      algorithm.outcome extended = algorithm.outcome candidates) ∧
    ∀ (combined : Candidate) (others : List Candidate),
      combined.result = (algorithm.combine candidates).result →
        algorithm.outcome (combined :: others) = algorithm.outcome (candidates ++ others) := by
  have definite := isDefinite_of_overriding overrides
  have decided : ∀ children : List Candidate,
      algorithm.outcome children =
        Decision.overridden overriding (children.map Candidate.decision) :=
    unified_decision_combine_overriding overrides
  refine ⟨?_, ?_, ?_⟩
  · intro reordered perm
    rw [decided, decided]
    exact Decision.overridden_perm definite (perm.map Candidate.decision)
  · intro extended kept each
    obtain ⟨added, perm⟩ := kept.exists_perm_append
    have inFront := (perm.trans List.perm_append_comm).map Candidate.decision
    rw [decided, decided, Decision.overridden_perm definite inFront, List.map_append]
    refine Decision.overridden_append_of_mem definite fun decision occurs => ?_
    obtain ⟨candidate, member, rfl⟩ := List.mem_map.mp occurs
    refine (each candidate (perm.mem_iff.mpr (List.mem_append_right _ member))).imp_left ?_
    intro repeated
    obtain ⟨child, isChild, same⟩ := List.mem_map.mp repeated
    exact List.mem_map.mpr ⟨child, isChild, congrArg EvaluationResult.decision same⟩
  · intro combined others same
    have grouped : combined.decision.unified =
        Decision.overridden overriding (candidates.map Candidate.decision) := by
      rw [← decided, outcome, ← same]
      rfl
    rw [decided, decided, List.map_cons, List.map_append, Decision.overridden_append definite,
      ← grouped, Decision.join_unified_left definite, Decision.overridden_cons definite]

/-- A permit and a doubtful denial in the other order, with the permit repeated
around a child that does not apply, and combined before a doubtful permit. -/
theorem outcome_of_rearranged_of_doubtfulDenial :
    let permit := Candidate.deciding .permit
    let doubtful := Candidate.deciding .indeterminateDeny
    let silent := Candidate.deciding .notApplicable
    let combined := Candidate.deciding .indeterminateDenyPermit
    let later := Candidate.deciding .indeterminatePermit
    denyOverrides.outcome [permit, doubtful] = .indeterminateDenyPermit ∧
    denyOverrides.outcome [doubtful, permit] = denyOverrides.outcome [permit, doubtful] ∧
    denyOverrides.outcome [permit, silent, doubtful, permit] =
      denyOverrides.outcome [permit, doubtful] ∧
    denyOverrides.outcome [combined, later] =
      denyOverrides.outcome [permit, doubtful, later] := by
  intro permit doubtful silent combined later
  obtain ⟨reordered, extended, grouped⟩ :=
    outcome_of_rearranged (show denyOverrides.overriding? = some .deny from rfl) [permit, doubtful]
  have kept : [permit, doubtful].Sublist [permit, silent, doubtful, permit] :=
    .cons_cons permit (.cons silent (.cons_cons doubtful (.cons permit .slnil)))
  refine ⟨rfl, reordered _ (.swap permit doubtful []), extended _ kept ?_,
    grouped combined [later] rfl⟩
  intro candidate member
  simp only [List.mem_cons, List.not_mem_nil, or_false] at member
  rcases member with rfl | rfl | rfl | rfl
  · exact .inl (.head _)
  · exact .inr rfl
  · exact .inl (.tail _ (.head _))
  · exact .inl (.head _)

end CombiningAlgorithm
end PolicyDecision
