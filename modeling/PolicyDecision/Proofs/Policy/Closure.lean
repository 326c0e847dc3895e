import PolicyDecision.Proofs.Combining.Closure
import PolicyDecision.Proofs.Policy.Tree

/-!
# Properties kept by policy trees

A combinable property of results is one of the result of a whole tree when its
rules and references have it and its headers hand it on: each header keeps it
under an indeterminate target, with its directives and with its identifier, and
its algorithm falls back to nothing without it and fails with nothing without it.
-/

namespace PolicyDecision

variable {property : EvaluationResult → Prop} {source : AttributeSource}

/-- A header keeps a property in everything it does to results of children. -/
structure PolicyHeader.HandsOn
    (header : PolicyHeader)
    (source : AttributeSource)
    (mark : EvaluationResult → EvaluationResult)
    (property : EvaluationResult → Prop) : Prop where
  /-- The algorithm falls back to a decision. -/
  fallback : ∀ decision ∈ header.algorithm.fallback?, property (.ofDecision decision)
  /-- The algorithm fails to choose a child. -/
  undecided : ∀ status, property (.withStatus .indeterminate status)
  /-- The target is indeterminate. -/
  weaken : ∀ {result : EvaluationResult} (status : Status),
    property result → property (result.weaken status)
  /-- The directives are fulfilled or fail. -/
  attach : ∀ {result : EvaluationResult},
    property result → property (header.directives.attach source result)
  /-- The identifier is recorded. -/
  mark : ∀ {result : EvaluationResult}, property result → property (mark result)

/-- A header that hands a property on gives it to the combined result. -/
theorem PolicyHeader.HandsOn.combineUnder
    {header : PolicyHeader}
    {mark : EvaluationResult → EvaluationResult}
    (handsOn : header.HandsOn source mark property)
    (combinable : Combinable property)
    (target : MatchResult)
    {candidates : List Candidate}
    (each : ∀ candidate ∈ candidates, property candidate.result) :
    property (header.combineUnder source target mark candidates) := by
  have combined : property (header.algorithm.combine candidates).result :=
    header.algorithm.combine_keeps combinable handsOn.fallback
      (fun status _ => handsOn.undecided status) each
  have concluded :
      property (header.conclude source target (header.algorithm.combine candidates).result) := by
    unfold conclude
    split
    · exact handsOn.weaken _ combined
    · exact handsOn.attach combined
  unfold PolicyHeader.combineUnder markApplicable
  split
  · exact concluded
  · exact handsOn.mark concluded

theorem NodeAnswer.underTarget_keeps
    {target : Thunk MatchResult}
    {applied : MatchResult → EvaluationResult}
    (inapplicable : property .notApplicable)
    (reached : ∀ reached, property (applied reached)) :
    property (underTarget target applied).result.get := by
  rw [result_underTarget]
  split
  · exact inapplicable
  · exact reached _

/-- A policy has a property of its rules that its header hands on. -/
theorem Policy.answer_keeps
    (combinable : Combinable property)
    (policy : Policy)
    (handsOn : policy.header.HandsOn source
      (fun result => result.addPolicyIdentifier policy.header.identifier) property)
    (rules : ∀ rule ∈ policy.rules, property (rule.evaluate source)) :
    property (policy.answer source).result.get := by
  refine NodeAnswer.underTarget_keeps combinable.notApplicable fun target =>
    handsOn.combineUnder combinable target fun candidate member => ?_
  obtain ⟨rule, isRule, rfl⟩ := List.mem_map.mp member
  exact rules rule isRule

/-- A tree has a property of its policies and references that the headers of its
policy sets hand on. -/
theorem PolicyNode.answer_keeps
    {scope : Scope}
    (combinable : Combinable property)
    {node : PolicyNode}
    (policies : ∀ leaf, .policy leaf ∈ node.parts →
      property (leaf.answer scope.attributeValues).result.get)
    (policySets : ∀ header children, .policySet header children ∈ node.parts →
      header.HandsOn scope.attributeValues
        (fun result => result.addPolicySetIdentifier header.identifier) property)
    (references : ∀ cited, .reference cited ∈ node.parts →
      property (cited.answer scope).result.get) :
    property (node.answer scope).result.get := by
  induction node using PolicyNode.inductionOnChildren with
  | policy leaf => exact policies leaf (self_mem_parts _)
  | policySet header children inductionHypothesis =>
      have handsOn := policySets header children (self_mem_parts _)
      refine NodeAnswer.underTarget_keeps combinable.notApplicable fun target =>
        handsOn.combineUnder combinable target fun candidate member => ?_
      rw [candidates_eq_map] at member
      obtain ⟨child, isChild, rfl⟩ := List.mem_map.mp member
      have within : child.parts ⊆ (PolicyNode.policySet header children).parts :=
        parts_subset_of_mem isChild
      exact inductionHypothesis child isChild
        (fun leaf isPart => policies leaf (within isPart))
        (fun nested nodes isPart => policySets nested nodes (within isPart))
        (fun cited isPart => references cited (within isPart))
  | reference cited => exact references cited (self_mem_parts _)

end PolicyDecision
