import PolicyDecision.Policy.Evaluation

/-!
# Parts of policy trees

A property of policy trees is proved for policies and references, and for a
policy set from its children. The parts of a tree are its nodes at any depth;
references are parts, the definitions that they lead to are not.
-/

namespace PolicyDecision

theorem NodeAnswer.result_underTarget
    (target : Thunk MatchResult)
    (applied : MatchResult → EvaluationResult) :
    (underTarget target applied).result.get =
      match target.get with
      | .unmatched => .notApplicable
      | reached => applied reached := rfl

namespace PolicyNode

/-- Induction on policy trees, with a hypothesis for each child of a policy set. -/
@[elab_as_elim]
theorem inductionOnChildren
    {motive : PolicyNode → Prop}
    (policy : ∀ leaf, motive (.policy leaf))
    (policySet : ∀ header children, (∀ child ∈ children, motive child) →
      motive (.policySet header children))
    (reference : ∀ cited, motive (.reference cited)) :
    ∀ node, motive node
  | .policy leaf => policy leaf
  | .policySet header children =>
      policySet header children fun child member =>
        have _smaller := List.sizeOf_lt_of_mem member
        inductionOnChildren policy policySet reference child
  | .reference cited => reference cited

theorem mem_referencedIds_policySet
    {header : PolicyHeader}
    {children : List PolicyNode}
    {id : String} :
    id ∈ (PolicyNode.policySet header children).referencedIds ↔
      ∃ child ∈ children, id ∈ child.referencedIds := by
  rw [referencedIds, referencedIdsOf_eq_flatMap, List.mem_flatMap]

mutual

/-- The node itself and the parts of its children, in order. -/
def parts : PolicyNode → List PolicyNode
  | .policy leaf => [.policy leaf]
  | .policySet header children => .policySet header children :: partsOf children
  | .reference cited => [.reference cited]

/-- The parts of several nodes, in order. -/
def partsOf : List PolicyNode → List PolicyNode
  | [] => []
  | node :: rest => parts node ++ partsOf rest

end

theorem partsOf_eq_flatMap (children : List PolicyNode) :
    partsOf children = children.flatMap parts := by
  induction children with
  | nil => rfl
  | cons node rest inductionHypothesis => simp [partsOf, inductionHypothesis]

theorem self_mem_parts (node : PolicyNode) : node ∈ node.parts := by
  cases node <;> simp [parts]

theorem parts_subset_of_mem
    {header : PolicyHeader}
    {children : List PolicyNode}
    {child : PolicyNode}
    (member : child ∈ children) : child.parts ⊆ (PolicyNode.policySet header children).parts := by
  intro part isPart
  rw [parts, partsOf_eq_flatMap]
  exact List.mem_cons_of_mem _ (List.mem_flatMap.mpr ⟨child, member, isPart⟩)

/-- The identifiers that a node refers to are those of the references among its
parts. -/
theorem mem_referencedIds_iff {node : PolicyNode} {id : String} :
    id ∈ node.referencedIds ↔ ∃ cited, .reference cited ∈ node.parts ∧ cited.id = id := by
  induction node using PolicyNode.inductionOnChildren with
  | policy leaf => simp [referencedIds, parts]
  | policySet header children inductionHypothesis =>
      rw [mem_referencedIds_policySet, parts, partsOf_eq_flatMap]
      simp only [List.mem_cons, List.mem_flatMap, reduceCtorEq, false_or]
      constructor
      · rintro ⟨child, member, refers⟩
        obtain ⟨cited, isPart, same⟩ := (inductionHypothesis child member).mp refers
        exact ⟨cited, ⟨child, member, isPart⟩, same⟩
      · rintro ⟨cited, ⟨child, member, isPart⟩, same⟩
        exact ⟨child, member, (inductionHypothesis child member).mpr ⟨cited, isPart, same⟩⟩
  | reference cited => simp [referencedIds, parts, eq_comm]

/-- Two scopes with the same values of attributes give a node one answer when
they do so for the references in it. -/
theorem answer_congr
    {scope other : Scope}
    {property : PolicyNode → Prop}
    (sameValues : scope.attributeValues = other.attributeValues)
    (children : ∀ header children, property (.policySet header children) →
      ∀ child ∈ children, property child)
    (references : ∀ cited, property (.reference cited) →
      cited.answer scope = cited.answer other)
    {node : PolicyNode}
    (holds : property node) : node.answer scope = node.answer other := by
  induction node using PolicyNode.inductionOnChildren with
  | policy leaf => rw [answer, answer, sameValues]
  | policySet header nodes inductionHypothesis =>
      have sameCandidates : candidates scope nodes = candidates other nodes := by
        rw [candidates_eq_map, candidates_eq_map]
        refine List.map_congr_left fun child member => ?_
        rw [inductionHypothesis child member (children header nodes holds child member)]
      rw [answer, answer, sameCandidates, sameValues]
  | reference cited =>
      rw [answer, answer]
      exact references cited holds

end PolicyNode
end PolicyDecision
