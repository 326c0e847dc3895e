import PolicyDecision.Proofs.Store.Termination

/-!
# Reach of evaluations

What can be evaluated has a target, a result and directives of its own. Its
evaluation reaches what it asks for, directly or through further evaluations: the
rules and children within it, and the stored definitions that references lead to.
-/

namespace PolicyDecision

namespace Evaluable

/-- The result of an evaluation. -/
def result (scope : Scope) : Evaluable → EvaluationResult
  | .rule single => single.evaluate scope.attributeValues
  | .node tree => (tree.answer scope).result.get

/-- Whether the target of what is evaluated applies. -/
def targetMatch (scope : Scope) : Evaluable → MatchResult
  | .rule single => single.target.evaluate scope.attributeValues
  | .node tree => (tree.answer scope).target.get

/-- The directives stated by a rule, a policy or a policy set itself. -/
def directives : Evaluable → Directives
  | .rule single => single.directives
  | .node (.policy leaf) => leaf.header.directives
  | .node (.policySet header _) => header.directives
  | .node (.reference _) => .empty

end Evaluable

namespace Store

/-- An evaluation asks for another one, directly or through further ones. -/
def Reaches (store : Store) : Evaluable → Evaluable → Prop :=
  Relation.ReflTransGen store.Asks

variable {store : Store} {start : Evaluable}

theorem reaches_self (store : Store) (start : Evaluable) : store.Reaches start start :=
  Relation.ReflTransGen.refl

/-- A policy is reached with its rules. -/
theorem Reaches.rule
    {leaf : Policy}
    (reaches : store.Reaches start (.node (.policy leaf)))
    {rule : Rule}
    (member : rule ∈ leaf.rules) : store.Reaches start (.rule rule) :=
  Relation.ReflTransGen.tail reaches (.rule member)

/-- A policy set is reached with its children. -/
theorem Reaches.child
    {header : PolicyHeader}
    {children : List PolicyNode}
    (reaches : store.Reaches start (.node (.policySet header children)))
    {child : PolicyNode}
    (member : child ∈ children) : store.Reaches start (.node child) :=
  Relation.ReflTransGen.tail reaches (.child member)

/-- A reference is reached with the definition that it leads to. -/
theorem Reaches.definition
    {cited : PolicyReference}
    (reaches : store.Reaches start (.node (.reference cited)))
    {definition : Definition}
    (resolved : store.resolution? cited = some definition) :
    store.Reaches start (.node definition.toNode) :=
  Relation.ReflTransGen.tail reaches (.definition resolved)

/-- A node is reached with all parts of it. -/
theorem Reaches.part
    {node part : PolicyNode}
    (reaches : store.Reaches start (.node node))
    (isPart : part ∈ node.parts) : store.Reaches start (.node part) := by
  induction node using PolicyNode.inductionOnChildren with
  | policy leaf =>
      rw [PolicyNode.parts, List.mem_singleton] at isPart
      exact isPart ▸ reaches
  | policySet header children inductionHypothesis =>
      rw [PolicyNode.parts, PolicyNode.partsOf_eq_flatMap] at isPart
      rcases List.mem_cons.mp isPart with rfl | nested
      · exact reaches
      · obtain ⟨child, member, within⟩ := List.mem_flatMap.mp nested
        exact inductionHypothesis child member (reaches.child member) within
  | reference cited =>
      rw [PolicyNode.parts, List.mem_singleton] at isPart
      exact isPart ▸ reaches

end Store
end PolicyDecision
