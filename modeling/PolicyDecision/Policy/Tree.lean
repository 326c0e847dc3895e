import PolicyDecision.Combining.Algorithm
import PolicyDecision.Policy.Rule

/-!
# Policy trees

Policies hold rules; policy sets hold policies, further policy sets, and
references to definitions that a store keeps under an identifier.
-/

namespace PolicyDecision

/-- A named parameter of a combining algorithm. -/
structure CombinerParameter where
  name : String
  value : Value

/-- What policies and policy sets have in common: identity, target, combining
algorithm and directives. -/
structure PolicyHeader where
  id : String
  version : Option String
  description : String
  target : Target
  algorithm : CombiningAlgorithm
  parameters : List CombinerParameter
  directives : Directives

namespace PolicyHeader

/-- A header without a version, a target, parameters and directives. -/
def ofAlgorithm (id : String) (algorithm : CombiningAlgorithm) : PolicyHeader :=
  ⟨id, none, "", .any, algorithm, [], .empty⟩

/-- The identifier recorded on results. -/
def identifier (header : PolicyHeader) : PolicyIdentifier := ⟨header.id, header.version⟩

end PolicyHeader

/-- A policy: rules under a combining algorithm. -/
structure Policy where
  header : PolicyHeader
  rules : List Rule

/-- A reference to a definition of a store, in any version or exactly in the one
given. -/
structure PolicyReference where
  id : String
  version : Option String
  deriving DecidableEq, Repr

/-- A child of a policy set. -/
inductive PolicyNode
  | policy (policy : Policy)
  | policySet (header : PolicyHeader) (children : List PolicyNode)
  | reference (reference : PolicyReference)

/-- A policy set: policies, policy sets and references under a combining
algorithm. -/
structure PolicySet where
  header : PolicyHeader
  children : List PolicyNode

/-- A policy set as a child of another one. -/
def PolicySet.toNode (set : PolicySet) : PolicyNode := .policySet set.header set.children

namespace PolicyNode

mutual

/-- The identifiers that a child refers to, those of nested sets included. -/
def referencedIds : PolicyNode → List String
  | .policy _ => []
  | .policySet _ children => referencedIdsOf children
  | .reference cited => [cited.id]

/-- The identifiers that children refer to, in order. -/
def referencedIdsOf : List PolicyNode → List String
  | [] => []
  | node :: rest => referencedIds node ++ referencedIdsOf rest

end

/-- The children refer to what each of them refers to. -/
theorem referencedIdsOf_eq_flatMap (children : List PolicyNode) :
    referencedIdsOf children = children.flatMap referencedIds := by
  induction children with
  | nil => rfl
  | cons node rest inductionHypothesis => simp [referencedIdsOf, inductionHypothesis]

end PolicyNode

/-- A policy or a policy set as a store keeps it. -/
inductive Definition
  | policy (policy : Policy)
  | policySet (set : PolicySet)

namespace Definition

/-- The header of a definition. -/
def header : Definition → PolicyHeader
  | .policy leaf => leaf.header
  | .policySet set => set.header

/-- The identifier under which a definition is stored. -/
def id (definition : Definition) : String := definition.header.id

/-- The identifier recorded on results. -/
def identifier (definition : Definition) : PolicyIdentifier := definition.header.identifier

/-- The definition is a policy set. -/
def isPolicySet : Definition → Bool
  | .policy _ => false
  | .policySet _ => true

/-- The definition as a child of a policy set. -/
def toNode : Definition → PolicyNode
  | .policy leaf => .policy leaf
  | .policySet set => set.toNode

/-- The identifiers that the definition refers to. -/
def referencedIds (definition : Definition) : List String := definition.toNode.referencedIds

end Definition
end PolicyDecision
