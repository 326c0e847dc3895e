import PolicyDecision.Codec.Value
import PolicyDecision.Store.Document

/-!
# Written form of policies

Expressions, targets, rules, policies, policy sets and policy documents as data
trees. Expressions and children of policy sets nest; their reading goes at most
as deep as the tree.
-/

namespace PolicyDecision

namespace Designator

/-- The tree of a designator. -/
def encode (designator : Designator) : DataTree :=
  .table
    [("category", .string designator.category),
     ("attribute_id", .string designator.attributeId),
     ("data_type", designator.datatype.encode),
     ("must_be_present", .boolean designator.mustBePresent)]

/-- The designator that a tree holds. -/
def decode : Decoder Designator := fun tree => do
  let record ← Record.ofTree ["category", "attribute_id", "data_type", "must_be_present"] tree
  let category ← record.required "category" Decoder.string
  let attributeId ← record.required "attribute_id" Decoder.string
  let datatype ← record.required "data_type" Datatype.decode
  let mustBePresent ← record.withDefault "must_be_present" false Decoder.boolean
  return ⟨category, attributeId, datatype, mustBePresent⟩

end Designator

namespace Expression

/-- The tree of a function applied to arguments with the given trees. -/
def applicationTree (functionId : String) (arguments : List DataTree) : DataTree :=
  .table [("function_id", .string functionId), ("arguments", .list arguments)]

mutual

/-- The tree of an expression. -/
def encode : Expression → DataTree
  | .value literal => .ofVariant "value" literal.encode
  | .bag literal => .ofVariant "bag" literal.encode
  | .designator designated => .ofVariant "designator" designated.encode
  | .apply functionId arguments =>
      .ofVariant "apply" (applicationTree functionId (encodeAll arguments))

/-- The trees of expressions. -/
def encodeAll : List Expression → List DataTree
  | [] => []
  | expression :: rest => encode expression :: encodeAll rest

end

/-- The trees of expressions are those of each in order. -/
theorem encodeAll_eq_map (expressions : List Expression) :
    encodeAll expressions = expressions.map encode := by
  induction expressions with
  | nil => rfl
  | cons expression rest inductionHypothesis => simp [encodeAll, inductionHypothesis]

/-- The tree of a function applied to expressions. -/
def encodeApplication (application : String × List Expression) : DataTree :=
  applicationTree application.1 (application.2.map encode)

/-- The application of a function that a tree holds, given how its arguments are
read. -/
def applicationWith (decodeArgument : Decoder Expression) :
    Decoder (String × List Expression) := fun tree => do
  let record ← Record.ofTree ["function_id", "arguments"] tree
  let functionId ← record.required "function_id" Decoder.string
  let arguments ← record.withDefault "arguments" [] (Decoder.list decodeArgument)
  return (functionId, arguments)

/-- The expression that a tree holds, nested to at most the given depth. -/
def decodeWithin : Nat → Decoder Expression
  | 0 => fun _ => .error .shape
  | depth + 1 => fun tree => do
      let (name, payload) ← DataTree.variant tree
      if name = "value" then return .value (← Value.decode payload)
      else if name = "bag" then return .bag (← Bag.decode payload)
      else if name = "designator" then return .designator (← Designator.decode payload)
      else if name = "apply" then
        let (functionId, arguments) ← applicationWith (decodeWithin depth) payload
        return .apply functionId arguments
      else throw .shape

/-- The expression that a tree holds. -/
def decode : Decoder Expression := fun tree => decodeWithin tree.depth tree

/-- The application of a function that a tree holds. -/
def decodeApplication : Decoder (String × List Expression) := applicationWith decode

end Expression

namespace Match

/-- The tree of a match. -/
def encode (comparison : Match) : DataTree :=
  .table
    [("function_id", .string comparison.functionId),
     ("value", comparison.literal.encode),
     ("designator", comparison.designator.encode)]

/-- The match that a tree holds. -/
def decode : Decoder Match := fun tree => do
  let record ← Record.ofTree ["function_id", "value", "designator"] tree
  let functionId ← record.required "function_id" Decoder.string
  let literal ← record.required "value" Value.decode
  let designator ← record.required "designator" Designator.decode
  return ⟨functionId, literal, designator⟩

end Match

namespace AllOf

/-- The tree of a conjunction of matches. -/
def encode (conjunction : AllOf) : DataTree :=
  .table [("matches", .ofList Match.encode conjunction.matchList)]

/-- The conjunction of matches that a tree holds. -/
def decode : Decoder AllOf := fun tree => do
  let record ← Record.ofTree ["matches"] tree
  let matchList ← record.required "matches" (Decoder.list Match.decode)
  return ⟨matchList⟩

end AllOf

namespace AnyOf

/-- The tree of a disjunction. -/
def encode (disjunction : AnyOf) : DataTree :=
  .table [("all_of", .ofList AllOf.encode disjunction.allOf)]

/-- The disjunction that a tree holds. -/
def decode : Decoder AnyOf := fun tree => do
  let record ← Record.ofTree ["all_of"] tree
  let allOf ← record.required "all_of" (Decoder.list AllOf.decode)
  return ⟨allOf⟩

end AnyOf

namespace Target

/-- The tree of a target. -/
def encode (target : Target) : DataTree :=
  .table [("any_of", .ofList AnyOf.encode target.anyOf)]

/-- The target that a tree holds. -/
def decode : Decoder Target := fun tree => do
  let record ← Record.ofTree ["any_of"] tree
  let anyOf ← record.withDefault "any_of" [] (Decoder.list AnyOf.decode)
  return ⟨anyOf⟩

end Target

namespace Effect

/-- The effect with a name. -/
def ofName? (name : String) : Option Effect :=
  [permit, deny].find? fun effect => effect.name = name

/-- The tree of an effect. -/
def encode (effect : Effect) : DataTree := .string effect.name

/-- The effect that a tree holds. -/
def decode : Decoder Effect := .named ofName?

end Effect

namespace AssignmentExpression

/-- The tree of an assignment. -/
def encode (assignment : AssignmentExpression) : DataTree :=
  .table
    ([("attribute_id", .string assignment.attributeId)] ++
      DataTree.optionalEntry "category" assignment.category ++
      [("expression", assignment.expression.encode)])

/-- The assignment that a tree holds. -/
def decode : Decoder AssignmentExpression := fun tree => do
  let record ← Record.ofTree ["attribute_id", "category", "expression"] tree
  let attributeId ← record.required "attribute_id" Decoder.string
  let category ← record.nullable "category" Decoder.string
  let expression ← record.required "expression" Expression.decode
  return ⟨attributeId, category, expression⟩

end AssignmentExpression

namespace ObligationExpression

/-- The tree of an obligation. -/
def encode (obligation : ObligationExpression) : DataTree :=
  .table
    [("id", .string obligation.id),
     ("fulfill_on", obligation.effect.encode),
     ("assignments", .ofList AssignmentExpression.encode obligation.assignments)]

/-- The obligation that a tree holds. -/
def decode : Decoder ObligationExpression := fun tree => do
  let record ← Record.ofTree ["id", "fulfill_on", "assignments"] tree
  let id ← record.required "id" Decoder.string
  let effect ← record.required "fulfill_on" Effect.decode
  let assignments ←
    record.withDefault "assignments" [] (Decoder.list AssignmentExpression.decode)
  return ⟨id, effect, assignments⟩

end ObligationExpression

namespace AdviceExpression

/-- The tree of advice. -/
def encode (advice : AdviceExpression) : DataTree :=
  .table
    [("id", .string advice.id),
     ("applies_to", advice.effect.encode),
     ("assignments", .ofList AssignmentExpression.encode advice.assignments)]

/-- The advice that a tree holds. -/
def decode : Decoder AdviceExpression := fun tree => do
  let record ← Record.ofTree ["id", "applies_to", "assignments"] tree
  let id ← record.required "id" Decoder.string
  let effect ← record.required "applies_to" Effect.decode
  let assignments ←
    record.withDefault "assignments" [] (Decoder.list AssignmentExpression.decode)
  return ⟨id, effect, assignments⟩

end AdviceExpression

namespace Directives

/-- The entries of directives. -/
def encodeEntries (directives : Directives) : List (String × DataTree) :=
  [("obligations", .ofList ObligationExpression.encode directives.obligations),
   ("advice", .ofList AdviceExpression.encode directives.advice)]

/-- The directives in the fields of a record. -/
def ofRecord (record : Record) : Except DecodeFault Directives := do
  let obligations ←
    record.withDefault "obligations" [] (Decoder.list ObligationExpression.decode)
  let advice ← record.withDefault "advice" [] (Decoder.list AdviceExpression.decode)
  return ⟨obligations, advice⟩

end Directives

namespace Rule

/-- The tree of a rule. -/
def encode (rule : Rule) : DataTree :=
  .table
    ([("id", .string rule.id),
      ("description", .string rule.description),
      ("effect", rule.effect.encode),
      ("target", rule.target.encode)] ++
      (match rule.condition with
        | some condition => [("condition", condition.encode)]
        | none => []) ++
      rule.directives.encodeEntries)

/-- The names of the fields of a rule in order. -/
def fieldNames : List String :=
  ["id", "description", "effect", "target", "condition", "obligations", "advice"]

/-- The rule that a tree holds. -/
def decode : Decoder Rule := fun tree => do
  let record ← Record.ofTree fieldNames tree
  let id ← record.required "id" Decoder.string
  let description ← record.withDefault "description" "" Decoder.string
  let effect ← record.required "effect" Effect.decode
  let target ← record.withDefault "target" .any Target.decode
  let condition ← record.nullable "condition" Expression.decode
  let directives ← Directives.ofRecord record
  return ⟨id, description, effect, target, condition, directives⟩

end Rule

namespace CombiningAlgorithm

/-- The tree of an algorithm. -/
def encode (algorithm : CombiningAlgorithm) : DataTree := .string algorithm.name

/-- The algorithm that a tree holds. -/
def decode : Decoder CombiningAlgorithm := .named ofName?

end CombiningAlgorithm

namespace CombinerParameter

/-- The tree of a parameter. -/
def encode (parameter : CombinerParameter) : DataTree :=
  .table [("name", .string parameter.name), ("value", parameter.value.encode)]

/-- The parameter that a tree holds. -/
def decode : Decoder CombinerParameter := fun tree => do
  let record ← Record.ofTree ["name", "value"] tree
  let name ← record.required "name" Decoder.string
  let value ← record.required "value" Value.decode
  return ⟨name, value⟩

end CombinerParameter

namespace PolicyHeader

/-- The tree of a header with the children of the policy or policy set. -/
def encodeWith (header : PolicyHeader) (childrenName : String) (children : List DataTree) :
    DataTree :=
  .table
    ([("id", .string header.id)] ++ DataTree.optionalEntry "version" header.version ++
      [("description", .string header.description),
       ("target", header.target.encode),
       ("algorithm", header.algorithm.encode),
       ("parameters", .ofList CombinerParameter.encode header.parameters),
       (childrenName, .list children)] ++
      header.directives.encodeEntries)

/-- The names of the fields of a policy or a policy set in order. -/
def fieldNames (childrenName : String) : List String :=
  ["id", "version", "description", "target", "algorithm", "parameters", childrenName,
   "obligations", "advice"]

/-- The header in the fields of a record. -/
def ofRecord (record : Record) : Except DecodeFault PolicyHeader := do
  let id ← record.required "id" Decoder.string
  let version ← record.nullable "version" Decoder.string
  let description ← record.withDefault "description" "" Decoder.string
  let target ← record.withDefault "target" .any Target.decode
  let algorithm ← record.required "algorithm" CombiningAlgorithm.decode
  let parameters ← record.withDefault "parameters" [] (Decoder.list CombinerParameter.decode)
  let directives ← Directives.ofRecord record
  return ⟨id, version, description, target, algorithm, parameters, directives⟩

end PolicyHeader

namespace Policy

/-- The tree of a policy. -/
def encode (policy : Policy) : DataTree :=
  policy.header.encodeWith "rules" (policy.rules.map Rule.encode)

/-- The policy that a tree holds. -/
def decode : Decoder Policy := fun tree => do
  let record ← Record.ofTree (PolicyHeader.fieldNames "rules") tree
  let header ← PolicyHeader.ofRecord record
  let rules ← record.withDefault "rules" [] (Decoder.list Rule.decode)
  return ⟨header, rules⟩

end Policy

namespace PolicyReference

/-- The tree of a reference. -/
def encode (reference : PolicyReference) : DataTree :=
  .table (("id", .string reference.id) :: DataTree.optionalEntry "version" reference.version)

/-- The reference that a tree holds. -/
def decode : Decoder PolicyReference := fun tree => do
  let record ← Record.ofTree ["id", "version"] tree
  let id ← record.required "id" Decoder.string
  let version ← record.nullable "version" Decoder.string
  return ⟨id, version⟩

end PolicyReference

namespace PolicyNode

mutual

/-- The tree of a child of a policy set. -/
def encode : PolicyNode → DataTree
  | .policy leaf => .ofVariant "policy" leaf.encode
  | .policySet header children =>
      .ofVariant "policy-set" (header.encodeWith "children" (encodeAll children))
  | .reference cited => .ofVariant "reference" cited.encode

/-- The trees of children of a policy set. -/
def encodeAll : List PolicyNode → List DataTree
  | [] => []
  | node :: rest => encode node :: encodeAll rest

end

/-- The trees of children are those of each in order. -/
theorem encodeAll_eq_map (children : List PolicyNode) :
    encodeAll children = children.map encode := by
  induction children with
  | nil => rfl
  | cons node rest inductionHypothesis => simp [encodeAll, inductionHypothesis]

end PolicyNode

namespace PolicySet

/-- The tree of a policy set. -/
def encode (set : PolicySet) : DataTree :=
  set.header.encodeWith "children" (set.children.map PolicyNode.encode)

/-- The policy set that a tree holds, given how its children are read. -/
def decodeWith (decodeChild : Decoder PolicyNode) : Decoder PolicySet := fun tree => do
  let record ← Record.ofTree (PolicyHeader.fieldNames "children") tree
  let header ← PolicyHeader.ofRecord record
  let children ← record.withDefault "children" [] (Decoder.list decodeChild)
  return ⟨header, children⟩

end PolicySet

namespace PolicyNode

/-- The child of a policy set that a tree holds, nested to at most the given
depth. -/
def decodeWithin : Nat → Decoder PolicyNode
  | 0 => fun _ => .error .shape
  | depth + 1 => fun tree => do
      let (name, payload) ← DataTree.variant tree
      if name = "policy" then return .policy (← Policy.decode payload)
      else if name = "policy-set" then
        let set ← PolicySet.decodeWith (decodeWithin depth) payload
        return set.toNode
      else if name = "reference" then return .reference (← PolicyReference.decode payload)
      else throw .shape

/-- The child of a policy set that a tree holds. -/
def decode : Decoder PolicyNode := fun tree => decodeWithin tree.depth tree

end PolicyNode

/-- The policy set that a tree holds. -/
def PolicySet.decode : Decoder PolicySet := PolicySet.decodeWith PolicyNode.decode

namespace PolicyDocument

/-- The tree of a policy document. -/
def encode (document : PolicyDocument) : DataTree :=
  .table
    [("policies", .ofList Policy.encode document.policies),
     ("policy_sets", .ofList PolicySet.encode document.policySets),
     ("roots", .ofList DataTree.string document.roots)]

/-- The policy document that a tree holds. -/
def decode : Decoder PolicyDocument := fun tree => do
  let record ← Record.ofTree ["policies", "policy_sets", "roots"] tree
  let policies ← record.withDefault "policies" [] (Decoder.list Policy.decode)
  let policySets ← record.withDefault "policy_sets" [] (Decoder.list PolicySet.decode)
  let roots ← record.withDefault "roots" [] (Decoder.list Decoder.string)
  return ⟨policies, policySets, roots⟩

end PolicyDocument
end PolicyDecision
