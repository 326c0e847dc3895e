import PolicyDecision.Policy.Tree

/-!
# Evaluation of policy trees

The result of a policy tree in a scope, which gives the values of attributes and
the answers of definitions that are referred to. An indeterminate target does
not stop the evaluation: it weakens a definite combined decision.
-/

namespace PolicyDecision

/-- What a node answers to a request: whether its target applies, and its
result. Each of them is found out when it is first asked for, and kept. -/
structure NodeAnswer where
  target : Thunk MatchResult
  result : Thunk EvaluationResult

namespace NodeAnswer

/-- The answer of a node with a target, given the result that it has when its
target is not unmatched. -/
def underTarget (target : Thunk MatchResult) (applied : MatchResult → EvaluationResult) :
    NodeAnswer where
  target := target
  result := Thunk.mk fun _ =>
    match target.get with
    | .unmatched => .notApplicable
    | reached => applied reached

/-- The answer of a node that fails for a reason. -/
def failed (status : Status) : NodeAnswer :=
  ⟨.pure (.indeterminate status), .pure (.withStatus .indeterminate status)⟩

/-- The answer as a child to be combined. -/
def candidate (answer : NodeAnswer) : Candidate := ⟨answer.target, answer.result.map .ok⟩

end NodeAnswer

/-- What a definition that is referred to answers, and its identifier. -/
structure ResolvedDefinition where
  identifier : PolicyIdentifier
  answer : NodeAnswer

/-- What an evaluation depends on: the values of attributes, and the definitions
that references lead to. -/
structure Scope where
  attributeValues : AttributeSource
  resolve : String → Option ResolvedDefinition

/-- A combined result under an indeterminate target: a definite decision is only
within reach, for the reason of the target. -/
def EvaluationResult.weaken (combined : EvaluationResult) (status : Status) : EvaluationResult :=
  if combined.decision.isDefinite then .withStatus combined.decision.asIndeterminate status
  else combined

namespace PolicyHeader

/-- The result of combined children with regard to the target and to the
directives of the header. -/
def conclude
    (source : AttributeSource)
    (header : PolicyHeader)
    (target : MatchResult)
    (combined : EvaluationResult) : EvaluationResult :=
  match target with
  | .indeterminate status => combined.weaken status
  | _ => header.directives.attach source combined

/-- The result with a mark put on it unless it is not applicable. -/
def markApplicable (mark : EvaluationResult → EvaluationResult) (result : EvaluationResult) :
    EvaluationResult :=
  if result.decision = .notApplicable then result else mark result

/-- The result of children combined under the header. -/
def combineUnder
    (source : AttributeSource)
    (header : PolicyHeader)
    (target : MatchResult)
    (mark : EvaluationResult → EvaluationResult)
    (candidates : List Candidate) : EvaluationResult :=
  markApplicable mark (header.conclude source target (header.algorithm.combine candidates).result)

end PolicyHeader

/-- The candidate of a rule. -/
def Rule.candidate (source : AttributeSource) (rule : Rule) : Candidate :=
  ⟨Thunk.mk fun _ => rule.target.evaluate source, Thunk.mk fun _ => .ok (rule.evaluate source)⟩

/-- The answer of a policy. -/
def Policy.answer (source : AttributeSource) (policy : Policy) : NodeAnswer :=
  .underTarget (Thunk.mk fun _ => policy.header.target.evaluate source) fun target =>
    policy.header.combineUnder source target
      (fun result => result.addPolicyIdentifier policy.header.identifier)
      (policy.rules.map (Rule.candidate source))

namespace PolicyReference

/-- The status of a reference that leads nowhere. -/
def unresolvedStatus (reference : PolicyReference) : Status :=
  .processingError ("Could not resolve policy reference " ++ reference.id)

/-- A definition has the version that a reference asks for. -/
def accepts (reference : PolicyReference) (identifier : PolicyIdentifier) : Bool :=
  reference.version.isNone || identifier.version == reference.version

/-- The answer of the definition that a reference leads to. -/
def answer (scope : Scope) (reference : PolicyReference) : NodeAnswer :=
  match (scope.resolve reference.id).filter fun found => reference.accepts found.identifier with
  | some found => found.answer
  | none => .failed reference.unresolvedStatus

end PolicyReference

namespace PolicyNode

mutual

/-- The answer of a child of a policy set. -/
def answer (scope : Scope) : PolicyNode → NodeAnswer
  | .policy leaf => leaf.answer scope.attributeValues
  | .policySet header children =>
      .underTarget (Thunk.mk fun _ => header.target.evaluate scope.attributeValues) fun target =>
        header.combineUnder scope.attributeValues target
          (fun result => result.addPolicySetIdentifier header.identifier)
          (candidates scope children)
  | .reference cited => cited.answer scope

/-- The children of a policy set as candidates, in order. -/
def candidates (scope : Scope) : List PolicyNode → List Candidate
  | [] => []
  | node :: rest => (answer scope node).candidate :: candidates scope rest

end

/-- The candidates are the answers of the children in order. -/
theorem candidates_eq_map (scope : Scope) (children : List PolicyNode) :
    candidates scope children = children.map fun node => (node.answer scope).candidate := by
  induction children with
  | nil => rfl
  | cons node rest inductionHypothesis => simp [candidates, inductionHypothesis]

end PolicyNode

/-- The answer of a policy set. -/
def PolicySet.answer (scope : Scope) (set : PolicySet) : NodeAnswer := set.toNode.answer scope

namespace Definition

/-- The answer of a definition. -/
def answer (scope : Scope) (definition : Definition) : NodeAnswer :=
  definition.toNode.answer scope

/-- Whether the target of a definition applies, which takes no references. -/
def targetMatch (source : AttributeSource) (definition : Definition) : MatchResult :=
  definition.header.target.evaluate source

/-- The definition with its answer, as references see it. -/
def resolved (scope : Scope) (definition : Definition) : ResolvedDefinition :=
  ⟨definition.identifier, definition.answer scope⟩

end Definition
end PolicyDecision
