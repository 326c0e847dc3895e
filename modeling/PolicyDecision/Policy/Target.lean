import PolicyDecision.MatchResult
import PolicyDecision.Policy.Expression

/-!
# Targets

The test of whether a rule, a policy or a policy set applies to a request. A
target is a conjunction of disjunctions of conjunctions of matches, and a match
compares a literal with every value of an attribute.
-/

namespace PolicyDecision

/-- A literal that a function compares with the values of an attribute. -/
structure Match where
  functionId : String
  literal : Value
  designator : Designator

/-- A conjunction of matches. -/
structure AllOf where
  matchList : List Match

/-- A disjunction of conjunctions. -/
structure AnyOf where
  allOf : List AllOf

/-- A conjunction of disjunctions. -/
structure Target where
  anyOf : List AnyOf

namespace Match

/-- The outcome of the comparison with one value. -/
def compareWith (comparison : Match) (function : Function) (value : Value) : MatchResult :=
  .ofTruth (function.apply [.value comparison.literal, .value value]).truth

/-- Some value of the attribute satisfies the function. -/
def evaluate (source : AttributeSource) (comparison : Match) : MatchResult :=
  match Function.find? comparison.functionId with
  | none => .indeterminate (unknownFunction comparison.functionId)
  | some function =>
      match comparison.designator.values source with
      | .error status => .indeterminate status
      | .ok values => .any (values.map (comparison.compareWith function))

end Match

/-- All matches hold. -/
def AllOf.evaluate (source : AttributeSource) (conjunction : AllOf) : MatchResult :=
  .all (conjunction.matchList.map (Match.evaluate source))

/-- Some conjunction holds. -/
def AnyOf.evaluate (source : AttributeSource) (disjunction : AnyOf) : MatchResult :=
  .any (disjunction.allOf.map (AllOf.evaluate source))

namespace Target

/-- The target that matches every request. -/
def any : Target := ⟨[]⟩

/-- The target of a single match. -/
def single (comparison : Match) : Target := ⟨[⟨[⟨[comparison]⟩]⟩]⟩

/-- All disjunctions hold. -/
def evaluate (source : AttributeSource) (target : Target) : MatchResult :=
  .all (target.anyOf.map (AnyOf.evaluate source))

@[simp] theorem evaluate_any (source : AttributeSource) : any.evaluate source = .matched := rfl

end Target
end PolicyDecision
