import PolicyDecision.Function.Registry

/-!
# Expressions

Expressions of conditions, targets and directives: literal values and bags,
designated attributes of the request, and functions applied to expressions.
-/

namespace PolicyDecision

/-- Where the values of an attribute come from: its category, its identifier and
the datatype of the values wanted. -/
abbrev AttributeSource := String → String → Datatype → List Value

/-- A designated attribute of the request. -/
structure Designator where
  category : String
  attributeId : String
  datatype : Datatype
  mustBePresent : Bool

namespace Designator

/-- A designator of an attribute that may be absent. -/
def optional (category attributeId : String) (datatype : Datatype) : Designator :=
  ⟨category, attributeId, datatype, false⟩

/-- The designator of an attribute that must be present. -/
def required (designator : Designator) : Designator :=
  { designator with mustBePresent := true }

/-- The status of a required attribute without values. -/
def absentStatus (designator : Designator) : Status :=
  .missingAttribute
    ("Missing required attribute " ++ designator.attributeId ++ " in category " ++
      designator.category)

/-- The values of the designated attribute. -/
def values (designator : Designator) (source : AttributeSource) : Except Status (List Value) :=
  match source designator.category designator.attributeId designator.datatype with
  | [] => if designator.mustBePresent then .error designator.absentStatus else .ok []
  | first :: rest => .ok (first :: rest)

/-- The bag of the values of the designated attribute. -/
def evaluate (designator : Designator) (source : AttributeSource) : Outcome :=
  match designator.values source with
  | .ok values => .bag ⟨values⟩
  | .error status => .failed status

end Designator

/-- An expression. -/
inductive Expression
  | value (literal : Value)
  | bag (literal : Bag)
  | designator (designator : Designator)
  | apply (functionId : String) (arguments : List Expression)

/-- The status of an application of a function that does not exist. -/
def unknownFunction (functionId : String) : Status :=
  .processingError ("Unknown function " ++ functionId)

namespace Expression

mutual

/-- The outcome of an expression. -/
def evaluate (source : AttributeSource) : Expression → Outcome
  | .value literal => .single literal
  | .bag literal => .bag literal
  | .designator designated => designated.evaluate source
  | .apply functionId arguments =>
      match Function.find? functionId with
      | none => .failed (unknownFunction functionId)
      | some function => function.apply (evaluateAll source arguments)

/-- The outcomes of expressions as arguments of a function. -/
def evaluateAll (source : AttributeSource) : List Expression → List Argument
  | [] => []
  | argument :: rest => .ofOutcome (evaluate source argument) :: evaluateAll source rest

end

/-- The arguments of a function are the outcomes of their expressions in order. -/
theorem evaluateAll_eq_map (source : AttributeSource) (arguments : List Expression) :
    evaluateAll source arguments =
      arguments.map fun argument => .ofOutcome (argument.evaluate source) := by
  induction arguments with
  | nil => rfl
  | cons argument rest inductionHypothesis => simp [evaluateAll, inductionHypothesis]

/-- The truth value of an expression, as conditions require it. -/
def truth (source : AttributeSource) (expression : Expression) : Except Status Bool :=
  (expression.evaluate source).truth

end Expression
end PolicyDecision
