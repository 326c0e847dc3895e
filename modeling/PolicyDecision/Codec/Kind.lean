import PolicyDecision.Codec.Configuration
import PolicyDecision.Codec.Policy
import PolicyDecision.Codec.Result

/-!
# Kinds of documents

The kinds of data that can be written, by name. Reading a tree as a kind and
writing it again gives its normal form, in which every default is spelled out
and every value has its canonical text.
-/

namespace PolicyDecision

/-- A kind of data: its name, and the normal form of a tree of that kind. -/
structure DocumentKind where
  name : String
  normalize : DataTree → Except DecodeFault DataTree

namespace DocumentKind

/-- The kind of data with a reading and a written form. -/
def ofCodec {α : Type} (name : String) (decode : Decoder α) (encode : α → DataTree) :
    DocumentKind :=
  ⟨name, fun tree => (decode tree).map encode⟩

/-- All kinds. -/
def all : List DocumentKind :=
  [ofCodec "data_type" Datatype.decode Datatype.encode,
   ofCodec "value" Value.decode Value.encode,
   ofCodec "bag" Bag.decode Bag.encode,
   ofCodec "expression_result" Outcome.decode Outcome.encode,
   ofCodec "status_code" StatusCode.decode StatusCode.encode,
   ofCodec "status" Status.decode Status.encode,
   ofCodec "decision" Decision.decode Decision.encode,
   ofCodec "attribute" Attribute.decode Attribute.encode,
   ofCodec "category" AttributeCategory.decode AttributeCategory.encode,
   ofCodec "assignment" Assignment.decode Assignment.encode,
   ofCodec "obligation" Obligation.decode Obligation.encode,
   ofCodec "advice" Advice.decode Advice.encode,
   ofCodec "id_reference" PolicyIdentifier.decode PolicyIdentifier.encode,
   ofCodec "evaluation_result" EvaluationResult.decode EvaluationResult.encode,
   ofCodec "decision_result" DecisionResult.decode DecisionResult.encode,
   ofCodec "response" Response.decode Response.encode,
   ofCodec "request" Request.decode Request.encode,
   ofCodec "individual" IndividualRequest.decode IndividualRequest.encode,
   ofCodec "policies_and_obligations" ActionEntry.decode ActionEntry.encode,
   ofCodec "permissions" ActionPermissions.decode ActionPermissions.encode,
   ofCodec "permissions_result" PermissionsResult.decode PermissionsResult.encode,
   ofCodec "permissions_response" PermissionsResponse.decode PermissionsResponse.encode,
   ofCodec "algorithm" CombiningAlgorithm.decode CombiningAlgorithm.encode,
   ofCodec "parameter" CombinerParameter.decode CombinerParameter.encode,
   ofCodec "effect" Effect.decode Effect.encode,
   ofCodec "designator" Designator.decode Designator.encode,
   ofCodec "apply" Expression.decodeApplication Expression.encodeApplication,
   ofCodec "expression" Expression.decode Expression.encode,
   ofCodec "match" Match.decode Match.encode,
   ofCodec "all_of" AllOf.decode AllOf.encode,
   ofCodec "any_of" AnyOf.decode AnyOf.encode,
   ofCodec "target" Target.decode Target.encode,
   ofCodec "assignment_expression" AssignmentExpression.decode AssignmentExpression.encode,
   ofCodec "obligation_expression" ObligationExpression.decode ObligationExpression.encode,
   ofCodec "advice_expression" AdviceExpression.decode AdviceExpression.encode,
   ofCodec "rule" Rule.decode Rule.encode,
   ofCodec "policy" Policy.decode Policy.encode,
   ofCodec "policy_set" PolicySet.decode PolicySet.encode,
   ofCodec "policy_set_child" PolicyNode.decode PolicyNode.encode,
   ofCodec "reference" PolicyReference.decode PolicyReference.encode,
   ofCodec "document" PolicyDocument.decode PolicyDocument.encode,
   ofCodec "pdp_config" EngineConfiguration.decode EngineConfiguration.encode,
   ofCodec "response_behavior" Behavior.decode Behavior.encode,
   ofCodec "pep_config" EnforcementConfiguration.decode EnforcementConfiguration.encode]

/-- The kind with a name. -/
def ofName? (name : String) : Option DocumentKind := all.find? fun kind => kind.name = name

end DocumentKind
end PolicyDecision
