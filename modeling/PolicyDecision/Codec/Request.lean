import PolicyDecision.Codec.Value
import PolicyDecision.Request

/-!
# Written form of requests

Requests, individual requests and their attributes as data trees. The issuer of
an attribute is left out when there is none.
-/

namespace PolicyDecision

namespace Attribute

/-- The tree of an attribute. -/
def encode (named : Attribute) : DataTree :=
  .table
    ([("attribute_id", .string named.id)] ++ DataTree.optionalEntry "issuer" named.issuer ++
      [("values", .ofList Value.encode named.values),
       ("include_in_result", .boolean named.includeInResult)])

/-- The attribute that a tree holds. -/
def decode : Decoder Attribute := fun tree => do
  let record ← Record.ofTree ["attribute_id", "issuer", "values", "include_in_result"] tree
  let id ← record.required "attribute_id" Decoder.string
  let issuer ← record.nullable "issuer" Decoder.string
  let values ← record.required "values" (Decoder.list Value.decode)
  let includeInResult ← record.withDefault "include_in_result" false Decoder.boolean
  return ⟨id, issuer, values, includeInResult⟩

end Attribute

namespace AttributeCategory

/-- The tree of a category. -/
def encode (category : AttributeCategory) : DataTree :=
  .table
    [("category", .string category.category),
     ("attributes", .ofList Attribute.encode category.attributes)]

/-- The category that a tree holds. -/
def decode : Decoder AttributeCategory := fun tree => do
  let record ← Record.ofTree ["category", "attributes"] tree
  let category ← record.required "category" Decoder.string
  let attributes ← record.withDefault "attributes" [] (Decoder.list Attribute.decode)
  return ⟨category, attributes⟩

end AttributeCategory

namespace Request

/-- The tree of a request. -/
def encode (request : Request) : DataTree :=
  .table
    [("status", request.status.encode),
     ("combined_decision", .boolean request.combinedDecision),
     ("categories", .ofList AttributeCategory.encode request.categories)]

/-- The request that a tree holds. -/
def decode : Decoder Request := fun tree => do
  let record ← Record.ofTree ["status", "combined_decision", "categories"] tree
  let status ← record.withDefault "status" .ok Status.decode
  let combinedDecision ← record.withDefault "combined_decision" false Decoder.boolean
  let categories ← record.withDefault "categories" [] (Decoder.list AttributeCategory.decode)
  return ⟨status, combinedDecision, categories⟩

end Request

namespace IndividualRequest

/-- The tree of an individual request. -/
def encode (request : IndividualRequest) : DataTree :=
  .table
    [("status", request.status.encode),
     ("categories", .ofList AttributeCategory.encode request.categories)]

/-- The individual request that a tree holds. -/
def decode : Decoder IndividualRequest := fun tree => do
  let record ← Record.ofTree ["status", "categories"] tree
  let status ← record.withDefault "status" .ok Status.decode
  let categories ← record.withDefault "categories" [] (Decoder.list AttributeCategory.decode)
  return ⟨status, categories⟩

end IndividualRequest
end PolicyDecision
