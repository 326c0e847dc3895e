import PolicyDecision.Attribute
import PolicyDecision.Status

/-!
# Requests

A request as an enforcement point sends it, and the individual requests it is
split into. A category that a request repeats stands for several scopes.
-/

namespace PolicyDecision

/-- A request of an enforcement point. Its status is an error when the request
could not be read. -/
structure Request where
  status : Status
  combinedDecision : Bool
  categories : List AttributeCategory

/-- One scope of a request, to be decided on its own. -/
structure IndividualRequest where
  status : Status
  categories : List AttributeCategory

namespace Request

/-- A request without categories. -/
def empty : Request := ⟨.ok, false, []⟩

/-- A request that failed before it arrived. -/
def ofStatus (status : Status) : Request := { empty with status }

/-- The request with one more category. -/
def push (request : Request) (category : AttributeCategory) : Request :=
  { request with categories := request.categories ++ [category] }

/-- The request for a single combined decision. -/
def combined (request : Request) : Request :=
  { request with combinedDecision := true }

/-- The categories of a request as one individual request. -/
def toIndividual (request : Request) : IndividualRequest := ⟨request.status, request.categories⟩

/-- The attributes to be echoed. -/
def echo (request : Request) : List AttributeCategory := echoedCategories request.categories

end Request

namespace IndividualRequest

/-- A readable individual request. -/
def ofCategories (categories : List AttributeCategory) : IndividualRequest := ⟨.ok, categories⟩

/-- An individual request that failed before it arrived. -/
def ofStatus (status : Status) : IndividualRequest := ⟨status, []⟩

/-- The categories with an identifier. -/
def categoriesOf (request : IndividualRequest) (category : String) : List AttributeCategory :=
  request.categories.filter fun candidate => candidate.category = category

/-- The values of an attribute in all categories with an identifier. -/
def allValues (request : IndividualRequest) (category attributeId : String) : List Value :=
  (request.categoriesOf category).flatMap fun candidate => candidate.valuesOf attributeId

/-- The values of an attribute that belong to a datatype. -/
def attributeValues
    (request : IndividualRequest)
    (category attributeId : String)
    (datatype : Datatype) : List Value :=
  (request.allValues category attributeId).filter fun value => value.datatype = datatype

/-- The attributes to be echoed. -/
def echo (request : IndividualRequest) : List AttributeCategory :=
  echoedCategories request.categories

/-- The texts of the action identifiers. -/
def actions (request : IndividualRequest) : List String :=
  (request.allValues actionCategory actionId).map Value.text

end IndividualRequest
end PolicyDecision
