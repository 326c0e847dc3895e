import PolicyDecision.Value

/-!
# Attributes

Named attributes with their values, grouped by category, and the well-known
identifiers of categories and attributes.
-/

namespace PolicyDecision

/-- The category of the resource that is accessed. -/
def resourceCategory : String := "urn:oasis:names:tc:xacml:3.0:attribute-category:resource"

/-- The category of the action on the resource. -/
def actionCategory : String := "urn:oasis:names:tc:xacml:3.0:attribute-category:action"

/-- The attribute that identifies a resource. -/
def resourceId : String := "urn:oasis:names:tc:xacml:1.0:resource:resource-id"

/-- The attribute that identifies an action. -/
def actionId : String := "urn:oasis:names:tc:xacml:1.0:action:action-id"

/-- A named attribute with its values. -/
structure Attribute where
  id : String
  issuer : Option String
  values : List Value
  includeInResult : Bool
  deriving BEq

namespace Attribute

/-- An attribute without an issuer that is not echoed. -/
def ofValues (id : String) (values : List Value) : Attribute := ⟨id, none, values, false⟩

/-- An attribute with a single value. -/
def ofValue (id : String) (value : Value) : Attribute := ofValues id [value]

/-- The attribute as stated by an issuer. -/
def issuedBy (named : Attribute) (issuer : String) : Attribute :=
  { named with issuer := some issuer }

/-- The attribute marked for echoing in the result. -/
def echoed (named : Attribute) : Attribute :=
  { named with includeInResult := true }

end Attribute

/-- The attributes of one category. -/
structure AttributeCategory where
  category : String
  attributes : List Attribute
  deriving BEq

namespace AttributeCategory

/-- A category without attributes. -/
def empty (category : String) : AttributeCategory := ⟨category, []⟩

/-- The category with one more attribute. -/
def push (category : AttributeCategory) (named : Attribute) : AttributeCategory :=
  { category with attributes := category.attributes ++ [named] }

/-- The values of all attributes with a name, in order. -/
def valuesOf (category : AttributeCategory) (attributeId : String) : List Value :=
  (category.attributes.filter fun named => named.id = attributeId).flatMap
    Attribute.values

/-- The category with only its echoed attributes, or nothing when it has none. -/
def echo? (category : AttributeCategory) : Option AttributeCategory :=
  match category.attributes.filter Attribute.includeInResult with
  | [] => none
  | first :: rest => some { category with attributes := first :: rest }

end AttributeCategory

/-- The categories with their echoed attributes, without those that have none. -/
def echoedCategories (categories : List AttributeCategory) : List AttributeCategory :=
  categories.filterMap AttributeCategory.echo?

end PolicyDecision
