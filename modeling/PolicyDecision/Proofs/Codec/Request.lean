import PolicyDecision.Proofs.DataTree.Lossless

/-!
# Lossless written forms of requests

Values, statuses, attributes and requests have lossless written forms. Each record is
given by its parts and by the fields that they are written to.
-/

namespace PolicyDecision

variable {levels : Nat}

/-! ## Values and statuses -/

namespace Value

theorem lossless : Lossless encode decode (fun value => [value]) (levels + 1) where
  decode_encode value lexical := (lexical value List.mem_cons_self).readsBack.decode_encode
  denoted tree value decoded held member := by
    cases List.mem_singleton.mp member
    exact exists_parse_of_decode decoded
  isPlain value := by
    refine .table (by simp) ?_
    simp [Datatype.encode, DataTree.IsPlain.string]

end Value

namespace Status

/-- The code and the message of a status. -/
def parts : StatusCode × Option String ≃ Status where
  toFun := fun (code, message) => ⟨code, message⟩
  invFun status := (status.code, status.message)

theorem lossless : Lossless encode decode (fun _ => []) (levels + 1) := by
  let fields : Fields ["code", "message"] (StatusCode × Option String) levels :=
    (Fields.required "code" (.named StatusCode.ofName?_name)).and (.optional "message" levels)
  refine fields.lossless (by decide) parts (fun _ => rfl) (fun tree => ?_) fun _ => rfl
  simp only [fields, Fields.map_decode_and]
  rfl

end Status

/-! ## Attributes -/

namespace Attribute

/-- The parts of an attribute. -/
def parts : String × Option String × List Value × Bool ≃ Attribute where
  toFun := fun (id, issuer, values, includeInResult) => ⟨id, issuer, values, includeInResult⟩
  invFun named := (named.id, named.issuer, named.values, named.includeInResult)

theorem lossless : Lossless encode decode values (levels + 3) := by
  let fields : Fields ["attribute_id", "issuer", "values", "include_in_result"]
      (String × Option String × List Value × Bool) (levels + 2) :=
    (Fields.required "attribute_id" .string).and
      ((Fields.optional "issuer" (levels + 2)).and
        ((Fields.required "values" (.list Value.lossless)).and
          (.withDefault "include_in_result" false rfl .boolean)))
  refine fields.lossless (by decide) parts (fun named => ?_) (fun tree => ?_) fun named => ?_
  · simp [encode, fields, Fields.and, Fields.required, Fields.optional, Fields.withDefault, parts]
  · simp only [fields, Fields.map_decode_and]
    rfl
  · simp [fields, Fields.and, Fields.required, Fields.optional, Fields.withDefault, parts]

end Attribute

namespace AttributeCategory

/-- The values of all attributes of a category. -/
def values (category : AttributeCategory) : List Value :=
  category.attributes.flatMap Attribute.values

/-- The parts of a category. -/
def parts : String × List Attribute ≃ AttributeCategory where
  toFun := fun (category, attributes) => ⟨category, attributes⟩
  invFun category := (category.category, category.attributes)

theorem lossless : Lossless encode decode values (levels + 5) := by
  let fields : Fields ["category", "attributes"] (String × List Attribute) (levels + 4) :=
    (Fields.required "category" .string).and
      (.withDefault "attributes" [] rfl (.list Attribute.lossless))
  refine fields.lossless (by decide) parts (fun _ => rfl) (fun tree => ?_) fun _ => rfl
  simp only [fields, Fields.map_decode_and]
  rfl

end AttributeCategory

/-! ## Requests -/

namespace Request

/-- The values of all attributes of a request. -/
def values (request : Request) : List Value :=
  request.categories.flatMap AttributeCategory.values

/-- The parts of a request. -/
def parts : Status × Bool × List AttributeCategory ≃ Request where
  toFun := fun (status, combinedDecision, categories) => ⟨status, combinedDecision, categories⟩
  invFun request := (request.status, request.combinedDecision, request.categories)

theorem lossless : Lossless encode decode values (levels + 7) := by
  let fields : Fields ["status", "combined_decision", "categories"]
      (Status × Bool × List AttributeCategory) (levels + 6) :=
    (Fields.withDefault "status" .ok rfl Status.lossless).and
      ((Fields.withDefault "combined_decision" false rfl .boolean).and
        (.withDefault "categories" [] rfl (.list AttributeCategory.lossless)))
  refine fields.lossless (by decide) parts (fun _ => rfl) (fun tree => ?_) fun _ => rfl
  simp only [fields, Fields.map_decode_and]
  rfl

end Request

namespace IndividualRequest

/-- The values of all attributes of an individual request. -/
def values (request : IndividualRequest) : List Value :=
  request.categories.flatMap AttributeCategory.values

/-- The parts of an individual request. -/
def parts : Status × List AttributeCategory ≃ IndividualRequest where
  toFun := fun (status, categories) => ⟨status, categories⟩
  invFun request := (request.status, request.categories)

theorem lossless : Lossless encode decode values (levels + 7) := by
  let fields : Fields ["status", "categories"] (Status × List AttributeCategory) (levels + 6) :=
    (Fields.withDefault "status" .ok rfl Status.lossless).and
      (.withDefault "categories" [] rfl (.list AttributeCategory.lossless))
  refine fields.lossless (by decide) parts (fun _ => rfl) (fun tree => ?_) fun _ => rfl
  simp only [fields, Fields.map_decode_and]
  rfl

end IndividualRequest
end PolicyDecision
