import PolicyDecision.Proofs.Codec.Request
import PolicyDecision.Proofs.Decision

/-!
# Lossless written forms of results

Obligations, advice, results and permissions have lossless written forms. Permissions are
tables by the names of decisions and of actions, and each name stands for one key.
-/

namespace PolicyDecision

variable {levels : Nat}

/-! ## Directives and identifiers -/

namespace Assignment

/-- The parts of an assignment. -/
def parts : String × Option String × Value ≃ Assignment where
  toFun := fun (attributeId, category, value) => ⟨attributeId, category, value⟩
  invFun assignment := (assignment.attributeId, assignment.category, assignment.value)

theorem lossless : Lossless encode decode (fun assignment => [assignment.value]) (levels + 2) := by
  let fields : Fields ["attribute_id", "category", "value"] (String × Option String × Value)
      (levels + 1) :=
    (Fields.required "attribute_id" .string).and
      ((Fields.optional "category" (levels + 1)).and (.required "value" Value.lossless))
  refine fields.lossless (by decide) parts (fun assignment => ?_) (fun tree => ?_) fun _ => rfl
  · simp [encode, fields, Fields.and, Fields.required, Fields.optional, parts]
  · simp only [fields, Fields.map_decode_and]
    rfl

end Assignment

namespace Obligation

/-- The values of all assignments of an obligation. -/
def values (obligation : Obligation) : List Value := obligation.assignments.map Assignment.value

/-- The parts of an obligation. -/
def parts : String × List Assignment ≃ Obligation where
  toFun := fun (id, assignments) => ⟨id, assignments⟩
  invFun obligation := (obligation.id, obligation.assignments)

theorem lossless : Lossless encode decode values (levels + 4) := by
  let fields : Fields ["id", "assignments"] (String × List Assignment) (levels + 3) :=
    (Fields.required "id" .string).and
      (.withDefault "assignments" [] rfl (.list Assignment.lossless))
  refine fields.lossless (by decide) parts (fun _ => rfl) (fun tree => ?_)
    fun _ => List.map_eq_flatMap
  simp only [fields, Fields.map_decode_and]
  rfl

end Obligation

namespace Advice

/-- The values of all assignments of advice. -/
def values (advice : Advice) : List Value := advice.assignments.map Assignment.value

/-- The parts of advice. -/
def parts : String × List Assignment ≃ Advice where
  toFun := fun (id, assignments) => ⟨id, assignments⟩
  invFun advice := (advice.id, advice.assignments)

theorem lossless : Lossless encode decode values (levels + 4) := by
  let fields : Fields ["id", "assignments"] (String × List Assignment) (levels + 3) :=
    (Fields.required "id" .string).and
      (.withDefault "assignments" [] rfl (.list Assignment.lossless))
  refine fields.lossless (by decide) parts (fun _ => rfl) (fun tree => ?_)
    fun _ => List.map_eq_flatMap
  simp only [fields, Fields.map_decode_and]
  rfl

end Advice

namespace PolicyIdentifier

/-- The identifier and the version of a policy. -/
def parts : String × Option String ≃ PolicyIdentifier where
  toFun := fun (id, version) => ⟨id, version⟩
  invFun identifier := (identifier.id, identifier.version)

theorem lossless : Lossless encode decode (fun _ => []) (levels + 1) := by
  let fields : Fields ["id", "version"] (String × Option String) levels :=
    (Fields.required "id" .string).and (.optional "version" levels)
  refine fields.lossless (by decide) parts (fun _ => rfl) (fun tree => ?_) fun _ => rfl
  simp only [fields, Fields.map_decode_and]
  rfl

end PolicyIdentifier

/-! ## Results -/

theorem Decision.lossless : Lossless encode decode (fun _ => []) levels :=
  .named ofName?_name

namespace EvaluationResult

/-- The values of all obligations and all advice of a result. -/
def values (result : EvaluationResult) : List Value :=
  result.obligations.flatMap Obligation.values ++ result.advice.flatMap Advice.values

/-- What a result consists of. -/
abbrev Parts : Type :=
  Decision × Status × List Obligation × List Advice × List PolicyIdentifier × List PolicyIdentifier

/-- The parts of a result. -/
def parts : Parts ≃ EvaluationResult where
  toFun := fun (decision, status, obligations, advice, policies, policySets) =>
    ⟨decision, status, obligations, advice, policies, policySets⟩
  invFun result :=
    (result.decision, result.status, result.obligations, result.advice, result.policyIdentifiers,
      result.policySetIdentifiers)

/-- The fields of a result, which may stand in a larger record. -/
theorem exists_fields (levels : Nat) :
    ∃ fields : Fields fieldNames Parts (levels + 5),
      (∀ result, encodeEntries result = fields.encode (parts.symm result)) ∧
      (∀ record, ofRecord record = parts <$> fields.decode record) ∧
      ∀ result, values result = fields.values (parts.symm result) := by
  let fields : Fields fieldNames Parts (levels + 5) :=
    (Fields.required "decision" Decision.lossless).and
      ((Fields.withDefault "status" .ok rfl Status.lossless).and
        ((Fields.withDefault "obligations" [] rfl (.list Obligation.lossless)).and
          ((Fields.withDefault "advice" [] rfl (.list Advice.lossless)).and
            ((Fields.withDefault "policy_identifiers" [] rfl (.list PolicyIdentifier.lossless)).and
              (.withDefault "policy_set_identifiers" [] rfl (.list PolicyIdentifier.lossless))))))
  refine ⟨fields, fun _ => rfl, fun record => ?_, fun result => ?_⟩
  · simp only [fields, Fields.map_decode_and]
    rfl
  · simp [values, fields, Fields.and, Fields.required, Fields.withDefault, parts]

theorem lossless : Lossless encode decode values (levels + 6) := by
  obtain ⟨fields, encode_eq, decode_eq, values_eq⟩ := exists_fields levels
  refine fields.lossless (by decide) parts (fun result => ?_) (fun tree => ?_) values_eq
  · rw [encode, encode_eq]
  · simp only [decode, decode_eq]

end EvaluationResult

namespace DecisionResult

/-- The values of all obligations, all advice and all echoed attributes of a result. -/
def values (result : DecisionResult) : List Value :=
  result.toEvaluation.values ++ result.attributes.flatMap AttributeCategory.values

/-- The parts of a result: those of an evaluation and the echoed attributes. -/
def parts : EvaluationResult.Parts × List AttributeCategory ≃ DecisionResult where
  toFun := fun (evaluation, attributes) =>
    { ofEvaluation (EvaluationResult.parts evaluation) with attributes }
  invFun result := (EvaluationResult.parts.symm result.toEvaluation, result.attributes)

theorem lossless : Lossless encode decode values (levels + 7) := by
  obtain ⟨evaluation, encode_eq, decode_eq, values_eq⟩ :=
    EvaluationResult.exists_fields (levels + 1)
  let fields : Fields (EvaluationResult.fieldNames ++ ["attributes"])
      (EvaluationResult.Parts × List AttributeCategory) (levels + 6) :=
    evaluation.and (.withDefault "attributes" [] rfl (.list AttributeCategory.lossless))
  refine fields.lossless (by decide) parts (fun result => ?_) (fun tree => ?_) fun result => ?_
  · rw [encode, encode_eq]
    rfl
  · simp only [decode, decode_eq, fields, Fields.map_decode_and, bind_map_left]
    rfl
  · rw [values, values_eq]
    rfl

end DecisionResult

/-! ## Permissions -/

namespace ActionEntry

/-- The values of all obligations of an entry. -/
def values (entry : ActionEntry) : List Value := entry.obligations.flatMap Obligation.values

/-- The policies and the obligations of an entry. -/
def parts : List String × List Obligation ≃ ActionEntry where
  toFun := fun (policies, obligations) => ⟨policies, obligations⟩
  invFun entry := (entry.policies, entry.obligations)

theorem lossless : Lossless encode decode values (levels + 6) := by
  let fields : Fields ["policies", "obligations"] (List String × List Obligation) (levels + 5) :=
    (Fields.withDefault "policies" [] rfl (.list .string)).and
      (.withDefault "obligations" [] rfl (.list Obligation.lossless))
  refine fields.lossless (by decide) parts (fun _ => rfl) (fun tree => ?_) fun entry => ?_
  · simp only [fields, Fields.map_decode_and]
    rfl
  · simp [values, fields, Fields.and, Fields.withDefault, parts]

end ActionEntry

namespace ActionPermissions

/-- The values of the entries of all actions. -/
def values (permissions : ActionPermissions) : List Value :=
  (SortedMap.values permissions).flatMap ActionEntry.values

theorem lossless : Lossless encode decode values (levels + 8) := by
  let fields : Fields ["actions"] ActionPermissions (levels + 7) :=
    .withDefault "actions" .empty rfl (.table (fun _ => rfl) ActionEntry.lossless)
  refine fields.lossless (by decide) (.refl _) (fun _ => rfl) (fun tree => ?_) fun _ => rfl
  exact bind_congr fun record => (id_map _).symm

end ActionPermissions

namespace PermissionsResult

/-- The values of the actions of all decisions. -/
def values (result : PermissionsResult) : List Value :=
  result.byDecision.values.flatMap ActionPermissions.values

/-- The decisions of permissions. -/
def parts : SortedMap Decision ActionPermissions ≃ PermissionsResult where
  toFun := PermissionsResult.mk
  invFun := byDecision

theorem lossless : Lossless encode decode values (levels + 10) := by
  let fields : Fields ["permissions"] (SortedMap Decision ActionPermissions) (levels + 9) :=
    .withDefault "permissions" .empty rfl (.table Decision.ofName?_name ActionPermissions.lossless)
  exact fields.lossless (by decide) parts (fun _ => rfl) (fun _ => rfl) fun _ => rfl

end PermissionsResult
end PolicyDecision
