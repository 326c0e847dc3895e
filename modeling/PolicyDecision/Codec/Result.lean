import PolicyDecision.Codec.Request
import PolicyDecision.MatchResult
import PolicyDecision.Permissions
import PolicyDecision.Result

/-!
# Written form of results

Results of evaluations and decisions, responses and permissions as data trees.
Permissions are tables by the names of decisions and actions.
-/

namespace PolicyDecision

namespace MatchResult

/-- The tree of a match result. -/
def encode : MatchResult → DataTree
  | .matched => .string "match"
  | .unmatched => .string "no-match"
  | .indeterminate status => .ofVariant "indeterminate" status.encode

/-- The match result that a tree holds. -/
def decode : Decoder MatchResult
  | .string "match" => .ok .matched
  | .string "no-match" => .ok .unmatched
  | .table [("indeterminate", status)] => (Status.decode status).map .indeterminate
  | _ => .error .shape

end MatchResult

namespace Assignment

/-- The tree of an assignment. -/
def encode (assignment : Assignment) : DataTree :=
  .table
    ([("attribute_id", .string assignment.attributeId)] ++
      DataTree.optionalEntry "category" assignment.category ++
      [("value", assignment.value.encode)])

/-- The assignment that a tree holds. -/
def decode : Decoder Assignment := fun tree => do
  let record ← Record.ofTree ["attribute_id", "category", "value"] tree
  let attributeId ← record.required "attribute_id" Decoder.string
  let category ← record.nullable "category" Decoder.string
  let value ← record.required "value" Value.decode
  return ⟨attributeId, category, value⟩

end Assignment

namespace Obligation

/-- The tree of an obligation. -/
def encode (obligation : Obligation) : DataTree :=
  .table
    [("id", .string obligation.id),
     ("assignments", .ofList Assignment.encode obligation.assignments)]

/-- The obligation that a tree holds. -/
def decode : Decoder Obligation := fun tree => do
  let record ← Record.ofTree ["id", "assignments"] tree
  let id ← record.required "id" Decoder.string
  let assignments ← record.withDefault "assignments" [] (Decoder.list Assignment.decode)
  return ⟨id, assignments⟩

end Obligation

namespace Advice

/-- The tree of advice. -/
def encode (advice : Advice) : DataTree :=
  .table
    [("id", .string advice.id),
     ("assignments", .ofList Assignment.encode advice.assignments)]

/-- The advice that a tree holds. -/
def decode : Decoder Advice := fun tree => do
  let record ← Record.ofTree ["id", "assignments"] tree
  let id ← record.required "id" Decoder.string
  let assignments ← record.withDefault "assignments" [] (Decoder.list Assignment.decode)
  return ⟨id, assignments⟩

end Advice

namespace PolicyIdentifier

/-- The tree of a policy identifier. -/
def encode (identifier : PolicyIdentifier) : DataTree :=
  .table (("id", .string identifier.id) :: DataTree.optionalEntry "version" identifier.version)

/-- The policy identifier that a tree holds. -/
def decode : Decoder PolicyIdentifier := fun tree => do
  let record ← Record.ofTree ["id", "version"] tree
  let id ← record.required "id" Decoder.string
  let version ← record.nullable "version" Decoder.string
  return ⟨id, version⟩

end PolicyIdentifier

namespace EvaluationResult

/-- The names of the fields of a result. -/
def fieldNames : List String :=
  ["decision", "status", "obligations", "advice", "policy_identifiers", "policy_set_identifiers"]

/-- The entries of a result. -/
def encodeEntries (result : EvaluationResult) : List (String × DataTree) :=
  [("decision", result.decision.encode),
   ("status", result.status.encode),
   ("obligations", .ofList Obligation.encode result.obligations),
   ("advice", .ofList Advice.encode result.advice),
   ("policy_identifiers", .ofList PolicyIdentifier.encode result.policyIdentifiers),
   ("policy_set_identifiers", .ofList PolicyIdentifier.encode result.policySetIdentifiers)]

/-- The tree of a result. -/
def encode (result : EvaluationResult) : DataTree := .table result.encodeEntries

/-- The result in the fields of a record. -/
def ofRecord (record : Record) : Except DecodeFault EvaluationResult := do
  let decision ← record.required "decision" Decision.decode
  let status ← record.withDefault "status" .ok Status.decode
  let obligations ← record.withDefault "obligations" [] (Decoder.list Obligation.decode)
  let advice ← record.withDefault "advice" [] (Decoder.list Advice.decode)
  let policyIdentifiers ←
    record.withDefault "policy_identifiers" [] (Decoder.list PolicyIdentifier.decode)
  let policySetIdentifiers ←
    record.withDefault "policy_set_identifiers" [] (Decoder.list PolicyIdentifier.decode)
  return ⟨decision, status, obligations, advice, policyIdentifiers, policySetIdentifiers⟩

/-- The result that a tree holds. -/
def decode : Decoder EvaluationResult := fun tree => do
  let record ← Record.ofTree fieldNames tree
  ofRecord record

end EvaluationResult

namespace DecisionResult

/-- The result without its echoed attributes. -/
def toEvaluation (result : DecisionResult) : EvaluationResult where
  decision := result.decision
  status := result.status
  obligations := result.obligations
  advice := result.advice
  policyIdentifiers := result.policyIdentifiers
  policySetIdentifiers := result.policySetIdentifiers

/-- The tree of a result. -/
def encode (result : DecisionResult) : DataTree :=
  .table
    (result.toEvaluation.encodeEntries ++
      [("attributes", .ofList AttributeCategory.encode result.attributes)])

/-- The result that a tree holds. -/
def decode : Decoder DecisionResult := fun tree => do
  let record ← Record.ofTree (EvaluationResult.fieldNames ++ ["attributes"]) tree
  let evaluation ← EvaluationResult.ofRecord record
  let attributes ← record.withDefault "attributes" [] (Decoder.list AttributeCategory.decode)
  return { ofEvaluation evaluation with attributes }

end DecisionResult

namespace Response

/-- The tree of a response. -/
def encode (response : Response) : DataTree :=
  .table [("results", .ofList DecisionResult.encode response.results)]

/-- The response that a tree holds. -/
def decode : Decoder Response := fun tree => do
  let record ← Record.ofTree ["results"] tree
  let results ← record.withDefault "results" [] (Decoder.list DecisionResult.decode)
  return ⟨results⟩

end Response

namespace SortedMap

/-- The entries of a map by the names of its keys. -/
def encodeEntries {κ α : Type} [LT κ] (name : κ → String) (encode : α → DataTree)
    (map : SortedMap κ α) : DataTree :=
  .table (map.entries.map fun entry => (name entry.1, encode entry.2))

/-- The keys and the values of named entries. -/
def decodeEntries {κ α : Type} (find? : String → Option κ) (decode : Decoder α) :
    List (String × DataTree) → Except DecodeFault (List (κ × α))
  | [] => .ok []
  | (name, tree) :: rest =>
      match find? name with
      | none => .error .shape
      | some key => do
          let value ← decode tree
          let others ← decodeEntries find? decode rest
          return (key, value) :: others

/-- The map that a table holds, whose names stand for keys. -/
def decodeTable {κ α : Type} [LT κ] [DecidableLT κ]
    [Trans (α := κ) (β := κ) (γ := κ) (· < ·) (· < ·) (· < ·)]
    (find? : String → Option κ) (decode : Decoder α) : Decoder (SortedMap κ α)
  | .table entries => (decodeEntries find? decode entries).map ofList
  | _ => .error .shape

end SortedMap

namespace ActionEntry

/-- The tree of an entry. -/
def encode (entry : ActionEntry) : DataTree :=
  .table
    [("policies", .ofList DataTree.string entry.policies),
     ("obligations", .ofList Obligation.encode entry.obligations)]

/-- The entry that a tree holds. -/
def decode : Decoder ActionEntry := fun tree => do
  let record ← Record.ofTree ["policies", "obligations"] tree
  let policies ← record.withDefault "policies" [] (Decoder.list Decoder.string)
  let obligations ← record.withDefault "obligations" [] (Decoder.list Obligation.decode)
  return ⟨policies, obligations⟩

end ActionEntry

namespace ActionPermissions

/-- The tree of the actions of one decision. -/
def encode (permissions : ActionPermissions) : DataTree :=
  .table [("actions", permissions.encodeEntries id ActionEntry.encode)]

/-- The actions of one decision that a tree holds. -/
def decode : Decoder ActionPermissions := fun tree => do
  let record ← Record.ofTree ["actions"] tree
  record.withDefault "actions" .empty (SortedMap.decodeTable some ActionEntry.decode)

end ActionPermissions

namespace PermissionsResult

/-- The tree of permissions. -/
def encode (result : PermissionsResult) : DataTree :=
  .table [("permissions", result.byDecision.encodeEntries Decision.name ActionPermissions.encode)]

/-- The permissions that a tree holds. -/
def decode : Decoder PermissionsResult := fun tree => do
  let record ← Record.ofTree ["permissions"] tree
  let byDecision ←
    record.withDefault "permissions" .empty
      (SortedMap.decodeTable Decision.ofName? ActionPermissions.decode)
  return ⟨byDecision⟩

end PermissionsResult

namespace PermissionsResponse

/-- The tree of an answer with permissions. -/
def encode (response : PermissionsResponse) : DataTree :=
  .table
    [("status", response.status.encode),
     ("results", .ofList PermissionsResult.encode response.results)]

/-- The answer with permissions that a tree holds. -/
def decode : Decoder PermissionsResponse := fun tree => do
  let record ← Record.ofTree ["status", "results"] tree
  let status ← record.withDefault "status" .ok Status.decode
  let results ← record.withDefault "results" [] (Decoder.list PermissionsResult.decode)
  return ⟨status, results⟩

end PermissionsResponse
end PolicyDecision
