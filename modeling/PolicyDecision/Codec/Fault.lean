import PolicyDecision.Codec.Value
import PolicyDecision.Fault

/-!
# Written form of faults

A fault is reported by its kind and its wording. It is stated by its kind and
its reason, and a rejected decision by the decision as well.
-/

namespace PolicyDecision

namespace DataTree

/-- A report of an error: its kind and a message. -/
def ofError (kind message : String) : DataTree :=
  .table [("error", .string kind), ("message", .string message)]

end DataTree

namespace Fault

/-- The name of the kind of a fault. -/
def kind : Fault → String
  | .configuration _ => "ConfigError"
  | .resolver _ => "ResolverFailure"
  | .context _ => "ContextFailure"
  | .evaluation _ => "EvaluationFailure"
  | .invalidValue _ => "InvalidValue"
  | .unhandleableObligation _ => "UnhandleableObligation"
  | .decisionRejected _ _ => "DecisionRejected"

/-- The report of a fault. -/
def encode (fault : Fault) : DataTree := .ofError fault.kind fault.message

/-- The fault of a kind for a reason, for all kinds that take no more than that. -/
def ofReason? (kind reason : String) : Option Fault :=
  match kind with
  | "ConfigError" => some (.configuration reason)
  | "ResolverFailure" => some (.resolver reason)
  | "ContextFailure" => some (.context reason)
  | "EvaluationFailure" => some (.evaluation reason)
  | "InvalidValue" => some (.invalidValue reason)
  | "UnhandleableObligation" => some (.unhandleableObligation reason)
  | _ => none

/-- The fault that a tree states. -/
def decode : Decoder Fault := fun tree => do
  let record ← Record.ofTree ["kind", "reason", "decision"] tree
  let kind ← record.required "kind" Decoder.string
  let reason ← record.required "reason" Decoder.string
  if kind = "DecisionRejected" then
    return .decisionRejected (← record.required "decision" Decision.decode) reason
  match ofReason? kind reason with
  | some fault => return fault
  | none => throw .shape

end Fault

namespace Status

/-- The report of a status that stands for an error. -/
def encodeError (status : Status) : DataTree := .ofError status.code.name status.messageText

end Status

namespace DecodeFault

/-- The report of a tree that cannot be read. -/
def encode : DecodeFault → DataTree
  | .shape => .table [("error", .string "Decode")]
  | .lexical fault => (Fault.invalidValue fault.message).encode

end DecodeFault
end PolicyDecision
