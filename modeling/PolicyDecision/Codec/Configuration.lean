import PolicyDecision.Codec.Value
import PolicyDecision.Enforcement.View
import PolicyDecision.Engine.Basic

/-!
# Written form of settings

The settings of engines and enforcement points as data trees. A setting that is
not given has its standard value.
-/

namespace PolicyDecision

namespace EngineConfiguration

/-- The tree of settings. -/
def encode (configuration : EngineConfiguration) : DataTree :=
  .table
    [("default_decision", configuration.defaultDecision.encode),
     ("parallel_evaluation", .boolean configuration.parallelEvaluation)]

/-- The settings that a tree holds. -/
def decode : Decoder EngineConfiguration := fun tree => do
  let record ← Record.ofTree ["default_decision", "parallel_evaluation"] tree
  let defaultDecision ←
    record.withDefault "default_decision" standard.defaultDecision Decision.decode
  let parallelEvaluation ←
    record.withDefault "parallel_evaluation" standard.parallelEvaluation Decoder.boolean
  return ⟨defaultDecision, parallelEvaluation⟩

end EngineConfiguration

namespace Behavior

/-- The behavior with a name. -/
def ofName? (name : String) : Option Behavior :=
  [allow, deny, error].find? fun behavior => behavior.name = name

/-- The tree of a behavior. -/
def encode (behavior : Behavior) : DataTree := .string behavior.name

/-- The behavior that a tree holds. -/
def decode : Decoder Behavior := .named ofName?

end Behavior

namespace EnforcementConfiguration

/-- The tree of settings. -/
def encode (configuration : EnforcementConfiguration) : DataTree :=
  .table
    [("indeterminate_behavior", configuration.indeterminate.encode),
     ("not_applicable_behavior", configuration.notApplicable.encode)]

/-- The settings that a tree holds. -/
def decode : Decoder EnforcementConfiguration := fun tree => do
  let record ← Record.ofTree ["indeterminate_behavior", "not_applicable_behavior"] tree
  let indeterminate ←
    record.withDefault "indeterminate_behavior" standard.indeterminate Behavior.decode
  let notApplicable ←
    record.withDefault "not_applicable_behavior" standard.notApplicable Behavior.decode
  return ⟨indeterminate, notApplicable⟩

end EnforcementConfiguration
end PolicyDecision
