import PolicyDecision.Codec.Configuration
import PolicyDecision.Codec.Policy
import PolicyDecision.Toml.Document

/-!
# Loading of TOML documents

Stores and settings from TOML documents. A document that is malformed or that
does not hold what it should is a fault of configuration.
-/

namespace PolicyDecision
namespace Toml

/-- The fault of a document that cannot be read as what it should hold. -/
def loadFault (what : String) : Fault := .configuration ("failed to parse " ++ what ++ " TOML")

/-- The data of a document. -/
def load {α : Type} (what : String) (decode : Decoder α) (document : String) : Except Fault α :=
  match parse document with
  | none => .error (loadFault what)
  | some tree =>
      match decode tree with
      | .ok data => .ok data
      | .error _ => .error (loadFault what)

end Toml

/-- The policy document in a TOML document. -/
def PolicyDocument.ofToml (document : String) : Except Fault PolicyDocument :=
  Toml.load "policy" PolicyDocument.decode document

/-- The store of a policy document, with its failure as a fault. -/
def Store.ofDocument (document : PolicyDocument) : Except Fault Store :=
  match document.store with
  | .ok store => .ok store
  | .error storeFault => .error storeFault.fault

/-- The store of the policy document in a TOML document. -/
def Store.ofToml (document : String) : Except Fault Store :=
  match PolicyDocument.ofToml document with
  | .ok written => Store.ofDocument written
  | .error fault => .error fault

/-- The settings of an engine in a TOML document. -/
def EngineConfiguration.ofToml (document : String) : Except Fault EngineConfiguration :=
  Toml.load "PDP config" EngineConfiguration.decode document

/-- The settings of an enforcement point in a TOML document. -/
def EnforcementConfiguration.ofToml (document : String) : Except Fault EnforcementConfiguration :=
  Toml.load "PEP config" EnforcementConfiguration.decode document

end PolicyDecision
