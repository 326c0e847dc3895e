import PolicyDecision.Value

/-!
# Obligations and advice

Directives that accompany a decision, the values assigned in them, and the
identifiers of the policies that contributed to a decision.
-/

namespace PolicyDecision

/-- A value assigned to an attribute of a directive. -/
structure Assignment where
  attributeId : String
  category : Option String
  value : Value
  deriving BEq

/-- A directive that the enforcement point must carry out. -/
structure Obligation where
  id : String
  assignments : List Assignment
  deriving BEq

/-- A directive that the enforcement point may ignore. -/
structure Advice where
  id : String
  assignments : List Assignment
  deriving BEq

/-- The identifier of a policy or a policy set. -/
structure PolicyIdentifier where
  id : String
  version : Option String
  deriving DecidableEq, Repr

end PolicyDecision
