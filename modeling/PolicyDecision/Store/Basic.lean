import PolicyDecision.Policy.Evaluation
import PolicyDecision.Store.ReferenceCheck

/-!
# Stores

A store keeps definitions under their identifiers and knows which of them are
roots. Its references are checked for cycles. References to identifiers that it
does not hold are left to the evaluation.
-/

namespace PolicyDecision

/-- Why a store cannot be built. -/
inductive StoreFault
  | duplicateId (id : String)
  | referenceCycle (chain : List String)
  | cannotCombineRules (id : String) (algorithm : CombiningAlgorithm)
  | unknownRoot (id : String)
  deriving DecidableEq, Repr

namespace StoreFault

/-- The wording of a store fault. -/
def reason : StoreFault → String
  | .duplicateId id => "duplicate policy id '" ++ id ++ "'"
  | .referenceCycle chain => "policy reference cycle: " ++ " -> ".intercalate chain
  | .cannotCombineRules id algorithm =>
      "policy '" ++ id ++ "' uses '" ++ algorithm.name ++ "', which cannot combine rules"
  | .unknownRoot id => "root '" ++ id ++ "' is not defined in the document"

/-- A store fault is a fault of configuration. -/
def fault (storeFault : StoreFault) : Fault := .configuration storeFault.reason

end StoreFault

/-- Definitions in the order in which they were stored, and the roots among
them. -/
structure Store where
  definitions : List Definition
  roots : List Definition

namespace Store

/-- The store without definitions. -/
def empty : Store := ⟨[], []⟩

/-- The definition with an identifier. -/
def get? (store : Store) (id : String) : Option Definition :=
  store.definitions.find? fun definition => definition.id = id

/-- The identifiers that a stored definition refers to and that are stored
themselves. -/
def references (store : Store) (id : String) : Option (List String) :=
  (store.get? id).map fun definition =>
    definition.referencedIds.filter fun target => (store.get? target).isSome

/-- The stored identifiers in increasing order. -/
def sortedIds (store : Store) : List String :=
  (store.definitions.map Definition.id).mergeSort fun first second => !decide (second < first)

/-- The stored definitions have no cycle of references. -/
def checkReferences (store : Store) : Except StoreFault Unit :=
  match ReferenceCheck.visitAll store.references store.sortedIds with
  | .ok _ => .ok ()
  | .error chain => .error (.referenceCycle chain)

/-- The number of roots. -/
def rootCount (store : Store) : Nat := store.roots.length

end Store
end PolicyDecision
