import PolicyDecision.Store.Update

/-!
# Policy documents

The written form of a store: policies, policy sets and the identifiers of the
roots. Without root identifiers every definition is a root. A store is built from
a document or from nothing, and by calls.
-/

namespace PolicyDecision

/-- The written form of a store. -/
structure PolicyDocument where
  policies : List Policy
  policySets : List PolicySet
  roots : List String

namespace PolicyDocument

/-- The definitions of a document, policies first. -/
def definitions (document : PolicyDocument) : List Definition :=
  document.policies.map .policy ++ document.policySets.map .policySet

/-- Every policy of the document uses an algorithm that combines rules. -/
def checkRuleAlgorithms : List Policy → Except StoreFault Unit
  | [] => .ok ()
  | policy :: rest =>
      if policy.header.algorithm.ruleId?.isNone then
        .error (.cannotCombineRules policy.header.id policy.header.algorithm)
      else checkRuleAlgorithms rest

/-- No definition has the identifier of one before it or of one seen already. -/
def checkDistinct (seen : List String) : List Definition → Except StoreFault Unit
  | [] => .ok ()
  | definition :: rest =>
      if seen.contains definition.id then .error (.duplicateId definition.id)
      else checkDistinct (definition.id :: seen) rest

/-- The definitions with the given root identifiers, in order. -/
def selectRoots (store : Store) : List String → Except StoreFault (List Definition)
  | [] => .ok []
  | id :: rest =>
      match store.get? id with
      | none => .error (.unknownRoot id)
      | some root =>
          match selectRoots store rest with
          | .ok others => .ok (root :: others)
          | .error fault => .error fault

/-- The store of a document. -/
def store (document : PolicyDocument) : Except StoreFault Store := do
  checkRuleAlgorithms document.policies
  checkDistinct [] document.definitions
  let unrooted : Store := ⟨document.definitions, []⟩
  unrooted.checkReferences
  if document.roots.isEmpty then
    return { unrooted with roots := document.definitions }
  else
    let roots ← selectRoots unrooted document.roots
    return { unrooted with roots }

end PolicyDocument

/-- The stores that can be built: from nothing or from a document, by any calls,
whether they succeed or fail. -/
inductive Store.Built : Store → Prop
  | empty : Built .empty
  | ofDocument {document : PolicyDocument} {store : Store} :
      document.store = .ok store → Built store
  | call {store : Store} (call : StoreCall) : Built store → Built (call.run store).1

end PolicyDecision
