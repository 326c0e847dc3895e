import PolicyDecision.Request
import PolicyDecision.RootLookup
import PolicyDecision.Store.Basic

/-!
# Lookups in a store

The scope that a store gives to an evaluation, and the choice of the root that
applies to a request. A stored definition is evaluated in a scope that resolves
references to one level less, so evaluation always ends. Without a cycle of
references no chain of them is longer than the number of definitions, and the
bound is never met. The definitions of one level share their answers: each is
evaluated at most once there, however often it is referred to.
-/

namespace PolicyDecision

/-- A definition beyond the bound on nested references, which is not evaluated. -/
def Definition.unevaluated (definition : Definition) : ResolvedDefinition :=
  ⟨definition.identifier, ⟨.pure .unmatched, .pure .notApplicable⟩⟩

namespace Store

/-- The scope that resolves references to a number of levels, and `beyond` them
answers otherwise. -/
def scopeWithin
    (store : Store)
    (source : AttributeSource)
    (beyond : Definition → ResolvedDefinition) : Nat → Scope
  | 0 => ⟨source, fun id => (store.get? id).map beyond⟩
  | depth + 1 =>
      let answers := Thunk.mk fun _ =>
        let inner := store.scopeWithin source beyond depth
        store.definitions.map fun definition =>
          (definition.id, Thunk.mk fun _ => definition.resolved inner)
      ⟨source, fun id =>
        (answers.get.find? fun entry => entry.1 = id).map fun entry => entry.2.get⟩

/-- A reference within the bound leads to the stored definition, which is
evaluated with one level less. -/
theorem scopeWithin_resolve
    (store : Store)
    (source : AttributeSource)
    (beyond : Definition → ResolvedDefinition)
    (depth : Nat)
    (id : String) :
    (store.scopeWithin source beyond (depth + 1)).resolve id =
      (store.get? id).map fun definition =>
        definition.resolved (store.scopeWithin source beyond depth) := by
  simp only [scopeWithin, Thunk.get, List.find?_map, Option.map_map, get?]
  rfl

/-- The scope of a request: its attributes and the definitions of the store. -/
def scope (store : Store) (request : IndividualRequest) : Scope :=
  store.scopeWithin request.attributeValues Definition.unevaluated store.definitions.length

/-- The status of a choice between several roots. -/
def moreThanOneRoot : Status := .processingError "More than one applicable root policy"

/-- The only root of a list whose target is not unmatched, after one may have
been selected. -/
def selectRoot (source : AttributeSource) :
    Option Definition → List Definition → RootLookup Definition
  | none, [] => .notFound
  | some root, [] => .found root
  | selected, root :: rest =>
      if root.targetMatch source = .unmatched then selectRoot source selected rest
      else
        match selected with
        | some _ => .failed moreThanOneRoot
        | none => selectRoot source (some root) rest

/-- The root that applies to a request. A root whose target is indeterminate
applies; its evaluation reports the failure. -/
def rootFor (store : Store) (request : IndividualRequest) : RootLookup Definition :=
  selectRoot request.attributeValues none store.roots

end Store
end PolicyDecision
