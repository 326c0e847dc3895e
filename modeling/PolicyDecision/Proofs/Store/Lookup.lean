import Mathlib.Data.List.Nodup
import PolicyDecision.Store.Lookup

/-!
# Lookups in stores

Definitions are found under their identifiers. The answers that references get in
a scope of a store come from its definitions, level by level, and the root that
applies to a request is one of its roots.
-/

namespace PolicyDecision

namespace Store

/-! ## Definitions -/

theorem get?_eq_some
    {store : Store}
    {id : String}
    {definition : Definition}
    (found : store.get? id = some definition) :
    definition ∈ store.definitions ∧ definition.id = id :=
  ⟨List.mem_of_find?_eq_some found, by simpa using List.find?_some found⟩

theorem ne_id_of_get?_eq_none
    {store : Store}
    {id : String}
    (absent : store.get? id = none)
    {definition : Definition}
    (member : definition ∈ store.definitions) : definition.id ≠ id := by
  simpa using List.find?_eq_none.mp absent definition member

theorem get?_isSome_iff (store : Store) (id : String) :
    (store.get? id).isSome ↔ id ∈ store.definitions.map Definition.id := by
  rw [get?, List.find?_isSome, List.mem_map]
  simp

/-- Definitions with distinct identifiers are found under them. -/
theorem get?_of_mem
    {store : Store}
    (distinct : (store.definitions.map Definition.id).Nodup)
    {definition : Definition}
    (member : definition ∈ store.definitions) :
    store.get? definition.id = some definition := by
  cases found : store.get? definition.id with
  | none => exact absurd rfl (ne_id_of_get?_eq_none found member)
  | some other =>
      obtain ⟨otherMember, sameId⟩ := get?_eq_some found
      rw [List.inj_on_of_nodup_map distinct otherMember member sameId]

end Store

/-! ## Scopes -/

/-- Every reference that a scope resolves gets an answer with a property. -/
def Scope.Answers (property : NodeAnswer → Prop) (scope : Scope) : Prop :=
  ∀ id found, scope.resolve id = some found → property found.answer

namespace Store

@[simp] theorem attributeValues_scopeWithin
    (store : Store)
    (source : AttributeSource)
    (beyond : Definition → ResolvedDefinition)
    (depth : Nat) : (store.scopeWithin source beyond depth).attributeValues = source := by
  cases depth <;> rfl

/-- What stored definitions answer on one level from answers with a property on
the level within, they answer on every level. -/
theorem scopeWithin_answers
    {store : Store}
    {source : AttributeSource}
    {beyond : Definition → ResolvedDefinition}
    {property : NodeAnswer → Prop}
    (last : ∀ definition ∈ store.definitions, property (beyond definition).answer)
    (next : ∀ inner : Scope, inner.attributeValues = source → inner.Answers property →
      ∀ definition ∈ store.definitions, property (definition.answer inner))
    (depth : Nat) : (store.scopeWithin source beyond depth).Answers property := by
  induction depth with
  | zero =>
      intro id found resolved
      obtain ⟨definition, stored, rfl⟩ := Option.map_eq_some_iff.mp resolved
      exact last definition (get?_eq_some stored).1
  | succ depth inductionHypothesis =>
      intro id found resolved
      rw [scopeWithin_resolve] at resolved
      obtain ⟨definition, stored, rfl⟩ := Option.map_eq_some_iff.mp resolved
      exact next _ (store.attributeValues_scopeWithin source beyond depth) inductionHypothesis
        definition (get?_eq_some stored).1

/-! ## Roots -/

theorem mem_of_selectRoot
    {source : AttributeSource}
    {selected : Option Definition}
    {roots : List Definition}
    {root : Definition}
    (found : (selectRoot source selected roots).root = some root) :
    selected = some root ∨ root ∈ roots := by
  fun_induction selectRoot source selected roots with
  | case1 => cases found
  | case2 earlier => exact .inl found
  | case3 selected first rest _ inductionHypothesis =>
      exact (inductionHypothesis found).imp id (List.mem_cons_of_mem first)
  | case4 => cases found
  | case5 first rest _ inductionHypothesis =>
      rcases inductionHypothesis found with isFirst | later
      · cases isFirst
        exact .inr List.mem_cons_self
      · exact .inr (List.mem_cons_of_mem first later)

/-- The root that applies to a request is one of the roots. -/
theorem mem_roots_of_rootFor
    {store : Store}
    {request : IndividualRequest}
    {root : Definition}
    (found : (store.rootFor request).root = some root) : root ∈ store.roots := by
  rcases mem_of_selectRoot found with selected | member
  · cases selected
  · exact member

end Store
end PolicyDecision
