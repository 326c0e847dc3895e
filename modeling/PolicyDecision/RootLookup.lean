import PolicyDecision.Status

/-!
# Root lookups

The answer to the question which root policy applies to a request: one root,
none, or an error when the question has no answer.
-/

namespace PolicyDecision

/-- The root that applies, if any, and the status of the lookup. -/
structure RootLookup (α : Type) where
  root : Option α
  status : Status

namespace RootLookup

/-- The lookup found the root that applies. -/
def found {α : Type} (root : α) : RootLookup α := ⟨some root, .ok⟩

/-- The lookup found that no root applies. -/
def notFound {α : Type} : RootLookup α := ⟨none, .ok⟩

/-- The lookup failed. -/
def failed {α : Type} (status : Status) : RootLookup α := ⟨none, status⟩

/-- The lookup with another view of its root. -/
def map {α β : Type} (view : α → β) (lookup : RootLookup α) : RootLookup β :=
  ⟨lookup.root.map view, lookup.status⟩

end RootLookup
end PolicyDecision
