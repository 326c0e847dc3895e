import PolicyDecision.Function.Definition

/-!
# Function registries

Functions found by their full identifiers. The standard registry holds every
standard function.
-/

namespace PolicyDecision

/-- Functions with the identifiers they are registered under, each once. -/
structure Registry where
  entries : List (String × Function)

namespace Registry

/-- The registry without functions. -/
def empty : Registry := ⟨[]⟩

/-- The function with a full identifier. -/
def get? (registry : Registry) (id : String) : Option Function :=
  (registry.entries.find? fun entry => entry.1 = id).map Prod.snd

/-- The registry with a function, which replaces one with the same identifier. -/
def register (registry : Registry) (function : Function) : Registry :=
  ⟨(registry.entries.filter fun entry => entry.1 ≠ function.id) ++ [(function.id, function)]⟩

/-- The number of functions. -/
def size (registry : Registry) : Nat := registry.entries.length

/-- The registry holds no function. -/
def isEmpty (registry : Registry) : Bool := registry.entries.isEmpty

/-- The identifiers in increasing order. -/
def ids (registry : Registry) : List String :=
  (registry.entries.map Prod.fst).mergeSort fun first second => !decide (second < first)

/-- The registry of all standard functions. -/
def standard : Registry := ⟨Function.standard.map fun function => (function.id, function)⟩

end Registry

/-- The standard function with a full identifier. -/
def Function.find? (id : String) : Option Function := Registry.standard.get? id

end PolicyDecision
