import PolicyDecision.Engine.Basic
import PolicyDecision.Store.Lookup

/-!
# Engine over a store

The standard engine: it splits requests at repeated categories, reads attributes
from the individual request and takes policies from a store.
-/

namespace PolicyDecision

/-- The context of an individual request over a store. -/
def Store.contextFor (store : Store) (request : IndividualRequest) : EvaluationContext where
  request := request
  root :=
    (store.rootFor request).map fun root => .answered (root.answer (store.scope request)).result.get

/-- The engine over a store. -/
def Engine.ofStore (configuration : EngineConfiguration) (store : Store) : Engine where
  configuration := configuration
  split := fun request => .ok request.split
  contextFor := fun individual => .ok (some (store.contextFor individual))
  workers := 1

end PolicyDecision
