import PolicyDecision.Store.Basic

/-!
# Updates of a store

A store is built up in place by calls that each store one definition. It refuses
a definition whose identifier is taken and one that closes a cycle of references.
The definition is put in before the references are checked, and it is taken out
again when it closes a cycle of them.
-/

namespace PolicyDecision

namespace Store

/-- The store with one more definition, whatever it refers to. -/
def put (store : Store) (definition : Definition) : Store :=
  { store with definitions := store.definitions ++ [definition] }

/-- The store without the definition of an identifier. -/
def remove (store : Store) (id : String) : Store :=
  { store with definitions := store.definitions.filter fun definition => definition.id ≠ id }

/-- The store after a definition was offered to it, and whether it was taken. -/
def insert (store : Store) (definition : Definition) : Store × Except StoreFault Unit :=
  if (store.get? definition.id).isSome then (store, .error (.duplicateId definition.id))
  else
    match (store.put definition).checkReferences with
    | .ok () => (store.put definition, .ok ())
    | .error fault => ((store.put definition).remove definition.id, .error fault)

end Store

/-- A call that stores a definition, reachable by reference only or as a root. -/
inductive StoreCall
  | add (definition : Definition)
  | addRoot (definition : Definition)

namespace StoreCall

/-- The definition to be stored. -/
def definition : StoreCall → Definition
  | .add definition => definition
  | .addRoot definition => definition

/-- The store after a call, and whether the call succeeded. -/
def run (store : Store) : StoreCall → Store × Except StoreFault Unit
  | .add definition => store.insert definition
  | .addRoot definition =>
      match store.insert definition with
      | (extended, .ok ()) => ({ extended with roots := extended.roots ++ [definition] }, .ok ())
      | (refused, .error fault) => (refused, .error fault)

/-- The store that a call leads to, or the fault that prevents it. -/
def outcome (store : Store) (call : StoreCall) : Except StoreFault Store :=
  match call.run store with
  | (extended, .ok ()) => .ok extended
  | (_, .error fault) => .error fault

end StoreCall

namespace Store

/-- The store with one more definition, reachable by reference only. -/
def add (store : Store) (definition : Definition) : Except StoreFault Store :=
  (StoreCall.add definition).outcome store

/-- The store with one more root. -/
def addRoot (store : Store) (definition : Definition) : Except StoreFault Store :=
  (StoreCall.addRoot definition).outcome store

end Store
end PolicyDecision
