/-!
# Reference check

The search for a cycle of references among identifiers. It goes depth first from
every identifier in order, remembers the path that it is on and the identifiers
that it has finished, and stops at the first identifier that it meets twice on
one path.
-/

namespace PolicyDecision
namespace ReferenceCheck

/-- Visit an identifier, given the path to it with the latest identifier first
and the identifiers finished before. The answer is the identifiers finished
after the visit, or a path that ends where it has been before. The first
argument bounds the length of the path. -/
def visit (references : String → Option (List String)) :
    Nat → List String → List String → String → Except (List String) (List String)
  | 0, path, finished, id =>
      if finished.contains id then .ok finished
      else if path.contains id then .error (id :: path).reverse
      else .ok finished
  | depth + 1, path, finished, id =>
      if finished.contains id then .ok finished
      else if path.contains id then .error (id :: path).reverse
      else
        match references id with
        | none => .ok finished
        | some targets =>
            match targets.foldlM (visit references depth (id :: path)) finished with
            | .ok visited => .ok (id :: visited)
            | .error chain => .error chain

/-- Visit all identifiers in order. A path holds each of them at most once, so
their number bounds its length. -/
def visitAll (references : String → Option (List String)) (ids : List String) :
    Except (List String) (List String) :=
  ids.foldlM (visit references ids.length []) []

end ReferenceCheck
end PolicyDecision
