import PolicyDecision.Fault
import PolicyDecision.Obligation

/-!
# Routing of obligations

Every obligation is assigned to every handler that matches it, and each handler
is handed its share once. An obligation that no handler matches fails the whole
routing, and the first handler that fails ends the dispatch.
-/

namespace PolicyDecision

/-- A handler of obligations. The key tells handlers apart, also those of equal
name. -/
structure ObligationHandler where
  key : Nat
  name : String
  handles : Obligation → Bool
  outcome : List Obligation → Except Fault Unit

/-- The share of one handler. -/
structure Route where
  handler : ObligationHandler
  share : List Obligation

namespace Route

/-- The route with an obligation added to its share, unless an equal one is
there. -/
def add (route : Route) (obligation : Obligation) : Route :=
  if route.share.contains obligation then route
  else { route with share := route.share ++ [obligation] }

end Route

/-- One call of a handler with its share. -/
structure HandlerCall where
  handler : ObligationHandler
  obligations : List Obligation

/-- The registered handlers in the order of registration. -/
structure ObligationRouter where
  handlers : List ObligationHandler

namespace ObligationRouter

/-- The router without handlers. -/
def empty : ObligationRouter := ⟨[]⟩

/-- The number of handlers. -/
def size (router : ObligationRouter) : Nat := router.handlers.length

/-- The router has no handlers. -/
def isEmpty (router : ObligationRouter) : Bool := router.handlers.isEmpty

/-- The routes with an obligation assigned to a handler, whose route is made when
there is none. -/
def assign (obligation : Obligation) (handler : ObligationHandler) : List Route → List Route
  | [] => [⟨handler, [obligation]⟩]
  | route :: rest =>
      if route.handler.key = handler.key then route.add obligation :: rest
      else route :: assign obligation handler rest

/-- The routes with an obligation assigned to the handlers that match it. -/
def assignAll
    (obligation : Obligation)
    (handlers : List ObligationHandler)
    (routes : List Route) : List Route :=
  handlers.foldl (fun current handler => assign obligation handler current) routes

/-- The routes of obligations after some have been assigned. -/
def routeAfter (router : ObligationRouter) (routes : List Route) :
    List Obligation → Except Fault (List Route)
  | [] => .ok routes
  | obligation :: rest =>
      match router.handlers.filter fun handler => handler.handles obligation with
      | [] => .error (.unhandleableObligation obligation.id)
      | first :: others =>
          routeAfter router (assignAll obligation (first :: others) routes) rest

/-- The routes of obligations, one for each handler that matches some. -/
def route (router : ObligationRouter) (obligations : List Obligation) :
    Except Fault (List Route) :=
  router.routeAfter [] obligations

/-- The share of the first handler with a name, which may have none. -/
def shareOf (routes : List Route) (name : String) : List Obligation :=
  match routes.find? fun route => route.handler.name = name with
  | some route => route.share
  | none => []

/-- Hand each handler its share. The calls made are listed; the first failure is
the last call. -/
def dispatch : List Route → List HandlerCall × Except Fault Unit
  | [] => ([], .ok ())
  | route :: rest =>
      let call : HandlerCall := ⟨route.handler, route.share⟩
      match route.handler.outcome route.share with
      | .error fault => ([call], .error fault)
      | .ok () =>
          let (calls, outcome) := dispatch rest
          (call :: calls, outcome)

end ObligationRouter
end PolicyDecision
