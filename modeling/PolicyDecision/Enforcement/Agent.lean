import PolicyDecision.Enforcement.Router
import PolicyDecision.Enforcement.View
import PolicyDecision.Engine.Basic

/-!
# Enforcement agent

The agent asks an engine for decisions and enforces them: it hands the
obligations of a response to their handlers and then answers whether access is
allowed.
-/

namespace PolicyDecision

/-- An engine with the settings and the optional router of an enforcement point. -/
structure EnforcementAgent where
  engine : Engine
  configuration : EnforcementConfiguration
  router : Option ObligationRouter

namespace EnforcementAgent

/-- The views of all results of a request, in order. -/
def decideAll (agent : EnforcementAgent) (request : Request) : List EnforcementView :=
  (agent.engine.decide request).results.map fun result => ⟨result, agent.configuration⟩

/-- The view of the first result of a request. -/
def decide (agent : EnforcementAgent) (request : Request) : Except Fault EnforcementView :=
  match agent.decideAll request with
  | first :: _ => .ok first
  | [] => .error (.evaluation "decision engine returned no results")

/-- The permissions of a request. -/
def decidePermissions (agent : EnforcementAgent) (request : Request) :
    Except Fault PermissionsResult :=
  let response := agent.engine.decidePermissions request
  if response.status.isOk then
    match response.results with
    | first :: _ => .ok first
    | [] => .error (.evaluation "decision engine returned no permissions results")
  else .error (.evaluation response.status.text)

/-- The obligations of a view handed to their handlers: the calls made, and
whether all of them succeeded. -/
def discharge (agent : EnforcementAgent) (view : EnforcementView) :
    List HandlerCall × Except Fault Unit :=
  match agent.router, view.obligations.values with
  | none, _ => ([], .ok ())
  | some _, [] => ([], .ok ())
  | some router, first :: rest =>
      match router.route (first :: rest) with
      | .error fault => ([], .error fault)
      | .ok routes => ObligationRouter.dispatch routes

/-- The obligations of a view are discharged, and then access is allowed or not.
The calls made to handlers are listed. -/
def enforce (agent : EnforcementAgent) (view : EnforcementView) :
    List HandlerCall × Except Fault Bool :=
  match agent.discharge view with
  | (calls, .ok ()) => (calls, view.allowed)
  | (calls, .error fault) => (calls, .error fault)

end EnforcementAgent
end PolicyDecision
