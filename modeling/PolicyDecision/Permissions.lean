import PolicyDecision.Decision
import PolicyDecision.Obligation
import PolicyDecision.SortedMap
import PolicyDecision.Status

/-!
# Permissions

The grouped form of decisions: for each decision the actions that yield it, and
for each of these the policies and obligations involved.
-/

namespace PolicyDecision

/-- The policies and obligations of one decision on one action. -/
structure ActionEntry where
  policies : List String
  obligations : List Obligation

namespace ActionEntry

/-- The entry without policies and obligations. -/
def empty : ActionEntry := ⟨[], []⟩

/-- The entry with a policy, unless it is there. -/
def addPolicy (entry : ActionEntry) (policy : String) : ActionEntry :=
  if entry.policies.contains policy then entry
  else { entry with policies := entry.policies ++ [policy] }

/-- The entry with an obligation, unless an equal one is there. -/
def addObligation (entry : ActionEntry) (obligation : Obligation) : ActionEntry :=
  if entry.obligations.contains obligation then entry
  else { entry with obligations := entry.obligations ++ [obligation] }

end ActionEntry

/-- The actions of one decision. -/
abbrev ActionPermissions := SortedMap String ActionEntry

/-- The decisions with their actions. -/
structure PermissionsResult where
  byDecision : SortedMap Decision ActionPermissions

namespace PermissionsResult

/-- The result without decisions. -/
def empty : PermissionsResult := ⟨.empty⟩

/-- The decisions in their order. -/
def decisions (result : PermissionsResult) : List Decision := result.byDecision.keys

/-- The actions of a decision, which may have none yet. -/
def actionsOf (result : PermissionsResult) (decision : Decision) : ActionPermissions :=
  (result.byDecision.get? decision).getD .empty

/-- The entry of a decision on an action, if there is one. -/
def entry? (result : PermissionsResult) (decision : Decision) (action : String) :
    Option ActionEntry :=
  (result.actionsOf decision).get? action

/-- The result with the entry of a decision on an action changed. The entry is
created when it is not there. -/
def change
    (result : PermissionsResult)
    (decision : Decision)
    (action : String)
    (update : ActionEntry → ActionEntry) : PermissionsResult :=
  ⟨result.byDecision.alter decision fun held =>
    (held.getD .empty).alter action fun entry => update (entry.getD .empty)⟩

/-- The names of the actions of a decision, in order. -/
def actions (result : PermissionsResult) (decision : Decision) : List String :=
  (result.actionsOf decision).keys

end PermissionsResult

/-- The answer to a request for permissions. -/
structure PermissionsResponse where
  status : Status
  results : List PermissionsResult

/-- An answer without results. -/
def PermissionsResponse.ofStatus (status : Status) : PermissionsResponse := ⟨status, []⟩

end PolicyDecision
