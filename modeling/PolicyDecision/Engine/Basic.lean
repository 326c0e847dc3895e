import PolicyDecision.Engine.CombinedDecision
import PolicyDecision.Engine.Split
import PolicyDecision.Fault
import PolicyDecision.Permissions
import PolicyDecision.RootLookup

/-!
# Decision engine

The engine takes a request in, splits it, evaluates each individual request and
collects or combines the results. It depends on three collaborators: the split
of requests, the context of an individual request, and the root policy that a
context finds. Their faults become indeterminate results, so every request is
answered.
-/

namespace PolicyDecision

/-- Settings of an engine. The default decision is the answer when no root policy
applies. -/
structure EngineConfiguration where
  defaultDecision : Decision
  parallelEvaluation : Bool
  deriving DecidableEq, Repr

/-- The settings without any given: an indeterminate default and evaluation in
sequence. -/
def EngineConfiguration.standard : EngineConfiguration := ⟨.indeterminate, false⟩

/-- How the evaluation of a root policy ends: with a result, with a fault, or
without either when it breaks off. -/
inductive RootEvaluation
  | answered (result : EvaluationResult)
  | failed (fault : Fault)
  | brokenOff

/-- The view of one individual request: the request, and the evaluation of the
root policy that applies to it. -/
structure EvaluationContext where
  request : IndividualRequest
  root : RootLookup RootEvaluation

/-- An engine with its collaborators. The number of workers matters only for
parallel evaluation. -/
structure Engine where
  configuration : EngineConfiguration
  split : Request → Except Fault (List IndividualRequest)
  contextFor : IndividualRequest → Except Fault (Option EvaluationContext)
  workers : Nat

/-- Consecutive parts of a list, of the given positive size but for the last. -/
def chunksOf {α : Type} (size : Nat) : List α → List (List α)
  | [] => []
  | first :: rest => (first :: rest.take (size - 1)) :: chunksOf size (rest.drop (size - 1))
termination_by list => list.length
decreasing_by simp only [List.length_drop, List.length_cons]; omega

/-- The parts of a list make up the list. -/
theorem flatten_chunksOf {α : Type} (size : Nat) (list : List α) :
    (chunksOf size list).flatten = list := by
  fun_induction chunksOf size list with
  | case1 => rfl
  | case2 first rest inductionHypothesis => simp [inductionHypothesis]

namespace Engine

/-- The profile of combined decisions. -/
def combinedDecisionProfile : String :=
  "urn:oasis:names:tc:xacml:3.0:profile:multiple:combined-decision"

/-- The profile of repeated attribute categories. -/
def repeatedCategoriesProfile : String :=
  "urn:oasis:names:tc:xacml:3.0:profile:multiple:repeated-attribute-categories"

/-- The profiles that engines support. -/
def profiles : List String := [combinedDecisionProfile, repeatedCategoriesProfile]

/-- The profile is supported. -/
def hasProfile (profile : String) : Bool := profiles.contains profile

/-- The status of a split without individual requests. -/
def noIndividualRequests : Status := .processingError "No individual decision requests"

/-- The status of an individual request without a context. -/
def noContext : Status := .processingError "Null EvaluationContext"

/-- The status of an individual evaluation that broke off. -/
def evaluationBrokeOff : Status := .processingError "Individual evaluation worker panicked"

/-- The result when no root policy applies. -/
def withoutPolicy (defaultDecision : Decision) : DecisionResult :=
  .withStatus defaultDecision
    (.withMessage (if defaultDecision.isIndeterminate then .processingError else .ok)
      "No applicable policy")

/-- The result of an evaluation, with the attributes of the request echoed when it
succeeded. -/
def echoing (request : IndividualRequest) (evaluated : EvaluationResult) : DecisionResult :=
  let result := DecisionResult.ofEvaluation evaluated
  if evaluated.status.isOk then result.addAttributes request.echo else result

/-- The result in a context; nothing when the evaluation of the root broke off. -/
def decideInContext (defaultDecision : Decision) (context : EvaluationContext) :
    Option DecisionResult :=
  if context.root.status.isOk then
    match context.root.root with
    | none => some (withoutPolicy defaultDecision)
    | some (.answered result) => some (echoing context.request result)
    | some (.failed fault) => some (.ofStatus (.processingError fault.message))
    | some .brokenOff => none
  else some (.ofStatus context.root.status)

/-- The result of an individual request; nothing when its evaluation broke off. -/
def decideIndividual (engine : Engine) (individual : IndividualRequest) : Option DecisionResult :=
  if individual.status.isOk then
    match engine.contextFor individual with
    | .ok (some context) => decideInContext engine.configuration.defaultDecision context
    | .ok none => some (.ofStatus noContext)
    | .error fault => some (.ofStatus (.processingError fault.message))
  else some (.ofStatus individual.status)

/-- The results of one worker for its share of the individual requests. When one
of its evaluations breaks off, the worker has no result to show for any. This is
so in parallel evaluation. In sequence an evaluation that breaks off takes the
whole decision with it, and there is no answer: the results that such a share has
here, and whatever is made from them, then stand for nothing. -/
def workerResults (engine : Engine) (share : List IndividualRequest) : List DecisionResult :=
  (share.mapM engine.decideIndividual).getD (share.map fun _ => .ofStatus evaluationBrokeOff)

/-- The size of the shares of the individual requests; all of them are one share
unless they are evaluated in parallel. -/
def shareSize (engine : Engine) (count : Nat) : Nat :=
  if engine.configuration.parallelEvaluation && 2 ≤ count then
    (count + engine.workers - 1) / max 1 engine.workers
  else count

/-- The results of all individual requests in their order. -/
def evaluateAll (engine : Engine) (individuals : List IndividualRequest) : List DecisionResult :=
  (chunksOf (engine.shareSize individuals.length) individuals).flatMap engine.workerResults

/-- The individual requests of a request, or the status that ends its processing. -/
def intake (engine : Engine) (request : Request) : Except Status (List IndividualRequest) :=
  if request.status.isOk then
    match engine.split request with
    | .error fault => .error (.processingError fault.message)
    | .ok [] => .error noIndividualRequests
    | .ok (first :: rest) => .ok (first :: rest)
  else .error request.status

/-- The answer to a request: a result for each individual request in order, or a
single combined result. -/
def decide (engine : Engine) (request : Request) : Response :=
  match engine.intake request with
  | .error status => .ofStatus status
  | .ok individuals =>
      let results := engine.evaluateAll individuals
      if request.combinedDecision then ⟨(CombinedDecision.combine results).toList⟩ else ⟨results⟩

/-- The entry of an action with what a result contributes to it. -/
def contribute (result : DecisionResult) (entry : ActionEntry) : ActionEntry :=
  let ids := (result.policyIdentifiers ++ result.policySetIdentifiers).map PolicyIdentifier.id
  result.obligations.foldl ActionEntry.addObligation (ids.foldl ActionEntry.addPolicy entry)

/-- The permissions with one individual request and its result. -/
def addPermission
    (permissions : PermissionsResult)
    (decided : IndividualRequest × DecisionResult) : PermissionsResult :=
  decided.1.actions.foldl
    (fun current action => current.change decided.2.decision action (contribute decided.2))
    permissions

/-- The decisions on a request grouped by decision and action. An individual
request without an action contributes nothing. -/
def decidePermissions (engine : Engine) (request : Request) : PermissionsResponse :=
  match engine.intake request with
  | .error status => .ofStatus status
  | .ok individuals =>
      ⟨.ok, [(individuals.zip (engine.evaluateAll individuals)).foldl addPermission .empty]⟩

end Engine
end PolicyDecision
