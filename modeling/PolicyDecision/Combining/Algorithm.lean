import PolicyDecision.Combining.Fold
import PolicyDecision.Fault
import PolicyDecision.MatchResult
import PolicyDecision.Text.Digits

/-!
# Combining algorithms

The combining algorithms with their identifiers, and the combination of the
children of a policy or a policy set. A combination also tells how often each
child was evaluated, since children after a decisive one are not.
-/

namespace PolicyDecision

/-- How the results of children are combined into one. -/
inductive CombiningAlgorithm
  | denyOverrides
  | permitOverrides
  | orderedDenyOverrides
  | orderedPermitOverrides
  | firstApplicable
  | onlyOneApplicable
  | denyUnlessPermit
  | permitUnlessDeny
  deriving DecidableEq, Repr

/-- A child to be combined: whether it applies, and what its evaluation answers
unless it fails. Both are found out only when a combination asks for them. -/
structure Candidate where
  target : Thunk MatchResult
  outcome : Thunk (Except Fault EvaluationResult)

/-- The result of a child; a failed evaluation is indeterminate. -/
def Candidate.result (candidate : Candidate) : EvaluationResult :=
  match candidate.outcome.get with
  | .ok result => result
  | .error fault => .processingError .indeterminate fault.message

/-- A combined result, and how often each child was evaluated for it. -/
structure Combination where
  result : EvaluationResult
  evaluations : List Nat

namespace CombiningAlgorithm

/-- All algorithms in their order. -/
def all : List CombiningAlgorithm :=
  [.denyOverrides, .permitOverrides, .orderedDenyOverrides, .orderedPermitOverrides,
   .firstApplicable, .onlyOneApplicable, .denyUnlessPermit, .permitUnlessDeny]

/-- The name of an algorithm. -/
def name : CombiningAlgorithm → String
  | .denyOverrides => "deny-overrides"
  | .permitOverrides => "permit-overrides"
  | .orderedDenyOverrides => "ordered-deny-overrides"
  | .orderedPermitOverrides => "ordered-permit-overrides"
  | .firstApplicable => "first-applicable"
  | .onlyOneApplicable => "only-one-applicable"
  | .denyUnlessPermit => "deny-unless-permit"
  | .permitUnlessDeny => "permit-unless-deny"

/-- The algorithm with a name. -/
def ofName? (name : String) : Option CombiningAlgorithm :=
  all.find? fun algorithm => algorithm.name = name

/-- Every algorithm is found by its name. -/
@[simp] theorem ofName?_name (algorithm : CombiningAlgorithm) :
    ofName? algorithm.name = some algorithm := by
  cases algorithm <;> decide

/-- The version of the standard that brought the algorithm. -/
def version : CombiningAlgorithm → String
  | .firstApplicable | .onlyOneApplicable => "1.0"
  | _ => "3.0"

/-- The identifier for combining rules, which an algorithm for policies alone
does not have. -/
def ruleId? (algorithm : CombiningAlgorithm) : Option String :=
  match algorithm with
  | .onlyOneApplicable => none
  | _ =>
      some ("urn:oasis:names:tc:xacml:" ++ algorithm.version ++ ":rule-combining-algorithm:" ++
        algorithm.name)

/-- The identifier for combining policies. -/
def policyId (algorithm : CombiningAlgorithm) : String :=
  "urn:oasis:names:tc:xacml:" ++ algorithm.version ++ ":policy-combining-algorithm:" ++
    algorithm.name

/-- The algorithm with a name, or with any identifier that ends in a name after
its last colon. -/
def lookup? (id : String) : Option CombiningAlgorithm :=
  ofName? (String.ofList (Text.afterLast ':' id.toList))

/-- A fold over the results of children as a combination: the children taken
were evaluated once and the others not at all. -/
def foldCandidates
    {σ : Type}
    (take : σ → EvaluationResult → FoldStep σ)
    (resolve : σ → EvaluationResult)
    (state : σ)
    (candidates : List Candidate) : Combination :=
  let (result, taken) := foldResults Candidate.result take resolve state candidates
  ⟨result, List.replicate taken 1 ++ List.replicate (candidates.length - taken) 0⟩

/-- The status of a choice that is not unique. -/
def moreThanOneApplicable : Status := .processingError "More than one applicable policy"

/-- The position of the only child that applies, given the number of children
passed and the position of one that was found. The choice fails at an
indeterminate target and at a second child that applies. -/
def selectOnly : Nat → Option Nat → List Candidate → Except Status (Option Nat)
  | _, selected, [] => .ok selected
  | passed, selected, candidate :: rest =>
      match candidate.target.get, selected with
      | .unmatched, _ => selectOnly (passed + 1) selected rest
      | .indeterminate status, _ => .error status
      | .matched, some _ => .error moreThanOneApplicable
      | .matched, none => selectOnly (passed + 1) (some passed) rest

/-- The combination that evaluates the only child that applies. -/
def combineOnlyOne (candidates : List Candidate) : Combination :=
  match selectOnly 0 none candidates with
  | .error status =>
      ⟨.withStatus .indeterminate status, List.replicate candidates.length 0⟩
  | .ok none => ⟨.notApplicable, List.replicate candidates.length 0⟩
  | .ok (some position) =>
      match candidates[position]? with
      | some candidate =>
          ⟨candidate.result, (List.replicate candidates.length 0).set position 1⟩
      | none => ⟨.notApplicable, List.replicate candidates.length 0⟩

/-- The combination of children by an algorithm. -/
def combine (algorithm : CombiningAlgorithm) (candidates : List Candidate) : Combination :=
  match algorithm with
  | .denyOverrides | .orderedDenyOverrides =>
      foldCandidates (OverridesState.take .deny) OverridesState.resolve .empty candidates
  | .permitOverrides | .orderedPermitOverrides =>
      foldCandidates (OverridesState.take .permit) OverridesState.resolve .empty candidates
  | .denyUnlessPermit =>
      foldCandidates UnlessState.take UnlessState.resolve (.ofFallback .deny) candidates
  | .permitUnlessDeny =>
      foldCandidates UnlessState.take UnlessState.resolve (.ofFallback .permit) candidates
  | .firstApplicable =>
      foldCandidates takeApplicable (fun _ => .notApplicable) () candidates
  | .onlyOneApplicable => combineOnlyOne candidates

end CombiningAlgorithm
end PolicyDecision
