import PolicyDecision.Status

/-!
# Match results

The three outcomes of testing whether something applies to a request. In a
conjunction one member that does not match decides, and in a disjunction one
that does, even beside members that are indeterminate.
-/

namespace PolicyDecision

/-- Whether something applies to a request. -/
inductive MatchResult
  | matched
  | unmatched
  | indeterminate (status : Status)
  deriving DecidableEq, Repr

namespace MatchResult

/-- The outcome of a conjunction whose first failure so far is known. -/
def allAfter : Option Status → List MatchResult → MatchResult
  | none, [] => .matched
  | some status, [] => .indeterminate status
  | _, .unmatched :: _ => .unmatched
  | failure, .matched :: rest => allAfter failure rest
  | failure, .indeterminate status :: rest => allAfter (some (failure.getD status)) rest

/-- The outcome of a conjunction, which is matched without members. -/
def all (results : List MatchResult) : MatchResult := allAfter none results

/-- The outcome of a disjunction whose first failure so far is known. -/
def anyAfter : Option Status → List MatchResult → MatchResult
  | none, [] => .unmatched
  | some status, [] => .indeterminate status
  | _, .matched :: _ => .matched
  | failure, .unmatched :: rest => anyAfter failure rest
  | failure, .indeterminate status :: rest => anyAfter (some (failure.getD status)) rest

/-- The outcome of a disjunction, which is unmatched without members. -/
def any (results : List MatchResult) : MatchResult := anyAfter none results

@[simp] theorem all_nil : all [] = .matched := rfl

@[simp] theorem any_nil : any [] = .unmatched := rfl

/-- The outcome of a test that yields a truth value or fails. -/
def ofTruth : Except Status Bool → MatchResult
  | .ok true => .matched
  | .ok false => .unmatched
  | .error status => .indeterminate status

end MatchResult
end PolicyDecision
