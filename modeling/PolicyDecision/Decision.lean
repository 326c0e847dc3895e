/-!
# Decisions

The outcomes of evaluating a rule, a policy or a request. Besides the definite
ones, an indeterminate outcome records which definite decisions an error left
within reach.
-/

namespace PolicyDecision

/-- The outcome of an evaluation. -/
inductive Decision
  | permit
  | deny
  | notApplicable
  | indeterminate
  | indeterminateDeny
  | indeterminatePermit
  | indeterminateDenyPermit
  deriving DecidableEq, Repr

namespace Decision

/-- All decisions in their order. -/
def all : List Decision :=
  [.permit, .deny, .notApplicable, .indeterminate, .indeterminateDeny, .indeterminatePermit,
   .indeterminateDenyPermit]

/-- The place of a decision in the order of all decisions. -/
def rank : Decision → Nat
  | .permit => 0
  | .deny => 1
  | .notApplicable => 2
  | .indeterminate => 3
  | .indeterminateDeny => 4
  | .indeterminatePermit => 5
  | .indeterminateDenyPermit => 6

instance : LT Decision := ⟨fun first second => first.rank < second.rank⟩

instance (first second : Decision) : Decidable (first < second) :=
  inferInstanceAs (Decidable (first.rank < second.rank))

instance : Trans (α := Decision) (β := Decision) (γ := Decision) (· < ·) (· < ·) (· < ·) :=
  ⟨fun before after => Nat.lt_trans before after⟩

/-- The decision records an error. -/
def isIndeterminate : Decision → Bool
  | .permit | .deny | .notApplicable => false
  | .indeterminate | .indeterminateDeny | .indeterminatePermit | .indeterminateDenyPermit => true

/-- The decision is a permit or a denial. -/
def isDefinite : Decision → Bool
  | .permit | .deny => true
  | _ => false

/-- The indeterminate decision that leaves only the given definite one within
reach; any other decision is kept. -/
def asIndeterminate : Decision → Decision
  | .permit => .indeterminatePermit
  | .deny => .indeterminateDeny
  | other => other

/-- The name of a decision in hyphenated lower case. -/
def name : Decision → String
  | .permit => "permit"
  | .deny => "deny"
  | .notApplicable => "not-applicable"
  | .indeterminate => "indeterminate"
  | .indeterminateDeny => "indeterminate-deny"
  | .indeterminatePermit => "indeterminate-permit"
  | .indeterminateDenyPermit => "indeterminate-deny-permit"

/-- The decision with a name. -/
def ofName? (name : String) : Option Decision :=
  all.find? fun decision => decision.name = name

/-- Every decision is found by its name. -/
@[simp] theorem ofName?_name (decision : Decision) : ofName? decision.name = some decision := by
  cases decision <;> decide

/-- The text of a decision for a reader. -/
def text : Decision → String
  | .permit => "Permit"
  | .deny => "Deny"
  | .notApplicable => "NotApplicable"
  | .indeterminate => "Indeterminate"
  | .indeterminateDeny => "Indeterminate\x7bD\x7d"
  | .indeterminatePermit => "Indeterminate\x7bP\x7d"
  | .indeterminateDenyPermit => "Indeterminate\x7bDP\x7d"

end Decision
end PolicyDecision
