import PolicyDecision.Proofs.Function.Outcome

/-!
# Signatures of functions

The declared signature of a function holds of all its applications that succeed. They
yield a bag exactly when the function declares one, and values of the datatype declared.
No argument that is missing or failed is passed over, unless it comes behind the argument
that decides a logical function.
-/

namespace PolicyDecision
namespace Function

/-- The function stops at an argument that decides, and leaves those behind it unread. -/
def stopsEarly : Function → Bool
  | .logical .or | .logical .and | .logical .nOf => true
  | _ => false

/-- An application that succeeds keeps to the declared signature, and has found present the
arguments up to the one that decides, which for most functions are all. -/
structure KeepsSignature (function : Function) (arguments : List Argument) : Prop where
  yieldsBag_iff :
    (∃ values, function.apply arguments = .bag values) ↔ function.returnsBag = true
  single : ∀ value, function.apply arguments = .single value →
    value.datatype = function.resultDatatype
  members : ∀ values, function.apply arguments = .bag values →
    ∀ member ∈ values.values, member.datatype = function.resultDatatype
  examined : function.Examined arguments
  present : function.stopsEarly = false → AllPresent arguments

variable {function : Function} {arguments : List Argument}

/-- Only a function that stops early is decided by some of its arguments. -/
theorem DecidedBy.stopsEarly (decided : function.DecidedBy arguments) :
    function.stopsEarly = true := by
  cases decided with
  | @scan passing truth before argument stops => cases passing <;> rfl
  | zeroCount zero => rfl
  | count isCount stops => rfl

theorem Examined.allPresent
    (examined : function.Examined arguments)
    (reads : function.stopsEarly = false) : AllPresent arguments := by
  rcases examined with present | ⟨front, back, rfl, decided, present⟩
  · exact present
  · rw [decided.stopsEarly] at reads
    cases reads

theorem exists_compute_of_isOk (succeeds : (function.apply arguments).isOk = true) :
    ∃ outcome, function.compute arguments = .ok outcome ∧ function.apply arguments = outcome := by
  unfold apply at succeeds ⊢
  cases computed : function.compute arguments with
  | ok outcome => exact ⟨outcome, rfl, rfl⟩
  | error status =>
      rw [computed] at succeeds
      cases succeeds

/-- A declared outcome is a bag of the declared datatype or a single value of it, as the
function says. -/
theorem Declares.cases
    {outcome : Outcome}
    (declares : function.Declares outcome) :
    (∃ values, outcome = .bag values ∧ function.returnsBag = true ∧
        ∀ member ∈ values.values, member.datatype = function.resultDatatype) ∨
      ∃ value, outcome = .single value ∧ function.returnsBag = false ∧
        value.datatype = function.resultDatatype := by
  unfold Declares at declares
  split at declares
  · rename_i returns
    cases outcome with
    | bag values => exact .inl ⟨values, rfl, returns, declares⟩
    | single value => exact declares.elim
    | failed status => exact declares.elim
  · rename_i returns
    cases outcome with
    | single value => exact .inr ⟨value, rfl, by simpa using returns, declares⟩
    | bag values => exact declares.elim
    | failed status => exact declares.elim

/-- The declared signature of a function is sound, whatever the arguments are. -/
theorem keepsSignature_of_isOk
    (function : Function)
    (arguments : List Argument)
    (succeeds : (function.apply arguments).isOk = true) :
    function.KeepsSignature arguments := by
  obtain ⟨outcome, computed, applied⟩ := exists_compute_of_isOk succeeds
  have answers := function.compute_accounts arguments
  rw [computed] at answers
  obtain ⟨declares, examined⟩ := answers
  rcases Declares.cases declares with
    ⟨values, rfl, returns, typed⟩ | ⟨value, rfl, returns, typed⟩
  · refine ⟨iff_of_true ⟨values, applied⟩ returns, fun value isSingle => ?_,
      fun others isBag => ?_, examined, examined.allPresent⟩
    · cases applied.symm.trans isSingle
    · cases applied.symm.trans isBag
      exact typed
  · refine ⟨iff_of_false ?_ (by simp [returns]), fun other isSingle => ?_,
      fun values isBag => ?_, examined, examined.allPresent⟩
    · rintro ⟨values, isBag⟩
      cases applied.symm.trans isBag
    · cases applied.symm.trans isSingle
      exact typed
    · cases applied.symm.trans isBag

/-- A union of bags is a bag of their datatype, and a disjunction leaves an argument that
is not there unread behind a true one. -/
theorem keepsSignature_of_isOk_of_missing :
    let union := Function.set .string .union
    let bags : List Argument :=
      [.bag ⟨[.string "read", .string "read"]⟩, .bag ⟨[.string "write"]⟩]
    let either := Function.logical .or
    let truths : List Argument := [.value (.boolean true), .missing]
    (union.apply bags).isOk = true ∧ union.apply bags = .bag ⟨[.string "read", .string "write"]⟩ ∧
      union.KeepsSignature bags ∧ (either.apply truths).isOk = true ∧
      either.KeepsSignature truths ∧ ¬AllPresent truths := by
  intro union bags either truths
  have joins : union.apply bags = .bag ⟨[.string "read", .string "write"]⟩ := by rfl
  refine ⟨by rw [joins]; rfl, joins, keepsSignature_of_isOk union bags (by rw [joins]; rfl),
    rfl, keepsSignature_of_isOk either truths rfl, fun present => ?_⟩
  exact (present .missing (by simp [truths])).1 rfl

end Function
end PolicyDecision
