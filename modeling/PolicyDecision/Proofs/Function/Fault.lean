import Mathlib.Data.List.Basic
import PolicyDecision.Proofs.Function.Logical

/-!
# Faults of functions

The faults that functions find themselves: a wrong number of arguments, an argument that
is invalid, and a computation that has no result. What a reading of arguments or a logical
function reports is one of these faults or the status of an argument that failed. When it
succeeds, the arguments are present that it examined: all of them, or those up to the one
that decides.
-/

namespace PolicyDecision

/-- All arguments are there and did not fail. -/
def AllPresent (arguments : List Argument) : Prop :=
  ∀ argument ∈ arguments, argument.IsPresent

theorem allPresent_singleton {argument : Argument} :
    AllPresent [argument] ↔ argument.IsPresent :=
  List.forall_mem_singleton

theorem allPresent_cons {argument : Argument} {rest : List Argument} :
    AllPresent (argument :: rest) ↔ argument.IsPresent ∧ AllPresent rest :=
  List.forall_mem_cons

theorem allPresent_append {before after : List Argument} :
    AllPresent (before ++ after) ↔ AllPresent before ∧ AllPresent after :=
  List.forall_mem_append

namespace Function

/-- The number of arguments of a function that takes a fixed number of them. -/
def arity? : Function → Option Nat
  | .logical .not | .bag _ .oneAndOnly | .bag _ .size | .normalize _ => some 1
  | .equal _ | .compare _ _ | .bag _ .isIn | .set _ _ | .date _ => some 2
  | .logical _ | .bag _ .bag => none

/-- A fault that a function finds in its arguments, or in computing with them. -/
inductive Fault : Function → List Argument → Status → Prop
  | arity
      {function : Function}
      {arguments : List Argument}
      {expected : Nat}
      (required : function.arity? = some expected)
      (differs : arguments.length ≠ expected) :
      Fault function arguments (Argument.arityMismatch expected arguments.length)
  | invalid
      {function : Function}
      {arguments : List Argument}
      {argument : Argument}
      {status : Status}
      (member : argument ∈ arguments)
      (invalid : argument.Invalid status) :
      Fault function arguments status
  | noCount :
      Fault (.logical .nOf) [] (.processingError "Expected 1 or more arguments, got 0")
  | negativeCount
      {count : Integer}
      {rest : List Argument}
      (negative : count.toInt < 0) :
      Fault (.logical .nOf) (.value (.integer count) :: rest)
        (.processingError ("Count must not be negative, got " ++ count.text))
  | excessiveCount
      {count : Integer}
      {rest : List Argument}
      (excessive : (rest.length : Int) < count.toInt) :
      Fault (.logical .nOf) (.value (.integer count) :: rest)
        (.processingError ("Expected " ++ count.text ++ " arguments but only " ++
          toString rest.length ++ " arguments in list after the count"))
  | notOne
      {datatype : Datatype}
      {values : Bag}
      (differs : values.size ≠ 1) :
      Fault (.bag datatype .oneAndOnly) [.bag values]
        (.processingError ("Expected 1 but Bag has " ++ toString values.size ++ " elements"))
  | largeBag
      {datatype : Datatype}
      {values : Bag}
      (large : integerMaximum < values.size) :
      Fault (.bag datatype .size) [.bag values] (.processingError "Bag too large")
  | unordered
      {datatype : Datatype}
      {comparison : Comparison}
      {left right : Value}
      (unordered : left.compare? right = none) :
      Fault (.compare datatype comparison) [.value left, .value right]
        (.processingError ("Cannot order '" ++ left.text ++ "' and '" ++ right.text ++ "'"))
  | outOfRange
      {function : DateFunction}
      {operand duration : Value}
      (outside : function.shift? operand duration = .ok none) :
      Fault (.date function) [.value operand, .value duration]
        (.processingError
          ("Result of " ++ operand.text ++ " with " ++ duration.text ++ " is out of range"))

variable {function : Function} {arguments : List Argument} {status : Status}

/-- Every fault is a failure of processing with a message. -/
theorem Fault.exists_message (fault : function.Fault arguments status) :
    ∃ message, status = .processingError message := by
  cases fault with
  | invalid member invalid => exact invalid.exists_message
  | _ => exact ⟨_, rfl⟩

/-- The arguments up to and including the one that decides a logical function. -/
inductive DecidedBy : Function → List Argument → Prop
  | scan
      {passing truth : Bool}
      {before : List Argument}
      {argument : Argument}
      (stops : LogicalFunction.StopsScan passing before argument (.ok truth)) :
      DecidedBy (.logical (.scanning passing)) (before ++ [argument])
  | zeroCount
      {count : Integer}
      (zero : count.toInt = 0) :
      DecidedBy (.logical .nOf) [.value (.integer count)]
  | count
      {count : Integer}
      {wanted : Nat}
      {truth : Bool}
      {before : List Argument}
      {argument : Argument}
      (isCount : count.toInt = wanted)
      (stops : LogicalFunction.StopsCount wanted before argument (.ok truth)) :
      DecidedBy (.logical .nOf) (.value (.integer count) :: (before ++ [argument]))

/-- All arguments are present, or all those up to the one that decides. -/
def Examined (function : Function) (arguments : List Argument) : Prop :=
  AllPresent arguments ∨
    ∃ front back, arguments = front ++ back ∧ function.DecidedBy front ∧ AllPresent front

/-- A computation with the arguments of a function accounts for its failures. -/
abbrev AccountsFor
    {α : Type}
    (function : Function)
    (arguments : List Argument)
    (expected : α → Prop)
    (computed : Except Status α) : Prop :=
  Accounts (function.Fault arguments) arguments expected computed

/-! ## Readings -/

theorem one_accounts (required : function.arity? = some 1) :
    function.AccountsFor arguments (fun argument => arguments = [argument])
      (Argument.one arguments) := by
  unfold Argument.one
  split
  · rfl
  · rename_i notOne
    refine .inl (.arity required fun length => ?_)
    obtain ⟨argument, isOne⟩ := List.length_eq_one_iff.mp length
    exact notOne argument isOne

theorem two_accounts (required : function.arity? = some 2) :
    function.AccountsFor arguments (fun pair => arguments = [pair.1, pair.2])
      (Argument.two arguments) := by
  unfold Argument.two
  split
  · rfl
  · rename_i notTwo
    refine .inl (.arity required fun length => ?_)
    obtain ⟨first, second, isTwo⟩ := List.length_eq_two.mp length
    exact notTwo first second isTwo

section Reading

variable {argument : Argument} (member : argument ∈ arguments)

include member

theorem simple_accounts (datatype : Datatype) :
    function.AccountsFor arguments
      (fun value => argument = .value value ∧ value.datatype = datatype)
      (argument.simple datatype) :=
  .of_reading member (.invalid member) (fun _ => Argument.simple_eq_ok_iff.mp) fun _ fails =>
    (Argument.simple_eq_error_iff.mp fails).invalid_or_failed

theorem boolean_accounts :
    function.AccountsFor arguments (fun truth => argument = .value (.boolean truth))
      argument.boolean :=
  .of_reading member (.invalid member) (fun _ => Argument.boolean_eq_ok_iff.mp) fun _ fails =>
    (Argument.boolean_eq_error_iff.mp fails).invalid_or_failed

theorem string_accounts :
    function.AccountsFor arguments (fun text => argument = .value (.string text))
      argument.string :=
  .of_reading member (.invalid member) (fun _ => Argument.string_eq_ok_iff.mp) fun _ fails =>
    (Argument.string_eq_error_iff.mp fails).invalid_or_failed

theorem anyBag_accounts :
    function.AccountsFor arguments (fun values => argument = .bag values) argument.anyBag :=
  .of_reading member (.invalid member) (fun _ => Argument.anyBag_eq_ok_iff.mp) fun _ =>
    Argument.invalid_or_failed_of_anyBag

theorem typedBag_accounts (datatype : Datatype) :
    function.AccountsFor arguments
      (fun values => argument = .bag values ∧ ∀ member ∈ values.values, member.datatype = datatype)
      (argument.typedBag datatype) :=
  .of_reading member (.invalid member) (fun _ => Argument.typedBag_eq_ok_iff.mp) fun _ =>
    Argument.invalid_or_failed_of_typedBag

end Reading

theorem simplePair_accounts
    (required : function.arity? = some 2)
    (datatype : Datatype) :
    function.AccountsFor arguments (fun pair => arguments = [.value pair.1, .value pair.2])
      (simplePair datatype arguments) := by
  refine (two_accounts required).bind fun pair isPair => ?_
  refine (simple_accounts (by simp [isPair]) datatype).bind fun left isLeft => ?_
  refine (simple_accounts (by simp [isPair]) datatype).bind fun right isRight => ?_
  simp only [isPair, isLeft.1, isRight.1, Accounts, pure, Except.pure]

/-! ## Logical functions -/

/-- An argument that is not a simple value is invalid or failed. -/
theorem fault_or_failed_of_notSimple
    {datatype : Datatype}
    {argument : Argument}
    (member : argument ∈ arguments)
    (notSimple : argument.NotSimple datatype status) :
    function.Fault arguments status ∨ .failed status ∈ arguments := by
  rcases notSimple.invalid_or_failed with invalid | rfl
  · exact .inl (.invalid member invalid)
  · exact .inr member

theorem allPresent_of_allBoolean (valid : LogicalFunction.AllBoolean arguments) :
    AllPresent arguments := by
  intro argument member
  obtain ⟨truth, rfl⟩ := valid argument member
  exact Argument.isPresent_value _

theorem allBoolean_of_passes
    {passing : Bool}
    (passes : LogicalFunction.Passes passing arguments) :
    LogicalFunction.AllBoolean arguments :=
  fun argument member => ⟨passing, passes argument member⟩

/-- Booleans up to one that decides are present. -/
theorem allPresent_append_boolean
    {before : List Argument}
    (valid : LogicalFunction.AllBoolean before)
    (truth : Bool) :
    AllPresent (before ++ [.value (.boolean truth)]) :=
  allPresent_append.mpr ⟨allPresent_of_allBoolean valid,
    allPresent_singleton.mpr (Argument.isPresent_value _)⟩

theorem scanning_accounts (passing : Bool) :
    (Function.logical (.scanning passing)).AccountsFor arguments
      (fun _ => (Function.logical (.scanning passing)).Examined arguments)
      ((LogicalFunction.scanning passing).truth arguments) := by
  rcases LogicalFunction.passes_or_exists_stopsScan passing arguments with
    passes | ⟨before, argument, after, result, rfl, stops⟩
  · rw [passes.truth_scanning]
    exact .inl (allPresent_of_allBoolean (allBoolean_of_passes passes))
  · rw [stops.truth_scanning]
    cases stops with
    | decides passes =>
        refine .inr ⟨_, after, by rw [List.append_cons], .scan (.decides passes), ?_⟩
        exact allPresent_append_boolean (allBoolean_of_passes passes) _
    | invalid passes notBoolean =>
        exact fault_or_failed_of_notSimple (by simp) notBoolean

theorem counting_accounts :
    (Function.logical .nOf).AccountsFor arguments
      (fun _ => (Function.logical .nOf).Examined arguments)
      (LogicalFunction.countedTrue arguments) := by
  cases arguments with
  | nil => exact .inl .noCount
  | cons first rest =>
      cases read : first.integer with
      | error status =>
          rw [LogicalFunction.countedTrue, read]
          exact fault_or_failed_of_notSimple List.mem_cons_self
            (Argument.integer_eq_error_iff.mp read)
      | ok count =>
          obtain rfl := Argument.integer_eq_ok_iff.mp read
          have present : (Argument.value (.integer count)).IsPresent := Argument.isPresent_value _
          by_cases negative : count.toInt < 0
          · simp only [LogicalFunction.countedTrue, read, if_pos negative]
            exact .inl (.negativeCount negative)
          by_cases excessive : (rest.length : Int) < count.toInt
          · simp only [LogicalFunction.countedTrue, read, if_neg negative, if_pos excessive]
            exact .inl (.excessiveCount excessive)
          obtain ⟨wanted, isCount⟩ := Int.eq_ofNat_of_zero_le (Int.not_lt.mp negative)
          rw [LogicalFunction.countedTrue_of_count isCount (by omega)]
          rcases Nat.eq_zero_or_pos wanted with rfl | positive
          · rw [LogicalFunction.atLeast_zero]
            exact .inr ⟨_, rest, rfl, .zeroCount isCount, allPresent_singleton.mpr present⟩
          rcases LogicalFunction.fewer_or_exists_stopsCount positive rest with
            ⟨valid, fewer⟩ | ⟨before, argument, after, result, rfl, stops⟩
          · rw [LogicalFunction.atLeast_of_fewer valid fewer]
            exact .inl (allPresent_cons.mpr ⟨present, allPresent_of_allBoolean valid⟩)
          · rw [stops.atLeast_eq]
            cases stops with
            | completes valid last =>
                refine .inr ⟨_, after, ?_, .count isCount (.completes valid last), ?_⟩
                · rw [List.append_cons]
                  rfl
                · exact allPresent_cons.mpr ⟨present, allPresent_append_boolean valid true⟩
            | invalid valid fewer notBoolean =>
                exact fault_or_failed_of_notSimple (by simp) notBoolean

theorem negation_accounts :
    (Function.logical .not).AccountsFor arguments (fun _ => AllPresent arguments)
      (LogicalFunction.negation arguments) := by
  have taken : (Function.logical .not).AccountsFor arguments _ (Argument.one arguments) :=
    one_accounts rfl
  unfold LogicalFunction.negation
  split
  · rename_i status notOne
    rw [notOne] at taken
    exact taken
  · rename_i argument isOne
    rw [isOne] at taken
    refine (boolean_accounts (taken ▸ List.mem_cons_self)).map fun truth isTruth => ?_
    exact taken ▸ allPresent_singleton.mpr (isTruth ▸ Argument.isPresent_value _)

theorem logical_accounts (logical : LogicalFunction) :
    (Function.logical logical).AccountsFor arguments
      (fun _ => (Function.logical logical).Examined arguments) (logical.truth arguments) := by
  cases logical with
  | or => exact scanning_accounts false
  | and => exact scanning_accounts true
  | nOf => exact counting_accounts
  | not => exact negation_accounts.mono fun _ => .inl

end Function
end PolicyDecision
