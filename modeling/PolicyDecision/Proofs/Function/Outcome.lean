import PolicyDecision.Function.Registry
import PolicyDecision.Proofs.Function.Fault

/-!
# Outcomes of functions

A function applied to any arguments yields an outcome of the kind and datatype that it
declares, and has then found the arguments present that it examined. Otherwise it fails
with a fault that it finds itself or with the failure of one of its arguments, so that a
failure never reads as a success.
-/

namespace PolicyDecision

/-- A computation on arguments yields what is expected, or it fails with a
failure of processing of its own or with the failure of one of the arguments. -/
def Achieves
    {α : Type}
    (arguments : List Argument)
    (expected : α → Prop) : Except Status α → Prop
  | .ok value => expected value
  | .error status => status.code = .processingError ∨ Argument.failed status ∈ arguments

namespace Outcome

/-- The outcome is a single value of a datatype. -/
def IsSingleOf (datatype : Datatype) : Outcome → Prop
  | .single value => value.datatype = datatype
  | _ => False

/-- The outcome is a bag whose members all belong to a datatype. -/
def IsBagOf (datatype : Datatype) : Outcome → Prop
  | .bag values => ∀ value ∈ values.values, value.datatype = datatype
  | _ => False

end Outcome

namespace SetFunction

theorem mem_of_mem_distinctAfter
    {held values : List Value} {value : Value}
    (member : value ∈ distinctAfter held values) :
    value ∈ held ∨ value ∈ values := by
  induction values generalizing held with
  | nil => exact .inl member
  | cons head rest inductionHypothesis =>
      unfold distinctAfter at member
      split at member
      · exact (inductionHypothesis member).imp id (List.mem_cons_of_mem head)
      · rcases inductionHypothesis member with early | late
        · rcases List.mem_append.mp early with inHeld | isHead
          · exact .inl inHeld
          · exact .inr (List.mem_cons.mpr (.inl (List.mem_singleton.mp isHead)))
        · exact .inr (List.mem_cons_of_mem head late)

theorem mem_of_mem_distinct
    {values : List Value} {value : Value}
    (member : value ∈ distinct values) : value ∈ values :=
  (mem_of_mem_distinctAfter member).resolve_left List.not_mem_nil

end SetFunction

namespace Function

/-- The outcome is of the kind and the datatype that a function declares. -/
def Declares (function : Function) (outcome : Outcome) : Prop :=
  if function.returnsBag then outcome.IsBagOf function.resultDatatype
  else outcome.IsSingleOf function.resultDatatype

/-- The outcome is one that the function declares, and the arguments are present that it
examined. -/
structure Answers (function : Function) (arguments : List Argument) (outcome : Outcome) :
    Prop where
  declares : function.Declares outcome
  examined : function.Examined arguments

variable {arguments : List Argument}

/-! ## Families of functions -/

/-- A logical function yields a truth value. -/
theorem apply_logical_accounts (logical : LogicalFunction) :
    (Function.logical logical).AccountsFor arguments ((Function.logical logical).Answers arguments)
      (logical.apply arguments) :=
  (logical_accounts logical).map fun _ examined => ⟨rfl, examined⟩

theorem allPresent_values (left right : Value) : AllPresent [.value left, .value right] :=
  allPresent_cons.mpr ⟨Argument.isPresent_value left,
    allPresent_singleton.mpr (Argument.isPresent_value right)⟩

/-- An equality function yields a truth value. -/
theorem equal_accounts (datatype : Datatype) :
    (Function.equal datatype).AccountsFor arguments ((Function.equal datatype).Answers arguments)
      (applyEquality datatype arguments) :=
  (simplePair_accounts rfl datatype).bind fun _ isPair =>
    ⟨rfl, .inl (isPair ▸ allPresent_values _ _)⟩

/-- A comparison yields a truth value, unless its arguments cannot be ordered. -/
theorem compare_accounts (datatype : Datatype) (comparison : Comparison) :
    (Function.compare datatype comparison).AccountsFor arguments
      ((Function.compare datatype comparison).Answers arguments)
      (comparison.apply datatype arguments) := by
  refine (simplePair_accounts rfl datatype).bind fun pair isPair => ?_
  subst isPair
  cases ordered : pair.1.compare? pair.2 with
  | some order =>
      simp only [ordered]
      exact ⟨rfl, .inl (allPresent_values _ _)⟩
  | none =>
      simp only [ordered]
      exact .inl (.unordered ordered)

/-- A set function yields a bag or a truth value. -/
theorem set_accounts (datatype : Datatype) (set : SetFunction) :
    (Function.set datatype set).AccountsFor arguments
      ((Function.set datatype set).Answers arguments) (set.apply datatype arguments) := by
  refine (two_accounts rfl).bind fun pair isPair => ?_
  refine (typedBag_accounts (by simp [isPair]) datatype).bind fun first ⟨isFirst, firstTyped⟩ => ?_
  refine (typedBag_accounts (by simp [isPair]) datatype).bind
    fun second ⟨isSecond, secondTyped⟩ => ?_
  refine ⟨?_, .inl ?_⟩
  · cases set with
    | intersection =>
        intro value member
        exact firstTyped value (List.mem_filter.mp (SetFunction.mem_of_mem_distinct member)).1
    | union =>
        intro value member
        rcases List.mem_append.mp (SetFunction.mem_of_mem_distinct member) with inFirst | inSecond
        · exact firstTyped value inFirst
        · exact secondTyped value inSecond
    | atLeastOneMemberOf => rfl
    | subset => rfl
    | setEquals => rfl
  · rw [isPair, isFirst, isSecond]
    exact allPresent_cons.mpr ⟨Argument.isPresent_bag first,
      allPresent_singleton.mpr (Argument.isPresent_bag second)⟩

/-- A normalization yields a string. -/
theorem normalize_accounts (normalization : NormalizationFunction) :
    (Function.normalize normalization).AccountsFor arguments
      ((Function.normalize normalization).Answers arguments) (normalization.apply arguments) := by
  refine (one_accounts rfl).bind fun argument isOne => ?_
  refine (string_accounts (by simp [isOne])).bind fun text isText => ⟨rfl, .inl ?_⟩
  rw [isOne, isText]
  exact allPresent_singleton.mpr (Argument.isPresent_value _)

/-- A date or date-time can be combined with a duration of the datatype required, and keeps
its datatype. -/
theorem exists_shift?
    {date : DateFunction}
    {operand duration : Value}
    (operandTyped : operand.datatype = date.operandDatatype)
    (durationTyped : duration.datatype = date.durationDatatype) :
    ∃ shifted, date.shift? operand duration = .ok shifted ∧
      ∀ value ∈ shifted, value.datatype = date.operandDatatype := by
  rw [← operandTyped]
  -- Six cases remain, one for each function, with the operand and the duration that it takes.
  cases date <;> cases operand <;> cases operandTyped <;> cases duration <;> cases durationTyped
  all_goals
    refine ⟨_, rfl, fun value isShifted => ?_⟩
    obtain ⟨moved, -, rfl⟩ := Option.map_eq_some_iff.mp isShifted
    rfl

/-- A function of date arithmetic yields a value of the datatype of its operand, unless the
result is out of range. -/
theorem date_accounts (date : DateFunction) :
    (Function.date date).AccountsFor arguments ((Function.date date).Answers arguments)
      (date.apply arguments) := by
  refine (two_accounts rfl).bind fun pair isPair => ?_
  refine (simple_accounts (by simp [isPair]) _).bind fun operand isOperand => ?_
  refine (simple_accounts (by simp [isPair]) _).bind fun duration isDuration => ?_
  obtain ⟨shifted, isShifted, typed⟩ := exists_shift? isOperand.2 isDuration.2
  rw [isShifted, isPair, isOperand.1, isDuration.1]
  cases shifted with
  | some value => exact ⟨typed value rfl, .inl (allPresent_values operand duration)⟩
  | none => exact .inl (.outOfRange isShifted)

theorem simpleValues_accounts
    {function : Function}
    (datatype : Datatype)
    {read : List Argument}
    (contained : read ⊆ arguments) :
    function.AccountsFor arguments
      (fun values => (∀ value ∈ values, value.datatype = datatype) ∧ AllPresent read)
      (BagFunction.simpleValues datatype read) := by
  induction read with
  | nil => exact ⟨List.forall_mem_nil _, List.forall_mem_nil _⟩
  | cons argument rest inductionHypothesis =>
      obtain ⟨member, others⟩ := List.cons_subset.mp contained
      refine (simple_accounts member datatype).bind fun value ⟨isValue, typed⟩ => ?_
      refine (inductionHypothesis others).bind fun values ⟨othersTyped, present⟩ => ?_
      exact ⟨List.forall_mem_cons.mpr ⟨typed, othersTyped⟩,
        allPresent_cons.mpr ⟨isValue ▸ Argument.isPresent_value value, present⟩⟩

theorem onlyMember_accounts (datatype : Datatype) :
    (Function.bag datatype .oneAndOnly).AccountsFor arguments
      ((Function.bag datatype .oneAndOnly).Answers arguments)
      (BagFunction.onlyMember datatype arguments) := by
  refine (one_accounts rfl).bind fun argument isOne => ?_
  refine (typedBag_accounts (by simp [isOne]) datatype).bind fun values ⟨isBag, typed⟩ => ?_
  subst isOne isBag
  split
  · rename_i only isOnly
    exact ⟨typed only (isOnly ▸ List.mem_singleton.mpr rfl),
      .inl (allPresent_singleton.mpr (Argument.isPresent_bag values))⟩
  · rename_i several
    exact .inl (.notOne fun one => (List.length_eq_one_iff.mp one).elim several)

theorem numberOfMembers_accounts (datatype : Datatype) :
    (Function.bag datatype .size).AccountsFor arguments
      ((Function.bag datatype .size).Answers arguments)
      (BagFunction.numberOfMembers arguments) := by
  refine (one_accounts rfl).bind fun argument isOne => ?_
  refine (anyBag_accounts (by simp [isOne])).bind fun values isBag => ?_
  subst isOne isBag
  split
  · exact ⟨rfl, .inl (allPresent_singleton.mpr (Argument.isPresent_bag values))⟩
  · rename_i outside
    refine .inl (.largeBag ?_)
    simp only [Integer.ofInt?, dite_eq_right_iff, reduceCtorEq, imp_false, not_and] at outside
    have least : integerMinimum ≤ values.size := by unfold integerMinimum; omega
    exact Int.not_le.mp (outside least)

theorem membership_accounts (datatype : Datatype) :
    (Function.bag datatype .isIn).AccountsFor arguments
      ((Function.bag datatype .isIn).Answers arguments)
      (BagFunction.membership datatype arguments) := by
  refine (two_accounts rfl).bind fun pair isPair => ?_
  refine (simple_accounts (by simp [isPair]) datatype).bind fun value isValue => ?_
  refine (typedBag_accounts (by simp [isPair]) datatype).bind fun values isBag => ⟨rfl, .inl ?_⟩
  rw [isPair, isValue.1, isBag.1]
  exact allPresent_cons.mpr ⟨Argument.isPresent_value value,
    allPresent_singleton.mpr (Argument.isPresent_bag values)⟩

/-- A bag function yields a single value or a bag. -/
theorem bag_accounts (datatype : Datatype) (operation : BagFunction) :
    (Function.bag datatype operation).AccountsFor arguments
      ((Function.bag datatype operation).Answers arguments)
      (operation.apply datatype arguments) := by
  cases operation with
  | oneAndOnly => exact onlyMember_accounts datatype
  | size => exact numberOfMembers_accounts datatype
  | isIn => exact membership_accounts datatype
  | bag =>
      exact (simpleValues_accounts datatype (List.Subset.refl _)).map fun _ ⟨typed, present⟩ =>
        ⟨typed, .inl present⟩

/-! ## All functions -/

/-- Every function yields what it declares and has then examined present arguments, or it
fails with a fault that it finds or with the status of one of its arguments. -/
theorem compute_accounts (function : Function) (arguments : List Argument) :
    function.AccountsFor arguments (function.Answers arguments) (function.compute arguments) := by
  cases function with
  | logical logical => exact apply_logical_accounts logical
  | equal datatype => exact equal_accounts datatype
  | compare datatype comparison => exact compare_accounts datatype comparison
  | bag datatype operation => exact bag_accounts datatype operation
  | set datatype operation => exact set_accounts datatype operation
  | date operation => exact date_accounts operation
  | normalize operation => exact normalize_accounts operation

/-- Every function yields what it declares, on any arguments, or it fails. -/
theorem compute_achieves (function : Function) (arguments : List Argument) :
    Achieves arguments function.Declares (function.compute arguments) := by
  have accounts := function.compute_accounts arguments
  cases computed : function.compute arguments with
  | ok outcome =>
      rw [computed] at accounts
      exact accounts.declares
  | error status =>
      rw [computed] at accounts
      refine accounts.imp_left fun fault => ?_
      obtain ⟨message, rfl⟩ := fault.exists_message
      rfl

/-- No function declares a failure. -/
theorem not_declares_failed (function : Function) (status : Status) :
    ¬function.Declares (.failed status) := by
  intro declared
  unfold Declares at declared
  split at declared <;> exact declared

/-- A failed application reports what the computation does, with the function named in front
of the message. -/
theorem exists_compute_of_apply_failed
    {function : Function}
    {arguments : List Argument}
    {status : Status}
    (failed : function.apply arguments = .failed status) :
    ∃ reported, function.compute arguments = .error reported ∧
      status = reported.prefixed function.shortId := by
  have achieved := function.compute_achieves arguments
  unfold apply at failed
  split at failed
  · rename_i outcome computed
    rw [computed] at achieved
    subst failed
    exact absurd achieved (function.not_declares_failed status)
  · rename_i reported computed
    cases failed
    exact ⟨reported, computed, rfl⟩

/-- A failed application reports a failure of processing or the failure of an
argument, with the function named in front of the message. -/
theorem status_of_apply_failed
    {function : Function}
    {arguments : List Argument}
    {status : Status}
    (failed : function.apply arguments = .failed status) :
    ∃ reported, status = reported.prefixed function.shortId ∧
      (reported.code = .processingError ∨ Argument.failed reported ∈ arguments) := by
  obtain ⟨reported, computed, rfl⟩ := exists_compute_of_apply_failed failed
  have achieved := function.compute_achieves arguments
  rw [computed] at achieved
  exact ⟨reported, rfl, achieved⟩

end Function
end PolicyDecision
