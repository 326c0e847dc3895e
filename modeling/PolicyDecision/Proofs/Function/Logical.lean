import Mathlib.Algebra.Order.Group.Nat
import PolicyDecision.Function.Definition
import PolicyDecision.Proofs.Function.Validation

/-!
# Deciding arguments of logical functions

Disjunction and conjunction pass over the arguments with the truth value that leaves them
open, and stop at the first other argument, whether it is a boolean or invalid. The
counting function stops at the argument that completes the count or that is invalid. What
comes behind the argument at which a function stops has no influence.
-/

namespace PolicyDecision

/-- The outcome of a function that has a truth value, or that fails with its own name in
front of the message. -/
def Function.answer (function : Function) : Except Status Bool → Outcome
  | .ok truth => .ofBool truth
  | .error status => .failed (status.prefixed function.shortId)

theorem Function.apply_logical (function : LogicalFunction) (arguments : List Argument) :
    (Function.logical function).apply arguments =
      (Function.logical function).answer (function.truth arguments) := by
  rw [apply, compute, LogicalFunction.apply]
  cases function.truth arguments <;> rfl

namespace LogicalFunction

variable {passing : Bool} {wanted : Nat} {before rest arguments : List Argument}
  {argument : Argument} {status : Status} {result : Except Status Bool}

/-! ## Scans for one deciding argument -/

/-- The function that passes over arguments of a truth value: disjunction over false ones,
conjunction over true ones. -/
def scanning : Bool → LogicalFunction
  | false => .or
  | true => .and

/-- All arguments are booleans of the truth value that a scan passes over. -/
def Passes (passing : Bool) (arguments : List Argument) : Prop :=
  ∀ argument ∈ arguments, argument = .value (.boolean passing)

/-- A scan stops at an argument behind those that it passes over, with its result. -/
inductive StopsScan (passing : Bool) (before : List Argument) :
    Argument → Except Status Bool → Prop
  | decides (passes : Passes passing before) :
      StopsScan passing before (.value (.boolean !passing)) (.ok !passing)
  | invalid
      {argument : Argument}
      {status : Status}
      (passes : Passes passing before)
      (notBoolean : argument.NotSimple .boolean status) :
      StopsScan passing before argument (.error status)

theorem truth_scanning_nil (passing : Bool) : (scanning passing).truth [] = .ok passing := by
  cases passing <;> rfl

theorem truth_scanning_cons_passing (passing : Bool) (rest : List Argument) :
    (scanning passing).truth (.value (.boolean passing) :: rest) =
      (scanning passing).truth rest := by
  cases passing <;> rfl

theorem truth_scanning_cons_decisive (passing : Bool) (rest : List Argument) :
    (scanning passing).truth (.value (.boolean !passing) :: rest) = .ok !passing := by
  cases passing <;> rfl

theorem truth_scanning_cons_invalid
    (notBoolean : argument.NotSimple .boolean status)
    (passing : Bool)
    (rest : List Argument) :
    (scanning passing).truth (argument :: rest) = .error status := by
  have read := Argument.boolean_eq_error_iff.mpr notBoolean
  cases passing <;> simp only [scanning, truth, anyTrue, allTrue, read]

theorem truth_scanning_append (passes : Passes passing before) (rest : List Argument) :
    (scanning passing).truth (before ++ rest) = (scanning passing).truth rest := by
  induction before with
  | nil => rfl
  | cons earlier before inductionHypothesis =>
      obtain ⟨rfl, further⟩ := List.forall_mem_cons.mp passes
      rw [List.cons_append, truth_scanning_cons_passing]
      exact inductionHypothesis further

theorem Passes.truth_scanning (passes : Passes passing arguments) :
    (scanning passing).truth arguments = .ok passing := by
  rw [← List.append_nil arguments, truth_scanning_append passes, truth_scanning_nil]

/-- What comes behind the argument at which a scan stops has no influence. -/
theorem StopsScan.truth_scanning
    (stops : StopsScan passing before argument result)
    (after : List Argument) :
    (scanning passing).truth (before ++ argument :: after) = result := by
  cases stops with
  | decides passes =>
      rw [truth_scanning_append passes, truth_scanning_cons_decisive]
  | invalid passes notBoolean =>
      rw [truth_scanning_append passes, truth_scanning_cons_invalid notBoolean]

theorem StopsScan.cons
    (stops : StopsScan passing before argument result) :
    StopsScan passing (.value (.boolean passing) :: before) argument result := by
  cases stops with
  | decides passes => exact .decides (List.forall_mem_cons.mpr ⟨rfl, passes⟩)
  | invalid passes notBoolean =>
      exact .invalid (List.forall_mem_cons.mpr ⟨rfl, passes⟩) notBoolean

/-- A scan passes over all arguments or stops at one of them. -/
theorem passes_or_exists_stopsScan (passing : Bool) (arguments : List Argument) :
    Passes passing arguments ∨ ∃ before argument after result,
      arguments = before ++ argument :: after ∧ StopsScan passing before argument result := by
  induction arguments with
  | nil => exact .inl (List.forall_mem_nil _)
  | cons argument rest inductionHypothesis =>
      have none : Passes passing [] := List.forall_mem_nil _
      rcases Argument.boolean_cases passing argument with rfl | rfl | ⟨status, notBoolean⟩
      · rcases inductionHypothesis with passes | ⟨before, stop, after, result, rfl, stops⟩
        · exact .inl (List.forall_mem_cons.mpr ⟨rfl, passes⟩)
        · exact .inr ⟨_ :: before, stop, after, result, rfl, stops.cons⟩
      · exact .inr ⟨[], _, rest, _, rfl, .decides none⟩
      · exact .inr ⟨[], _, rest, _, rfl, .invalid none notBoolean⟩

/-! ## Counts of true arguments -/

/-- All arguments are booleans. -/
def AllBoolean (arguments : List Argument) : Prop :=
  ∀ argument ∈ arguments, ∃ truth, argument = .value (.boolean truth)

/-- The number of arguments that are true. -/
def trues (arguments : List Argument) : Nat :=
  arguments.countP fun argument =>
    match argument with
    | .value (.boolean truth) => truth
    | _ => false

/-- A count of true arguments stops at an argument behind booleans of which fewer than
wanted are true, with its result. -/
inductive StopsCount (wanted : Nat) (before : List Argument) :
    Argument → Except Status Bool → Prop
  | completes (valid : AllBoolean before) (last : trues before + 1 = wanted) :
      StopsCount wanted before (.value (.boolean true)) (.ok true)
  | invalid
      {argument : Argument}
      {status : Status}
      (valid : AllBoolean before)
      (fewer : trues before < wanted)
      (notBoolean : argument.NotSimple .boolean status) :
      StopsCount wanted before argument (.error status)

theorem trues_cons_true (rest : List Argument) :
    trues (.value (.boolean true) :: rest) = trues rest + 1 :=
  List.countP_cons_of_pos rfl

theorem trues_cons_false (rest : List Argument) :
    trues (.value (.boolean false) :: rest) = trues rest :=
  List.countP_cons_of_neg (by simp)

theorem atLeast_zero (arguments : List Argument) : atLeast 0 arguments = .ok true := by
  cases arguments <;> rfl

/-- Booleans of which fewer than wanted are true leave the others to be found. -/
theorem atLeast_append (valid : AllBoolean before) (missing : Nat) (rest : List Argument) :
    atLeast (trues before + missing + 1) (before ++ rest) = atLeast (missing + 1) rest := by
  induction before with
  | nil => rw [trues, List.countP_nil, Nat.zero_add, List.nil_append]
  | cons earlier before inductionHypothesis =>
      obtain ⟨⟨truth, rfl⟩, further⟩ := List.forall_mem_cons.mp valid
      rw [← inductionHypothesis further]
      cases truth with
      | false => rw [trues_cons_false]; rfl
      | true => rw [trues_cons_true, Nat.add_right_comm _ 1 missing]; rfl

theorem atLeast_of_fewer (valid : AllBoolean arguments) (fewer : trues arguments < wanted) :
    atLeast wanted arguments = .ok false := by
  obtain ⟨missing, rfl⟩ := Nat.exists_eq_add_of_lt fewer
  have left := atLeast_append valid missing []
  rw [List.append_nil] at left
  exact left

/-- What comes behind the argument at which a count stops has no influence. -/
theorem StopsCount.atLeast_eq
    (stops : StopsCount wanted before argument result)
    (after : List Argument) :
    atLeast wanted (before ++ argument :: after) = result := by
  cases stops with
  | completes valid last =>
      subst last
      exact (atLeast_append valid 0 _).trans (atLeast_zero after)
  | invalid valid fewer notBoolean =>
      obtain ⟨missing, rfl⟩ := Nat.exists_eq_add_of_lt fewer
      rw [atLeast_append valid, atLeast, Argument.boolean_eq_error_iff.mpr notBoolean]

theorem StopsCount.cons_false (stops : StopsCount wanted before argument result) :
    StopsCount wanted (.value (.boolean false) :: before) argument result := by
  cases stops with
  | completes valid last =>
      exact .completes (List.forall_mem_cons.mpr ⟨⟨_, rfl⟩, valid⟩) (trues_cons_false before ▸ last)
  | invalid valid fewer notBoolean =>
      exact .invalid (List.forall_mem_cons.mpr ⟨⟨_, rfl⟩, valid⟩)
        ((trues_cons_false before).trans_lt fewer) notBoolean

theorem StopsCount.cons_true (stops : StopsCount wanted before argument result) :
    StopsCount (wanted + 1) (.value (.boolean true) :: before) argument result := by
  cases stops with
  | completes valid last =>
      exact .completes (List.forall_mem_cons.mpr ⟨⟨_, rfl⟩, valid⟩)
        (by rw [trues_cons_true, last])
  | invalid valid fewer notBoolean =>
      exact .invalid (List.forall_mem_cons.mpr ⟨⟨_, rfl⟩, valid⟩)
        ((trues_cons_true before).trans_lt (Nat.add_lt_add_right fewer 1)) notBoolean

/-- A count of at least one runs out of arguments or stops at one of them. -/
theorem fewer_or_exists_stopsCount (positive : 0 < wanted) (arguments : List Argument) :
    AllBoolean arguments ∧ trues arguments < wanted ∨ ∃ before argument after result,
      arguments = before ++ argument :: after ∧ StopsCount wanted before argument result := by
  induction arguments generalizing wanted with
  | nil => exact .inl ⟨List.forall_mem_nil _, positive⟩
  | cons argument rest inductionHypothesis =>
      have none : AllBoolean [] := List.forall_mem_nil _
      rcases Argument.boolean_cases true argument with rfl | rfl | ⟨status, notBoolean⟩
      · obtain ⟨further, rfl⟩ := Nat.exists_eq_add_one_of_ne_zero positive.ne'
        rcases Nat.eq_zero_or_pos further with rfl | morePositive
        · exact .inr ⟨[], _, rest, _, rfl, .completes none rfl⟩
        · rcases inductionHypothesis morePositive with
            ⟨valid, fewer⟩ | ⟨before, stop, after, result, rfl, stops⟩
          · exact .inl ⟨List.forall_mem_cons.mpr ⟨⟨_, rfl⟩, valid⟩,
              (trues_cons_true rest).trans_lt (Nat.add_lt_add_right fewer 1)⟩
          · exact .inr ⟨_ :: before, stop, after, result, rfl, stops.cons_true⟩
      · rcases inductionHypothesis positive with
          ⟨valid, fewer⟩ | ⟨before, stop, after, result, rfl, stops⟩
        · exact .inl ⟨List.forall_mem_cons.mpr ⟨⟨_, rfl⟩, valid⟩,
            (trues_cons_false rest).trans_lt fewer⟩
        · exact .inr ⟨_ :: before, stop, after, result, rfl, stops.cons_false⟩
      · exact .inr ⟨[], _, rest, _, rfl, .invalid none positive notBoolean⟩

/-- A count that the arguments behind it can reach. -/
theorem countedTrue_of_count
    {count : Integer}
    (isCount : count.toInt = wanted)
    (enough : wanted ≤ rest.length) :
    countedTrue (.value (.integer count) :: rest) = atLeast wanted rest := by
  have read : Argument.integer (.value (.integer count)) = .ok count :=
    Argument.integer_eq_ok_iff.mpr rfl
  have notNegative : ¬count.toInt < 0 := by omega
  have notExcessive : ¬(rest.length : Int) < count.toInt := by omega
  simp only [countedTrue, read, if_neg notNegative, if_neg notExcessive]
  rw [isCount, Int.toNat_natCast]

/-- Disjunction looks for one true argument. -/
theorem anyTrue_eq_atLeast (arguments : List Argument) :
    anyTrue arguments = atLeast 1 arguments := by
  induction arguments with
  | nil => rfl
  | cons argument rest inductionHypothesis =>
      rw [anyTrue, atLeast, atLeast_zero, inductionHypothesis]

/-! ## Decisions -/

/-- A scan has the truth value that it passes over, unless it stops at an argument. It then
has the other truth value or the error of that argument, whatever comes behind. -/
structure ScansToDecision (passing : Bool) : Prop where
  ends : ∀ arguments, Passes passing arguments ∨ ∃ before argument after result,
    arguments = before ++ argument :: after ∧ StopsScan passing before argument result
  passes : ∀ arguments, Passes passing arguments →
    (Function.logical (scanning passing)).apply arguments = .ofBool passing
  stops : ∀ before argument result after, StopsScan passing before argument result →
    (Function.logical (scanning passing)).apply (before ++ argument :: after) =
      (Function.logical (scanning passing)).answer result

/-- A count within the number of arguments behind it is met at once when it is zero, and is
otherwise decided by the argument at which it stops, whatever comes behind. All other counts
are errors. -/
structure CountsToDecision : Prop where
  noCount : (Function.logical .nOf).apply [] =
    (Function.logical .nOf).answer
      (.error (.processingError "Expected 1 or more arguments, got 0"))
  invalidCount : ∀ argument rest status, argument.NotSimple .integer status →
    (Function.logical .nOf).apply (argument :: rest) =
      (Function.logical .nOf).answer (.error status)
  negativeCount : ∀ (count : Integer) rest, count.toInt < 0 →
    (Function.logical .nOf).apply (.value (.integer count) :: rest) =
      (Function.logical .nOf).answer
        (.error (.processingError ("Count must not be negative, got " ++ count.text)))
  excessiveCount : ∀ (count : Integer) rest, (rest.length : Int) < count.toInt →
    (Function.logical .nOf).apply (.value (.integer count) :: rest) =
      (Function.logical .nOf).answer
        (.error (.processingError ("Expected " ++ count.text ++ " arguments but only " ++
          toString rest.length ++ " arguments in list after the count")))
  zeroCount : ∀ (count : Integer) rest, count.toInt = 0 →
    (Function.logical .nOf).apply (.value (.integer count) :: rest) = .ofBool true
  ends : ∀ wanted arguments, 0 < wanted →
    AllBoolean arguments ∧ trues arguments < wanted ∨ ∃ before argument after result,
      arguments = before ++ argument :: after ∧ StopsCount wanted before argument result
  runsOut : ∀ (count : Integer) (wanted : Nat) rest, count.toInt = wanted →
    wanted ≤ rest.length → AllBoolean rest → trues rest < wanted →
      (Function.logical .nOf).apply (.value (.integer count) :: rest) = .ofBool false
  stops : ∀ (count : Integer) (wanted : Nat) before argument result after, count.toInt = wanted →
    wanted ≤ (before ++ argument :: after).length → StopsCount wanted before argument result →
      (Function.logical .nOf).apply (.value (.integer count) :: (before ++ argument :: after)) =
        (Function.logical .nOf).answer result

theorem scansToDecision (passing : Bool) : ScansToDecision passing where
  ends := passes_or_exists_stopsScan passing
  passes := fun arguments passes => by
    rw [Function.apply_logical, passes.truth_scanning]
    rfl
  stops := fun before argument result after stops => by
    rw [Function.apply_logical, stops.truth_scanning]

theorem apply_nOf_eq_answer
    {count : Integer}
    (isCount : count.toInt = wanted)
    (enough : wanted ≤ rest.length) :
    (Function.logical .nOf).apply (.value (.integer count) :: rest) =
      (Function.logical .nOf).answer (atLeast wanted rest) := by
  rw [Function.apply_logical, truth, countedTrue_of_count isCount enough]

theorem countsToDecision : CountsToDecision where
  noCount := rfl
  invalidCount := fun argument rest status invalid => by
    rw [Function.apply_logical, truth, countedTrue, Argument.integer_eq_error_iff.mpr invalid]
  negativeCount := fun count rest negative => by
    rw [Function.apply_logical, truth, countedTrue, Argument.integer_eq_ok_iff.mpr rfl]
    simp only [if_pos negative]
  excessiveCount := fun count rest excessive => by
    have notNegative : ¬count.toInt < 0 := by omega
    rw [Function.apply_logical, truth, countedTrue, Argument.integer_eq_ok_iff.mpr rfl]
    simp only [if_neg notNegative, if_pos excessive]
  zeroCount := fun count rest isZero => by
    rw [apply_nOf_eq_answer isZero (Nat.zero_le _), atLeast_zero]
    rfl
  ends := fun wanted arguments positive => fewer_or_exists_stopsCount positive arguments
  runsOut := fun count wanted rest isCount enough valid fewer => by
    rw [apply_nOf_eq_answer isCount enough, atLeast_of_fewer valid fewer]
    rfl
  stops := fun count wanted before argument result after isCount enough stops => by
    rw [apply_nOf_eq_answer isCount enough, stops.atLeast_eq]

/-- Disjunction, conjunction and the counting function are decided by the first argument
that settles them or is invalid, and the arguments behind it have no influence. On some
arguments disjunction agrees with a count of one, up to the name in front of an error. -/
theorem decidedByPosition :
    (∀ passing, ScansToDecision passing) ∧ CountsToDecision ∧
      ∀ (count : Integer) arguments, count.toInt = 1 → arguments ≠ [] →
        ∃ result,
          (Function.logical .or).apply arguments = (Function.logical .or).answer result ∧
          (Function.logical .nOf).apply (.value (.integer count) :: arguments) =
            (Function.logical .nOf).answer result := by
  refine ⟨scansToDecision, countsToDecision, fun count arguments isOne some => ?_⟩
  refine ⟨atLeast 1 arguments, ?_, apply_nOf_eq_answer isOne (List.length_pos_iff.mpr some)⟩
  rw [Function.apply_logical, truth, anyTrue_eq_atLeast]

/-- The second true argument completes a count of two although an argument that is not there
follows, which is an error before it. -/
theorem decidedByPosition_of_missing :
    let two : Integer := ⟨2, by decide, by decide⟩
    let yes : Argument := .value (.boolean true)
    let no : Argument := .value (.boolean false)
    let nOf := Function.logical .nOf
    nOf.apply [.value (.integer two), yes, no, yes, .missing] = .ofBool true ∧
      nOf.apply [.value (.integer two), yes, no, .missing, yes] =
        .failed (Argument.missingStatus.prefixed "function:n-of") ∧
      (Function.logical .or).apply [no, yes, .missing] = .ofBool true ∧
      (Function.logical .and).apply [yes, .missing, no] =
        .failed (Argument.missingStatus.prefixed "function:and") := by
  intro two yes no nOf
  obtain ⟨scans, counts, -⟩ := decidedByPosition
  have valid : AllBoolean [yes, no] := by simp [AllBoolean, yes, no]
  refine ⟨counts.stops two 2 [yes, no] yes _ [.missing] rfl (by decide) (.completes valid rfl),
    counts.stops two 2 [yes, no] .missing _ [yes] rfl (by decide)
      (.invalid valid (by decide) .missing), ?_, ?_⟩
  · exact (scans false).stops [no] yes _ [.missing] (.decides (by simp [Passes, no]))
  · exact (scans true).stops [yes] .missing _ [no] (.invalid (by simp [Passes, yes]) .missing)

end LogicalFunction
end PolicyDecision
