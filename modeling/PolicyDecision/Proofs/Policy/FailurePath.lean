import PolicyDecision.Proofs.Policy.Failure

/-!
# Paths of failures

A failure within an expression starts at an attribute that is required and absent, at a
function that does not exist, or at a fault that a function finds itself. The functions
above pass it on, each with its own name in front of the message, so that the message
names the path from the outermost function down to where the failure started.
-/

namespace PolicyDecision

/-- The message of a failure that is passed on through functions, the outermost one first. -/
def pathMessage (path : List Function) (message : String) : String :=
  " ".intercalate (path.map Function.shortId ++ [message])

theorem pathMessage_nil (message : String) : pathMessage [] message = message := by
  simp [pathMessage]

theorem pathMessage_cons (function : Function) (path : List Function) (message : String) :
    pathMessage (function :: path) message =
      function.shortId ++ " " ++ pathMessage path message := by
  rw [pathMessage, List.map_cons, List.cons_append,
    String.intercalate_cons_of_ne_nil (List.append_ne_nil_of_right_ne_nil _ (List.cons_ne_nil _ _))]
  rfl

namespace Expression

/-- An expression fails with a code and a message that start at one of its parts, and are
passed on through the functions of a path that leads from the expression down to there. -/
inductive FailsAlong (source : AttributeSource) :
    Expression → List Function → StatusCode → String → Prop
  | absentAttribute
      {designator : Designator}
      (required : designator.mustBePresent = true)
      (absent : source designator.category designator.attributeId designator.datatype = []) :
      FailsAlong source (.designator designator) [] .missingAttribute
        ("Missing required attribute " ++ designator.attributeId ++ " in category " ++
          designator.category)
  | unknownFunction
      {functionId : String}
      {arguments : List Expression}
      (unknown : Function.find? functionId = none) :
      FailsAlong source (.apply functionId arguments) [] .processingError
        ("Unknown function " ++ functionId)
  | ownFault
      {functionId message : String}
      {arguments : List Expression}
      {function : Function}
      (known : Function.find? functionId = some function)
      (fault : function.Fault (evaluateAll source arguments) (.processingError message))
      (reported : function.compute (evaluateAll source arguments) =
        .error (.processingError message)) :
      FailsAlong source (.apply functionId arguments) [function] .processingError message
  | argument
      {functionId message : String}
      {arguments : List Expression}
      {argument : Expression}
      {function : Function}
      {path : List Function}
      {code : StatusCode}
      (known : Function.find? functionId = some function)
      (member : argument ∈ arguments)
      (fails : FailsAlong source argument path code message)
      (passedOn : function.compute (evaluateAll source arguments) =
        .error (.withMessage code (pathMessage path message))) :
      FailsAlong source (.apply functionId arguments) (function :: path) code message

variable {source : AttributeSource} {expression : Expression} {path : List Function}
  {code : StatusCode} {message : String} {status : Status}

theorem FailsAlong.code_ne_ok (fails : expression.FailsAlong source path code message) :
    code ≠ .ok := by
  induction fails with
  | absentAttribute | unknownFunction | ownFault => simp
  | argument _ _ _ _ inductionHypothesis => exact inductionHypothesis

theorem evaluate_apply_of_error
    {functionId : String}
    {arguments : List Expression}
    {function : Function}
    (known : Function.find? functionId = some function)
    (reported : function.compute (evaluateAll source arguments) = .error status) :
    (apply functionId arguments).evaluate source = .failed (status.prefixed function.shortId) := by
  rw [evaluate, known]
  simp only [Function.apply, reported]

/-- An expression that fails along a path has the failure that the path gives. -/
theorem FailsAlong.evaluate_eq (fails : expression.FailsAlong source path code message) :
    expression.evaluate source = .failed (.withMessage code (pathMessage path message)) := by
  cases fails with
  | absentAttribute required absent =>
      rw [pathMessage_nil, evaluate, Designator.evaluate, Designator.values, absent]
      simp only [if_pos required]
      rfl
  | unknownFunction unknown =>
      rw [pathMessage_nil, evaluate, unknown]
      rfl
  | ownFault known fault reported =>
      rw [evaluate_apply_of_error known reported, pathMessage_cons, pathMessage_nil]
      rfl
  | argument known member fails passedOn =>
      rw [evaluate_apply_of_error known passedOn, pathMessage_cons]
      rfl

theorem exists_failsAlong_of_designator
    {designator : Designator}
    (failed : (Expression.designator designator).evaluate source = .failed status) :
    ∃ path code message, (Expression.designator designator).FailsAlong source path code message ∧
      status = .withMessage code (pathMessage path message) := by
  simp only [evaluate, Designator.evaluate, Designator.values] at failed
  split at failed
  · cases failed
  · rename_i reported absent
    cases failed
    split at absent
    · rename_i noValues
      split at absent
      · rename_i required
        cases absent
        exact ⟨_, _, _, .absentAttribute required noValues, by rw [pathMessage_nil]; rfl⟩
      · cases absent
    · cases absent

/-- A failed argument stems from an expression that fails. -/
theorem exists_of_failed_mem_evaluateAll
    {arguments : List Expression}
    (member : .failed status ∈ evaluateAll source arguments) :
    ∃ argument ∈ arguments, argument.evaluate source = .failed status := by
  rw [evaluateAll_eq_map] at member
  obtain ⟨argument, isArgument, fails⟩ := List.mem_map.mp member
  refine ⟨argument, isArgument, ?_⟩
  cases evaluated : argument.evaluate source <;> simp_all [Argument.ofOutcome]

/-- An expression fails only along a path. -/
theorem exists_failsAlong (expression : Expression) :
    ∀ {status}, expression.evaluate source = .failed status →
      ∃ path code message, expression.FailsAlong source path code message ∧
        status = .withMessage code (pathMessage path message) := by
  induction expression using Expression.inductionOnArguments with
  | value literal =>
      intro status failed
      simp [evaluate] at failed
  | bag literal =>
      intro status failed
      simp [evaluate] at failed
  | designator designated => exact exists_failsAlong_of_designator
  | apply functionId arguments inductionHypothesis =>
      intro status failed
      cases known : Function.find? functionId with
      | none =>
          rw [evaluate, known] at failed
          cases failed
          exact ⟨_, _, _, .unknownFunction known, by rw [pathMessage_nil]; rfl⟩
      | some function =>
          rw [evaluate, known] at failed
          obtain ⟨reported, computed, rfl⟩ := Function.exists_compute_of_apply_failed failed
          have accounts := function.compute_accounts (evaluateAll source arguments)
          rw [computed] at accounts
          rcases accounts with fault | passedOn
          · obtain ⟨message, rfl⟩ := fault.exists_message
            refine ⟨_, _, _, .ownFault known fault computed, ?_⟩
            rw [pathMessage_cons, pathMessage_nil]
            rfl
          · obtain ⟨argument, member, fails⟩ := exists_of_failed_mem_evaluateAll passedOn
            obtain ⟨path, code, message, along, rfl⟩ := inductionHypothesis argument member fails
            refine ⟨_, _, _, .argument known member along computed, ?_⟩
            rw [pathMessage_cons]
            rfl

/-- An expression fails exactly along the paths from it to an attribute that is required and
absent, a function that does not exist, or the own fault of the last function. Its message
names the functions of the path in front of the message found there, and its code is the
one found there, which is never that of a success. -/
theorem evaluate_eq_failed_iff
    (source : AttributeSource)
    (expression : Expression)
    (status : Status) :
    expression.evaluate source = .failed status ↔
      ∃ path code message, expression.FailsAlong source path code message ∧ code ≠ .ok ∧
        status = .withMessage code
          (" ".intercalate (path.map Function.shortId ++ [message])) := by
  constructor
  · intro failed
    obtain ⟨path, code, message, along, named⟩ := expression.exists_failsAlong failed
    exact ⟨path, code, message, along, along.code_ne_ok, named⟩
  · rintro ⟨path, code, message, along, -, rfl⟩
    exact along.evaluate_eq

/-- A required attribute that is absent is reported through the function that reads it and
the conjunction above, which has not been decided before. -/
theorem evaluate_eq_failed_iff_of_absentRole :
    let source : AttributeSource := fun _ _ _ => []
    let role := Expression.designator (Designator.optional "subject" "role" .boolean).required
    let only := Expression.apply "urn:oasis:names:tc:xacml:1.0:function:boolean-one-and-only" [role]
    let both := Expression.apply "urn:oasis:names:tc:xacml:1.0:function:and"
      [.value (.boolean true), only]
    both.evaluate source = .failed (.missingAttribute
      "function:and function:boolean-one-and-only Missing required attribute role in category subject") := by
  intro source role only both
  have andKnown : Function.find? "urn:oasis:names:tc:xacml:1.0:function:and" =
      some (.logical .and) := by decide
  have onlyKnown : Function.find? "urn:oasis:names:tc:xacml:1.0:function:boolean-one-and-only" =
      some (.bag .boolean .oneAndOnly) := by decide
  have roleFails : role.FailsAlong source [] _ _ := .absentAttribute rfl rfl
  have onlyFails : only.FailsAlong source [.bag .boolean .oneAndOnly] _ _ :=
    .argument onlyKnown List.mem_cons_self roleFails (by
      simp only [evaluateAll, roleFails.evaluate_eq]
      rfl)
  have bothFails : both.FailsAlong source [.logical .and, .bag .boolean .oneAndOnly] _ _ :=
    .argument andKnown (List.mem_cons_of_mem _ List.mem_cons_self) onlyFails (by
      simp only [evaluateAll, onlyFails.evaluate_eq]
      rfl)
  exact (evaluate_eq_failed_iff source both _).mpr
    ⟨_, _, _, bothFails, by decide, congrArg (Status.withMessage .missingAttribute) (by decide)⟩

end Expression
end PolicyDecision
