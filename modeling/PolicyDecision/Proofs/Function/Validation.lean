import PolicyDecision.Function.Argument

/-!
# Validation of arguments

Every function reads its arguments through the same few readings. Each of them gives an
argument that is missing a fault, passes on the status of one that failed, and reports a
value or a bag that is not of the kind and the datatype asked for. What a computation on
arguments reports is then a fault that it finds itself or the status of an argument.
-/

namespace PolicyDecision
namespace Argument

/-- The argument is there and did not fail. -/
def IsPresent (argument : Argument) : Prop :=
  argument ≠ .missing ∧ ∀ status, argument ≠ .failed status

/-- The argument is not a simple value of the datatype, for the reason that the status
gives. -/
inductive NotSimple (datatype : Datatype) : Argument → Status → Prop
  | missing : NotSimple datatype .missing missingStatus
  | failed (status : Status) : NotSimple datatype (.failed status) status
  | bag (values : Bag) : NotSimple datatype (.bag values) expectedSimple
  | mistyped {value : Value} (differs : datatype ≠ value.datatype) :
      NotSimple datatype (.value value) (typeMismatch datatype value.datatype)

/-- The argument itself is at fault, for the reason that the status gives. -/
inductive Invalid : Argument → Status → Prop
  | missing : Invalid .missing missingStatus
  | notBag (value : Value) : Invalid (.value value) expectedBag
  | notSimple (values : Bag) : Invalid (.bag values) expectedSimple
  | mistyped {datatype : Datatype} {value : Value} (differs : datatype ≠ value.datatype) :
      Invalid (.value value) (typeMismatch datatype value.datatype)
  | mistypedMember
      {datatype : Datatype}
      {values : Bag}
      {member : Value}
      (isMember : member ∈ values.values)
      (differs : datatype ≠ member.datatype) :
      Invalid (.bag values) (typeMismatch datatype member.datatype)

variable {datatype : Datatype} {argument : Argument} {status : Status}

theorem isPresent_value (value : Value) : (Argument.value value).IsPresent := by
  simp [IsPresent]

theorem isPresent_bag (values : Bag) : (Argument.bag values).IsPresent := by
  simp [IsPresent]

theorem Invalid.exists_message (invalid : argument.Invalid status) :
    ∃ message, status = .processingError message := by
  cases invalid <;> exact ⟨_, rfl⟩

theorem NotSimple.invalid_or_failed (notSimple : argument.NotSimple datatype status) :
    argument.Invalid status ∨ argument = .failed status := by
  cases notSimple with
  | missing => exact .inl .missing
  | failed status => exact .inr rfl
  | bag values => exact .inl (.notSimple values)
  | mistyped differs => exact .inl (.mistyped differs)

/-! ## Simple values -/

theorem simple_eq_ok_iff {value : Value} :
    argument.simple datatype = .ok value ↔ argument = .value value ∧ value.datatype = datatype := by
  cases argument with
  | value held => by_cases same : datatype = held.datatype <;> grind [simple]
  | bag values => simp [simple]
  | missing => simp [simple]
  | failed reported => simp [simple]

theorem simple_eq_error_iff :
    argument.simple datatype = .error status ↔ argument.NotSimple datatype status := by
  constructor
  · intro fails
    cases argument with
    | value held =>
        by_cases same : datatype = held.datatype
        · simp [simple, same] at fails
        · simp only [simple, if_neg same, Except.error.injEq] at fails
          exact fails ▸ .mistyped same
    | bag values => cases fails; exact .bag values
    | missing => cases fails; exact .missing
    | failed reported => cases fails; exact .failed status
  · intro notSimple
    cases notSimple with
    | mistyped differs => simp [simple, differs]
    | _ => rfl

theorem boolean_eq_ok_iff {truth : Bool} :
    argument.boolean = .ok truth ↔ argument = .value (.boolean truth) := by
  cases argument with
  | value held => cases held <;> simp [boolean, simple, Value.datatype]
  | _ => simp [boolean, simple]

theorem boolean_eq_error_iff :
    argument.boolean = .error status ↔ argument.NotSimple .boolean status := by
  rw [← simple_eq_error_iff]
  cases argument with
  | value held => cases held <;> simp [boolean, simple, Value.datatype]
  | _ => simp [boolean, simple]

theorem integer_eq_ok_iff {number : Integer} :
    argument.integer = .ok number ↔ argument = .value (.integer number) := by
  cases argument with
  | value held => cases held <;> simp [integer, simple, Value.datatype]
  | _ => simp [integer, simple]

theorem integer_eq_error_iff :
    argument.integer = .error status ↔ argument.NotSimple .integer status := by
  rw [← simple_eq_error_iff]
  cases argument with
  | value held => cases held <;> simp [integer, simple, Value.datatype]
  | _ => simp [integer, simple]

theorem string_eq_ok_iff {text : String} :
    argument.string = .ok text ↔ argument = .value (.string text) := by
  cases argument with
  | value held => cases held <;> simp [string, simple, Value.datatype]
  | _ => simp [string, simple]

theorem string_eq_error_iff :
    argument.string = .error status ↔ argument.NotSimple .string status := by
  rw [← simple_eq_error_iff]
  cases argument with
  | value held => cases held <;> simp [string, simple, Value.datatype]
  | _ => simp [string, simple]

/-- A boolean that is not one truth value is the other one, and all else is no boolean. -/
theorem boolean_cases (truth : Bool) (argument : Argument) :
    argument = .value (.boolean truth) ∨ argument = .value (.boolean !truth) ∨
      ∃ status, argument.NotSimple .boolean status := by
  cases read : argument.boolean with
  | error status => exact .inr (.inr ⟨status, boolean_eq_error_iff.mp read⟩)
  | ok held =>
      rw [boolean_eq_ok_iff] at read
      subst read
      cases truth <;> cases held <;> simp

/-! ## Bags -/

theorem anyBag_eq_ok_iff {values : Bag} :
    argument.anyBag = .ok values ↔ argument = .bag values := by
  cases argument <;> simp [anyBag]

theorem invalid_or_failed_of_anyBag (fails : argument.anyBag = .error status) :
    argument.Invalid status ∨ argument = .failed status := by
  cases argument with
  | value held => cases fails; exact .inl (.notBag held)
  | bag values => cases fails
  | missing => cases fails; exact .inl .missing
  | failed reported => cases fails; exact .inr rfl

theorem typedBag_eq_ok_iff {values : Bag} :
    argument.typedBag datatype = .ok values ↔
      argument = .bag values ∧ ∀ member ∈ values.values, member.datatype = datatype := by
  have noneDiffers (held : Bag) :
      held.values.find? (fun member => member.datatype ≠ datatype) = none ↔
        ∀ member ∈ held.values, member.datatype = datatype := by
    simp only [List.find?_eq_none, decide_eq_true_eq, ne_eq, Decidable.not_not]
  unfold typedBag
  constructor
  · intro read
    split at read
    · cases read
    · rename_i held isBag
      split at read
      · cases read
      · rename_i found
        cases read
        exact ⟨anyBag_eq_ok_iff.mp isBag, (noneDiffers values).mp found⟩
  · rintro ⟨rfl, typed⟩
    simp only [anyBag, (noneDiffers values).mpr typed]

theorem invalid_or_failed_of_typedBag (fails : argument.typedBag datatype = .error status) :
    argument.Invalid status ∨ argument = .failed status := by
  unfold typedBag at fails
  split at fails
  · rename_i reported notBag
    cases fails
    exact invalid_or_failed_of_anyBag notBag
  · rename_i values isBag
    split at fails
    · rename_i member found
      cases fails
      rw [anyBag_eq_ok_iff.mp isBag]
      refine .inl (.mistypedMember (List.mem_of_find?_eq_some found) fun same => ?_)
      simpa [same] using List.find?_some found
    · cases fails

end Argument

/-! ## Computations -/

/-- What a computation on arguments reports is one of some faults of its own or the status
of an argument that failed, and what it yields is as expected. -/
def Accounts
    {α : Type}
    (fault : Status → Prop)
    (arguments : List Argument)
    (expected : α → Prop) : Except Status α → Prop
  | .ok value => expected value
  | .error status => fault status ∨ .failed status ∈ arguments

namespace Accounts

variable {α β : Type} {fault : Status → Prop} {arguments : List Argument}
  {expected : α → Prop} {final : β → Prop} {computed : Except Status α}

/-- Two stages account for what the second one accounts for on the values of the first. -/
theorem bind
    {next : α → Except Status β}
    (first : Accounts fault arguments expected computed)
    (second : ∀ value, expected value → Accounts fault arguments final (next value)) :
    Accounts fault arguments final (computed >>= next) := by
  cases computed with
  | error status => exact first
  | ok value => exact second value first

theorem map
    {view : α → β}
    (first : Accounts fault arguments expected computed)
    (viewed : ∀ value, expected value → final (view value)) :
    Accounts fault arguments final (computed.map view) := by
  cases computed with
  | error status => exact first
  | ok value => exact viewed value first

theorem mono
    {weaker : α → Prop}
    (first : Accounts fault arguments expected computed)
    (weaken : ∀ value, expected value → weaker value) :
    Accounts fault arguments weaker computed := by
  cases computed with
  | error status => exact first
  | ok value => exact weaken value first

/-- A reading of one of the arguments reports what is invalid about it or its status. -/
theorem of_reading
    {argument : Argument}
    (member : argument ∈ arguments)
    (invalid : ∀ {status}, argument.Invalid status → fault status)
    (reads : ∀ value, computed = .ok value → expected value)
    (reports : ∀ status, computed = .error status →
      argument.Invalid status ∨ argument = .failed status) :
    Accounts fault arguments expected computed := by
  cases computed with
  | ok value => exact reads value rfl
  | error status =>
      refine (reports status rfl).imp (fun found => invalid found) fun isFailed => ?_
      rwa [← isFailed]

end Accounts
end PolicyDecision
