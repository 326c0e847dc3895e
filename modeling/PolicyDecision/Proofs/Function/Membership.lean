import PolicyDecision.Function.Definition
import PolicyDecision.Proofs.Deduplication
import PolicyDecision.Proofs.Function.Validation
import PolicyDecision.Proofs.Text.Numeral
import PolicyDecision.Proofs.Value.Equality

/-!
# Membership in bags

The membership and set functions of a datatype go by its equality function, whatever
relation that is: a value is in a bag when it is equal to some member, and the set
functions ask for members of one bag that are in the other. A union keeps the members
of both bags, and an intersection those of the first that are in the second, each
unless it is equal to one that is kept before it.
-/

namespace PolicyDecision

/-! ## Truth values -/

namespace Outcome

theorem ofBool_inj {truth other : Bool} : ofBool truth = ofBool other ↔ truth = other := by
  simp [ofBool]

instance (outcome : Outcome) : Decidable (outcome = .ofBool true) :=
  decidable_of_iff (outcome.single?.bind Value.truth? = some true) (by
    cases outcome with
    | single value => cases value <;> simp [single?, Value.truth?, ofBool]
    | _ => simp [single?, ofBool])

/-- The outcome is the truth value of a property. -/
def Tells (outcome : Outcome) (property : Prop) : Prop :=
  ∃ truth, outcome = .ofBool truth ∧ (truth = true ↔ property)

theorem tells_ofBool {truth : Bool} {property : Prop} (meant : truth = true ↔ property) :
    (ofBool truth).Tells property :=
  ⟨truth, rfl, meant⟩

theorem Tells.eq_ofBool_true_iff
    {outcome : Outcome}
    {property : Prop}
    (tells : outcome.Tells property) : outcome = .ofBool true ↔ property := by
  obtain ⟨truth, rfl, meant⟩ := tells
  rw [ofBool_inj, meant]

theorem Tells.congr
    {outcome : Outcome}
    {property other : Prop}
    (tells : outcome.Tells property)
    (same : property ↔ other) : outcome.Tells other := by
  obtain ⟨truth, isTruth, meant⟩ := tells
  exact ⟨truth, isTruth, meant.trans same⟩

/-- The outcome is the bag of those items that are kept when they are deduplicated. -/
def IsDeduplicated
    (outcome : Outcome)
    (same : Value → Value → Prop)
    (items : List Value) : Prop :=
  ∃ bag, outcome = .bag bag ∧ ∀ kept, Deduplicates same items kept ↔ kept = bag.values

end Outcome

/-! ## Arguments of a datatype -/

/-- All members belong to the datatype. -/
def Bag.IsOf (bag : Bag) (datatype : Datatype) : Prop :=
  ∀ member ∈ bag.values, member.datatype = datatype

instance (bag : Bag) (datatype : Datatype) : Decidable (bag.IsOf datatype) := by
  unfold Bag.IsOf
  infer_instance

variable {datatype : Datatype} {first second : Bag} {value other : Value} {values : List Value}

namespace Argument

theorem simple_value (typed : value.datatype = datatype) :
    simple datatype (.value value) = .ok value :=
  simple_eq_ok_iff.mpr ⟨rfl, typed⟩

theorem typedBag_bag (typed : first.IsOf datatype) :
    typedBag datatype (.bag first) = .ok first :=
  typedBag_eq_ok_iff.mpr ⟨rfl, typed⟩

end Argument

/-! ## The relations that the functions decide -/

namespace Datatype

/-- The equality function of the datatype is true of the two values. -/
def Equates (datatype : Datatype) (first second : Value) : Prop :=
  (Function.equal datatype).apply [.value first, .value second] = .ofBool true

instance (datatype : Datatype) (first second : Value) : Decidable (datatype.Equates first second) :=
  inferInstanceAs (Decidable (_ = Outcome.ofBool true))

/-- The outcome of the membership function of the datatype. -/
def isInOutcome (datatype : Datatype) (value : Value) (bag : Bag) : Outcome :=
  (Function.bag datatype .isIn).apply [.value value, .bag bag]

/-- The outcome of a set function of the datatype. -/
def setOutcome (datatype : Datatype) (function : SetFunction) (first second : Bag) : Outcome :=
  (Function.set datatype function).apply [.bag first, .bag second]

/-- The membership function of the datatype is true of the value and the bag. -/
def IsIn (datatype : Datatype) (value : Value) (bag : Bag) : Prop :=
  datatype.isInOutcome value bag = .ofBool true

instance (datatype : Datatype) (value : Value) (bag : Bag) : Decidable (datatype.IsIn value bag) :=
  inferInstanceAs (Decidable (_ = Outcome.ofBool true))

/-- The subset function of the datatype is true of the two bags. -/
def IsSubset (datatype : Datatype) (first second : Bag) : Prop :=
  datatype.setOutcome .subset first second = .ofBool true

instance (datatype : Datatype) (first second : Bag) : Decidable (datatype.IsSubset first second) :=
  inferInstanceAs (Decidable (_ = Outcome.ofBool true))

/-- The function for equal sets of the datatype is true of the two bags. -/
def AreSetEqual (datatype : Datatype) (first second : Bag) : Prop :=
  datatype.setOutcome .setEquals first second = .ofBool true

instance (datatype : Datatype) (first second : Bag) :
    Decidable (datatype.AreSetEqual first second) :=
  inferInstanceAs (Decidable (_ = Outcome.ofBool true))

theorem simplePair_values_eq_ok_iff {pair : Value × Value} :
    simplePair datatype [.value value, .value other] = .ok pair ↔
      value.datatype = datatype ∧ other.datatype = datatype ∧ (value, other) = pair := by
  simp only [simplePair, Argument.two, ok_bind, bind_eq_ok_iff, Argument.simple_eq_ok_iff]
  simp [pure, Except.pure]

/-- An equality function tells of two values that it takes whether they are equal. -/
theorem apply_equal_eq_ofBool_iff {arguments : List Argument} {truth : Bool} :
    (Function.equal datatype).apply arguments = .ofBool truth ↔
      ∃ pair, simplePair datatype arguments = .ok pair ∧ pair.1.equal pair.2 = truth := by
  rw [Function.apply, Function.compute, applyEquality]
  cases simplePair datatype arguments with
  | error status => simp [bind, Except.bind, Outcome.ofBool]
  | ok pair => simp [pure, Except.pure, ok_bind, Outcome.ofBool_inj]

theorem equates_iff :
    datatype.Equates value other ↔ value.datatype = datatype ∧ value.equal other = true := by
  rw [Equates, apply_equal_eq_ofBool_iff]
  constructor
  · rintro ⟨_, isPair, equal⟩
    obtain ⟨typed, -, rfl⟩ := simplePair_values_eq_ok_iff.mp isPair
    exact ⟨typed, equal⟩
  · rintro ⟨typed, equal⟩
    have otherTyped := (Value.datatype_eq_of_equal equal).symm.trans typed
    exact ⟨_, simplePair_values_eq_ok_iff.mpr ⟨typed, otherTyped, rfl⟩, equal⟩

theorem isIn_values_iff (typed : value.datatype = datatype) (values : List Value) :
    value.isIn values = true ↔ ∃ member ∈ values, datatype.Equates value member := by
  simp only [Value.isIn, List.any_eq_true, equates_iff, typed, true_and, Value.equal_comm value]

/-- The membership function tells whether the value is equal to some member. -/
theorem isInOutcome_tells
    (typed : value.datatype = datatype)
    (bagTyped : first.IsOf datatype) :
    (datatype.isInOutcome value first).Tells
      (∃ member ∈ first.values, datatype.Equates value member) := by
  have computed : datatype.isInOutcome value first = .ofBool (value.isIn first.values) := by
    simp only [isInOutcome, Function.apply, Function.compute, BagFunction.apply,
      BagFunction.membership, Argument.two, ok_bind, Argument.simple_value typed,
      Argument.typedBag_bag bagTyped]
    rfl
  rw [computed]
  exact Outcome.tells_ofBool (isIn_values_iff typed first.values)

theorem isIn_iff
    (typed : value.datatype = datatype)
    (bagTyped : first.IsOf datatype) :
    datatype.IsIn value first ↔ ∃ member ∈ first.values, datatype.Equates value member :=
  (isInOutcome_tells typed bagTyped).eq_ofBool_true_iff

theorem isIn_eq_true_iff
    (typed : value.datatype = datatype)
    (bagTyped : first.IsOf datatype) :
    value.isIn first.values = true ↔ datatype.IsIn value first := by
  rw [isIn_iff typed bagTyped, isIn_values_iff typed]

/-! ## Set functions that yield a truth value -/

theorem setOutcome_eq
    (function : SetFunction)
    (firstTyped : first.IsOf datatype)
    (secondTyped : second.IsOf datatype) :
    datatype.setOutcome function first second = function.outcome first.values second.values := by
  simp only [setOutcome, Function.apply, Function.compute, SetFunction.apply, Argument.two, ok_bind,
    Argument.typedBag_bag firstTyped, Argument.typedBag_bag secondTyped]
  rfl

theorem contained_iff
    (firstTyped : first.IsOf datatype)
    (secondTyped : second.IsOf datatype) :
    SetFunction.contained first.values second.values = true ↔
      ∀ member ∈ first.values, datatype.IsIn member second := by
  rw [SetFunction.contained, List.all_eq_true]
  exact forall₂_congr fun member isMember =>
    isIn_eq_true_iff (firstTyped member isMember) secondTyped

/-- The subset function tells whether every member of the first bag is in the second. -/
theorem subset_tells
    (firstTyped : first.IsOf datatype)
    (secondTyped : second.IsOf datatype) :
    (datatype.setOutcome .subset first second).Tells
      (∀ member ∈ first.values, datatype.IsIn member second) := by
  rw [setOutcome_eq .subset firstTyped secondTyped]
  exact Outcome.tells_ofBool (contained_iff firstTyped secondTyped)

theorem isSubset_iff
    (firstTyped : first.IsOf datatype)
    (secondTyped : second.IsOf datatype) :
    datatype.IsSubset first second ↔ ∀ member ∈ first.values, datatype.IsIn member second :=
  (subset_tells firstTyped secondTyped).eq_ofBool_true_iff

/-- The function for equal sets tells whether each bag is a subset of the other. -/
theorem setEquals_tells
    (firstTyped : first.IsOf datatype)
    (secondTyped : second.IsOf datatype) :
    (datatype.setOutcome .setEquals first second).Tells
      (datatype.IsSubset first second ∧ datatype.IsSubset second first) := by
  rw [setOutcome_eq .setEquals firstTyped secondTyped, isSubset_iff firstTyped secondTyped,
    isSubset_iff secondTyped firstTyped, ← contained_iff firstTyped secondTyped,
    ← contained_iff secondTyped firstTyped]
  exact Outcome.tells_ofBool (Bool.and_eq_true _ _).to_iff

theorem areSetEqual_iff
    (firstTyped : first.IsOf datatype)
    (secondTyped : second.IsOf datatype) :
    datatype.AreSetEqual first second ↔
      datatype.IsSubset first second ∧ datatype.IsSubset second first :=
  (setEquals_tells firstTyped secondTyped).eq_ofBool_true_iff

/-- The function for common members tells whether some member of the first bag is in the
second. -/
theorem atLeastOneMemberOf_tells
    (firstTyped : first.IsOf datatype)
    (secondTyped : second.IsOf datatype) :
    (datatype.setOutcome .atLeastOneMemberOf first second).Tells
      (∃ member ∈ first.values, datatype.IsIn member second) := by
  rw [setOutcome_eq .atLeastOneMemberOf firstTyped secondTyped]
  refine Outcome.tells_ofBool (List.any_eq_true.trans (exists_congr fun member => ?_))
  exact and_congr_right fun isMember => isIn_eq_true_iff (firstTyped member isMember) secondTyped

end Datatype

/-! ## Set functions that yield a bag -/

namespace SetFunction

/-- With values held for those seen, taking further values one by one deduplicates all of
them. -/
theorem deduplicates_distinctAfter
    {seen held : List Value}
    {places : List Nat}
    (keptAt : KeptAt datatype.Equates seen held places)
    (typed : ∀ value ∈ values, value.datatype = datatype) :
    Deduplicates datatype.Equates (seen ++ values) (distinctAfter held values) := by
  induction values generalizing seen held places with
  | nil =>
      rw [List.append_nil]
      exact ⟨places, keptAt⟩
  | cons value rest inductionHypothesis =>
      obtain ⟨valueTyped, restTyped⟩ := List.forall_mem_cons.mp typed
      have isHeld := Datatype.isIn_values_iff valueTyped held
      rw [List.append_cons, distinctAfter]
      split
      · rename_i repeated
        exact inductionHypothesis (keptAt.append_repeated (isHeld.mp repeated)) restTyped
      · rename_i fresh
        rw [isHeld] at fresh
        push Not at fresh
        exact inductionHypothesis (keptAt.append_fresh fresh) restTyped

theorem deduplicates_distinct (typed : ∀ value ∈ values, value.datatype = datatype) :
    Deduplicates datatype.Equates values (distinct values) :=
  deduplicates_distinctAfter .nil typed

theorem isDeduplicated_distinct (typed : ∀ value ∈ values, value.datatype = datatype) :
    (Outcome.bag ⟨distinct values⟩).IsDeduplicated datatype.Equates values := by
  have deduplicates := deduplicates_distinct typed
  refine ⟨_, rfl, fun kept => ⟨fun other => other.unique deduplicates, ?_⟩⟩
  rintro rfl
  exact deduplicates

end SetFunction

namespace Datatype

/-- The members of the first bag that are in the second. -/
def commonMembers (datatype : Datatype) (first second : Bag) : List Value :=
  first.values.filter fun member => datatype.IsIn member second

theorem union_isDeduplicated
    (firstTyped : first.IsOf datatype)
    (secondTyped : second.IsOf datatype) :
    (datatype.setOutcome .union first second).IsDeduplicated datatype.Equates
      (first.values ++ second.values) := by
  rw [setOutcome_eq .union firstTyped secondTyped]
  refine SetFunction.isDeduplicated_distinct fun member isMember => ?_
  exact (List.mem_append.mp isMember).elim (firstTyped member) (secondTyped member)

theorem intersection_isDeduplicated
    (firstTyped : first.IsOf datatype)
    (secondTyped : second.IsOf datatype) :
    (datatype.setOutcome .intersection first second).IsDeduplicated datatype.Equates
      (datatype.commonMembers first second) := by
  have common : datatype.commonMembers first second =
      first.values.filter fun member => member.isIn second.values := by
    refine List.filter_congr fun member isMember => Bool.eq_iff_iff.mpr ?_
    rw [decide_eq_true_iff, isIn_eq_true_iff (firstTyped member isMember) secondTyped]
  rw [setOutcome_eq .intersection firstTyped secondTyped, SetFunction.outcome, ← common]
  exact SetFunction.isDeduplicated_distinct fun member isMember =>
    firstTyped member (List.mem_filter.mp isMember).1

/-- An intersection has a member when some member of the first bag is in the second. -/
theorem exists_intersection_iff
    (firstTyped : first.IsOf datatype)
    (secondTyped : second.IsOf datatype) :
    (∃ common, datatype.setOutcome .intersection first second = .bag common ∧
        common.isEmpty = false) ↔
      ∃ member ∈ first.values, datatype.IsIn member second := by
  obtain ⟨common, isCommon, determined⟩ := intersection_isDeduplicated firstTyped secondTyped
  obtain ⟨places, keptAt⟩ := (determined common.values).mpr rfl
  have someCommon : common.isEmpty = false ↔
      ∃ member ∈ first.values, datatype.IsIn member second := by
    rw [Bag.isEmpty, List.isEmpty_eq_false_iff, ne_eq, keptAt.eq_nil_iff, commonMembers,
      List.filter_eq_nil_iff]
    simp
  rw [isCommon, ← someCommon]
  constructor
  · rintro ⟨_, ⟨⟩, nonempty⟩
    exact nonempty
  · exact fun nonempty => ⟨common, rfl, nonempty⟩

/-! ## Agreement -/

/-- The membership and set functions of a datatype agree with its equality function on two
bags. -/
structure GoesByEquality (datatype : Datatype) (first second : Bag) : Prop where
  isIn : ∀ value, value.datatype = datatype →
    (datatype.isInOutcome value second).Tells
      (∃ member ∈ second.values, datatype.Equates value member)
  subset : (datatype.setOutcome .subset first second).Tells
    (∀ member ∈ first.values, datatype.IsIn member second)
  setEquals : (datatype.setOutcome .setEquals first second).Tells
    (datatype.IsSubset first second ∧ datatype.IsSubset second first)
  someCommon : (datatype.setOutcome .atLeastOneMemberOf first second).Tells
    (∃ member ∈ first.values, datatype.IsIn member second)
  intersects : (datatype.setOutcome .atLeastOneMemberOf first second).Tells
    (∃ common, datatype.setOutcome .intersection first second = .bag common ∧
      common.isEmpty = false)
  union : (datatype.setOutcome .union first second).IsDeduplicated datatype.Equates
    (first.values ++ second.values)
  intersection : (datatype.setOutcome .intersection first second).IsDeduplicated datatype.Equates
    (datatype.commonMembers first second)

/-- The membership and set functions of every datatype agree with its equality function on
all values and bags of the datatype. -/
theorem goesByEquality
    (firstTyped : first.IsOf datatype)
    (secondTyped : second.IsOf datatype) : datatype.GoesByEquality first second where
  isIn := fun _ typed => isInOutcome_tells typed secondTyped
  subset := subset_tells firstTyped secondTyped
  setEquals := setEquals_tells firstTyped secondTyped
  someCommon := atLeastOneMemberOf_tells firstTyped secondTyped
  intersects := (atLeastOneMemberOf_tells firstTyped secondTyped).congr
    (exists_intersection_iff firstTyped secondTyped).symm
  union := union_isDeduplicated firstTyped secondTyped
  intersection := intersection_isDeduplicated firstTyped secondTyped

/-- The local time is equal to both times with an offset, which differ from each other. Only
the first of the three is kept where they are common, but the last one is kept in a union. -/
theorem goesByEquality_of_mixedOffsets :
    let here := Value.noon none
    let universal := Value.noon (some ⟨0, by decide, by decide⟩)
    let ahead := Value.noon (some ⟨3600, by decide, by decide⟩)
    let first : Bag := ⟨[universal, here]⟩
    let second : Bag := ⟨[ahead, here]⟩
    first.IsOf .dateTime ∧ second.IsOf .dateTime ∧ Datatype.dateTime.GoesByEquality first second ∧
      Datatype.dateTime.setOutcome .union first second = .bag ⟨[universal, ahead]⟩ ∧
      Datatype.dateTime.setOutcome .intersection first second = .bag ⟨[universal]⟩ :=
  ⟨by decide, by decide, goesByEquality (by decide) (by decide), rfl, rfl⟩

end Datatype
end PolicyDecision
