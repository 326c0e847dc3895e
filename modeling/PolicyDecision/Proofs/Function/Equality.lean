import PolicyDecision.Proofs.Function.Membership

/-!
# Laws of the equality functions

An equality function is symmetric, and every value is equal to itself, unless it is the
double that is not a number. Equality is passed on from each value to the next, except where
exactly two of three date-times have an offset and their offsets differ. The subset
function and the function for equal sets have the same laws for bags, with the same
exceptions for their members.
-/

namespace PolicyDecision
namespace Datatype

variable {datatype : Datatype} {value other last : Value} {first second third : Bag}

/-! ## Values -/

theorem equates_self
    (typed : value.datatype = datatype)
    (comparable : value.IsComparable) : datatype.Equates value value :=
  equates_iff.mpr ⟨typed, comparable.equal_self⟩

theorem Equates.symm (equal : datatype.Equates value other) : datatype.Equates other value := by
  obtain ⟨typed, equal⟩ := equates_iff.mp equal
  have otherTyped := (Value.datatype_eq_of_equal equal).symm.trans typed
  rw [Value.equal_comm] at equal
  exact equates_iff.mpr ⟨otherTyped, equal⟩

theorem Equates.trans_iff
    (equal : datatype.Equates value other)
    (next : datatype.Equates other last) :
    datatype.Equates value last ↔ ¬value.OffsetsClash other last := by
  rw [equates_iff] at *
  rw [and_iff_right equal.1]
  exact Value.equal_trans_iff equal.2 next.2

/-- Only doubles and date-times need care: the equality function of any other datatype is an
equivalence relation. -/
theorem equates_equivalence
    (notDouble : datatype ≠ .double)
    (notDateTime : datatype ≠ .dateTime) :
    Equivalence fun first second : {value : Value // value.datatype = datatype} =>
      datatype.Equates first second where
  refl := fun value => equates_self value.2 <|
    Value.isComparable_of_datatype_ne fun isDouble => notDouble (value.2.symm.trans isDouble)
  symm := Equates.symm
  trans := fun {value _ _} equal next => (equal.trans_iff next).mpr fun clash =>
    notDateTime (value.2.symm.trans clash.datatype_eq)

/-! ## Bags -/

/-- Three members of the bags, one of each, are each equal to the next, and their offsets
clash. -/
def ChainsClash (datatype : Datatype) (first second third : Bag) : Prop :=
  ∃ start ∈ first.values, ∃ middle ∈ second.values, ∃ last ∈ third.values,
    datatype.Equates start middle ∧ datatype.Equates middle last ∧ start.OffsetsClash middle last

theorem ChainsClash.reverse (clash : datatype.ChainsClash first second third) :
    datatype.ChainsClash third second first := by
  obtain ⟨start, isStart, middle, isMiddle, last, isLast, equal, next, clash⟩ := clash
  exact ⟨last, isLast, middle, isMiddle, start, isStart, next.symm, equal.symm, clash.reverse⟩

theorem isSubset_self
    (typed : first.IsOf datatype)
    (comparable : ∀ member ∈ first.values, member.IsComparable) :
    datatype.IsSubset first first := by
  rw [isSubset_iff typed typed]
  intro member isMember
  have equal := equates_self (typed member isMember) (comparable member isMember)
  exact (isIn_iff (typed member isMember) typed).mpr ⟨member, isMember, equal⟩

theorem isSubset_trans
    (firstTyped : first.IsOf datatype)
    (secondTyped : second.IsOf datatype)
    (thirdTyped : third.IsOf datatype)
    (noClash : ¬datatype.ChainsClash first second third)
    (subset : datatype.IsSubset first second)
    (next : datatype.IsSubset second third) : datatype.IsSubset first third := by
  rw [isSubset_iff firstTyped secondTyped] at subset
  rw [isSubset_iff secondTyped thirdTyped] at next
  rw [isSubset_iff firstTyped thirdTyped]
  intro start isStart
  obtain ⟨middle, isMiddle, equal⟩ :=
    (isIn_iff (firstTyped start isStart) secondTyped).mp (subset start isStart)
  obtain ⟨last, isLast, nextEqual⟩ :=
    (isIn_iff (secondTyped middle isMiddle) thirdTyped).mp (next middle isMiddle)
  refine (isIn_iff (firstTyped start isStart) thirdTyped).mpr ⟨last, isLast, ?_⟩
  refine (equal.trans_iff nextEqual).mpr fun clash => noClash ?_
  exact ⟨start, isStart, middle, isMiddle, last, isLast, equal, nextEqual, clash⟩

theorem areSetEqual_self
    (typed : first.IsOf datatype)
    (comparable : ∀ member ∈ first.values, member.IsComparable) :
    datatype.AreSetEqual first first :=
  have subset := isSubset_self typed comparable
  (areSetEqual_iff typed typed).mpr ⟨subset, subset⟩

theorem areSetEqual_symm
    (firstTyped : first.IsOf datatype)
    (secondTyped : second.IsOf datatype)
    (equal : datatype.AreSetEqual first second) : datatype.AreSetEqual second first := by
  rw [areSetEqual_iff firstTyped secondTyped] at equal
  exact (areSetEqual_iff secondTyped firstTyped).mpr equal.symm

theorem areSetEqual_trans
    (firstTyped : first.IsOf datatype)
    (secondTyped : second.IsOf datatype)
    (thirdTyped : third.IsOf datatype)
    (noClash : ¬datatype.ChainsClash first second third)
    (equal : datatype.AreSetEqual first second)
    (next : datatype.AreSetEqual second third) : datatype.AreSetEqual first third := by
  rw [areSetEqual_iff firstTyped secondTyped] at equal
  rw [areSetEqual_iff secondTyped thirdTyped] at next
  refine (areSetEqual_iff firstTyped thirdTyped).mpr ⟨?_, ?_⟩
  · exact isSubset_trans firstTyped secondTyped thirdTyped noClash equal.1 next.1
  · exact isSubset_trans thirdTyped secondTyped firstTyped (mt ChainsClash.reverse noClash)
      next.2 equal.2

/-! ## Laws -/

/-- The laws of the equality function of a datatype for its values, and those of the subset
function and the function for equal sets for its bags. -/
structure EqualityLaws (datatype : Datatype) : Prop where
  refl : ∀ value, value.datatype = datatype → value.IsComparable → datatype.Equates value value
  symm : ∀ value other, datatype.Equates value other → datatype.Equates other value
  trans_iff : ∀ value other last, datatype.Equates value other → datatype.Equates other last →
    (datatype.Equates value last ↔ ¬value.OffsetsClash other last)
  isEquivalence : datatype ≠ .double → datatype ≠ .dateTime →
    Equivalence fun first second : {value : Value // value.datatype = datatype} =>
      datatype.Equates first second
  subset_refl : ∀ bag : Bag, bag.IsOf datatype → (∀ member ∈ bag.values, member.IsComparable) →
    datatype.IsSubset bag bag
  subset_trans : ∀ first second third : Bag,
    first.IsOf datatype → second.IsOf datatype → third.IsOf datatype →
      ¬datatype.ChainsClash first second third →
        datatype.IsSubset first second → datatype.IsSubset second third →
          datatype.IsSubset first third
  setEqual_refl : ∀ bag : Bag, bag.IsOf datatype → (∀ member ∈ bag.values, member.IsComparable) →
    datatype.AreSetEqual bag bag
  setEqual_symm : ∀ first second : Bag, first.IsOf datatype → second.IsOf datatype →
    datatype.AreSetEqual first second → datatype.AreSetEqual second first
  setEqual_trans : ∀ first second third : Bag,
    first.IsOf datatype → second.IsOf datatype → third.IsOf datatype →
      ¬datatype.ChainsClash first second third →
        datatype.AreSetEqual first second → datatype.AreSetEqual second third →
          datatype.AreSetEqual first third

/-- The laws hold for every datatype. -/
theorem equalityLaws (datatype : Datatype) : datatype.EqualityLaws where
  refl := fun _ => equates_self
  symm := fun _ _ => Equates.symm
  trans_iff := fun _ _ _ => Equates.trans_iff
  isEquivalence := equates_equivalence
  subset_refl := fun _ => isSubset_self
  subset_trans := fun _ _ _ => isSubset_trans
  setEqual_refl := fun _ => areSetEqual_self
  setEqual_symm := fun _ _ => areSetEqual_symm
  setEqual_trans := fun _ _ _ => areSetEqual_trans

/-- Times with the same offset do not clash, and the laws make equal sets of those that are
equal to the local time between them. -/
theorem equalityLaws_of_sameOffset :
    let universal := Value.noon (some ⟨0, by decide, by decide⟩)
    let here := Value.noon none
    ¬Datatype.dateTime.ChainsClash ⟨[universal]⟩ ⟨[here]⟩ ⟨[here, universal]⟩ ∧
      Datatype.dateTime.AreSetEqual ⟨[universal]⟩ ⟨[here, universal]⟩ := by
  intro universal here
  have noClash : ¬Datatype.dateTime.ChainsClash ⟨[universal]⟩ ⟨[here]⟩ ⟨[here, universal]⟩ := by
    simp [ChainsClash, Value.OffsetsClash, DateTime.OffsetsClash, universal, here, Value.noon]
  refine ⟨noClash, (equalityLaws .dateTime).setEqual_trans _ ⟨[here]⟩ _ ?_ ?_ ?_ noClash ?_ ?_⟩
  all_goals decide

/-- A local time is equal to both of two times that differ from each other in their offset, and
so are the sets of these values. The double that is not a number is not equal to itself, nor
is the set of it, which is no subset of itself either. -/
theorem equates_not_equivalence :
    let universal := Value.noon (some ⟨0, by decide, by decide⟩)
    let here := Value.noon none
    let ahead := Value.noon (some ⟨3600, by decide, by decide⟩)
    let undefined := Value.double .notANumber
    ((Datatype.dateTime.Equates universal here ∧ Datatype.dateTime.Equates here ahead ∧
          ¬Datatype.dateTime.Equates universal ahead) ∧
        Datatype.dateTime.AreSetEqual ⟨[universal]⟩ ⟨[here]⟩ ∧
          Datatype.dateTime.AreSetEqual ⟨[here]⟩ ⟨[ahead]⟩ ∧
          ¬Datatype.dateTime.IsSubset ⟨[universal]⟩ ⟨[ahead]⟩ ∧
          ¬Datatype.dateTime.AreSetEqual ⟨[universal]⟩ ⟨[ahead]⟩) ∧
      ¬Datatype.double.Equates undefined undefined ∧
        ¬Datatype.double.IsSubset ⟨[undefined]⟩ ⟨[undefined]⟩ ∧
        ¬Datatype.double.AreSetEqual ⟨[undefined]⟩ ⟨[undefined]⟩ := by
  decide

end Datatype
end PolicyDecision
