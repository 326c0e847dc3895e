import Mathlib.Data.Multiset.Count
import PolicyDecision.Bag
import PolicyDecision.Proofs.Value.Equality

/-!
# Equality of bags

Equality of bags compares their sizes, and how often each value of the first bag
occurs in the two. The members that equal themselves form a multiset of normal
forms, and a bag that equals another one has all of its multiset in that of the
other. The sizes then leave a difference only where the first bag has more members
that are not a number, so that equality is equality of multisets for all bags that
hold equally many of these.
-/

namespace PolicyDecision

/-- The value is the double that is not a number. -/
def Value.isNotANumber : Value → Bool
  | .double .notANumber => true
  | _ => false

theorem Value.isComparable_iff {value : Value} :
    value.IsComparable ↔ value.isNotANumber = false := by
  cases value with
  | double number => cases number <;> simp [IsComparable, isNotANumber]
  | _ => simp [IsComparable, isNotANumber]

namespace Bag

/-- The number of members that are not a number. -/
def notANumbers (bag : Bag) : Nat := bag.values.countP Value.isNotANumber

/-- The normal forms of the members that equal themselves, as often as they occur. -/
def contents (bag : Bag) : Multiset Value :=
  ((bag.values.filter fun member => !member.isNotANumber).map Value.normal : List Value)

/-- The bags have the same size, and every value that occurs in either of them occurs
equally often in both. -/
def EquallyOften (first second : Bag) : Prop :=
  first.size = second.size ∧
    ∀ value, value ∈ first.values ∨ value ∈ second.values →
      first.count value = second.count value

variable {first second : Bag} {value : Value}

theorem EquallyOften.symm (alike : first.EquallyOften second) : second.EquallyOften first :=
  ⟨alike.1.symm, fun value occurs => (alike.2 value occurs.symm).symm⟩

/-! ## The multiset of a bag -/

theorem exists_of_mem_contents
    (member : value ∈ first.contents) :
    ∃ held ∈ first.values, held.IsComparable ∧ held.normal = value := by
  obtain ⟨held, isHeld, rfl⟩ := List.mem_map.mp member
  obtain ⟨isMember, isNumber⟩ := List.mem_filter.mp isHeld
  exact ⟨held, isMember, Value.isComparable_iff.mpr (by simpa using isNumber), rfl⟩

/-- The members are those in the multiset and those that are not a number. -/
theorem size_eq (bag : Bag) : bag.size = bag.contents.card + bag.notANumbers := by
  have parted := List.length_eq_countP_add_countP Value.isNotANumber (l := bag.values)
  rw [size, parted, contents, Multiset.coe_card, List.length_map, ← List.countP_eq_length_filter,
    notANumbers, Nat.add_comm]
  simp

section
open Classical

/-- A value occurs in a bag as often as its normal form in the multiset. -/
theorem count_eq (bag : Bag) (comparable : value.IsComparable) :
    bag.count value = bag.contents.count value.normal := by
  rw [count, contents, Multiset.count, Multiset.coe_countP, List.countP_map, List.countP_filter]
  refine List.countP_congr fun member _ => ?_
  rw [Value.beq_comm, Value.beq_iff, and_iff_right comparable, Bool.and_eq_true,
    Bool.not_eq_true', ← Value.isComparable_iff, Function.comp_apply, decide_eq_true_eq]
  exact ⟨fun alike => ⟨alike, (Value.isComparable_congr alike).mp comparable⟩, And.left⟩

end

/-- What is not a number occurs in no bag. -/
theorem count_eq_zero (bag : Bag) (incomparable : ¬value.IsComparable) : bag.count value = 0 := by
  refine List.countP_eq_zero.mpr fun member _ isEqual => incomparable ?_
  rw [Value.beq_comm] at isEqual
  exact (Value.beq_iff.mp isEqual).1

/-! ## Equality -/

theorem beq_iff :
    (first == second) = true ↔
      first.size = second.size ∧
        ∀ value ∈ first.values, first.count value = second.count value := by
  change same first second = true ↔ _
  simp [same]

/-- A bag that equals another one has its multiset in that of the other. -/
theorem contents_le_of_beq (equal : (first == second) = true) :
    first.contents ≤ second.contents := by
  classical
  refine Multiset.le_iff_count.mpr fun value => ?_
  by_cases occurs : value ∈ first.contents
  · obtain ⟨held, member, comparable, rfl⟩ := exists_of_mem_contents occurs
    rw [← count_eq _ comparable, ← count_eq _ comparable, (beq_iff.mp equal).2 held member]
  · rw [Multiset.count_eq_zero_of_notMem occurs]
    exact Nat.zero_le _

/-- Values occur equally often in bags with the same multiset. -/
theorem count_congr
    (alike : first.contents = second.contents)
    (value : Value) : first.count value = second.count value := by
  by_cases comparable : value.IsComparable
  · rw [count_eq _ comparable, count_eq _ comparable, alike]
  · rw [count_eq_zero _ comparable, count_eq_zero _ comparable]

/-- Values occur equally often when one bag equals the other and equally many of their
members are not a number. -/
theorem equallyOften_iff :
    first.EquallyOften second ↔
      (first == second) = true ∧ first.notANumbers = second.notANumbers := by
  have sizes := first.size_eq
  have otherSizes := second.size_eq
  constructor
  · intro alike
    have equal : (first == second) = true :=
      beq_iff.mpr ⟨alike.1, fun value member => alike.2 value (.inl member)⟩
    have reversed : (second == first) = true :=
      beq_iff.mpr ⟨alike.symm.1, fun value member => alike.symm.2 value (.inl member)⟩
    have sameContents := (contents_le_of_beq equal).antisymm (contents_le_of_beq reversed)
    have sameSize := alike.1
    rw [sameContents] at sizes
    exact ⟨equal, by omega⟩
  · rintro ⟨equal, sameNotANumbers⟩
    have sameSize := (beq_iff.mp equal).1
    have sameContents := Multiset.eq_of_le_of_card_le (contents_le_of_beq equal) (by omega)
    exact ⟨sameSize, fun value _ => count_congr sameContents value⟩

/-- Equality of two bags is symmetric and equality of multisets exactly when neither equals
the other while a different number of its members are not a number. -/
theorem beq_isMultisetEquality_iff (first second : Bag) :
    ((first == second) = (second == first) ∧
        ((first == second) = true ↔ first.EquallyOften second)) ↔
      ((first == second) = true ∨ (second == first) = true →
        first.notANumbers = second.notANumbers) := by
  constructor
  · rintro ⟨symmetric, isMultisetEquality⟩ someEqual
    rw [← symmetric, or_self, isMultisetEquality] at someEqual
    exact (equallyOften_iff.mp someEqual).2
  · intro sameNotANumbers
    have forward : (first == second) = true ↔ first.EquallyOften second :=
      ⟨fun equal => equallyOften_iff.mpr ⟨equal, sameNotANumbers (.inl equal)⟩,
        fun alike => (equallyOften_iff.mp alike).1⟩
    have backward : (second == first) = true ↔ second.EquallyOften first :=
      ⟨fun equal => equallyOften_iff.mpr ⟨equal, (sameNotANumbers (.inr equal)).symm⟩,
        fun alike => (equallyOften_iff.mp alike).1⟩
    refine ⟨Bool.eq_iff_iff.mpr ?_, forward⟩
    rw [forward, backward]
    exact ⟨EquallyOften.symm, EquallyOften.symm⟩

/-- The bag of what is not a number equals the bag of any single value, and is not equal to
any in return. -/
theorem beq_of_notANumber :
    let unknown : Bag := ⟨[.double .notANumber]⟩
    let one : Bag := ⟨[.boolean true]⟩
    (unknown == one) = true ∧ (one == unknown) = false ∧ ¬unknown.EquallyOften one := by
  intro unknown one
  have differs : ¬unknown.EquallyOften one := fun alike =>
    absurd (alike.2 (.boolean true) (.inr List.mem_cons_self)) (by decide)
  exact ⟨by decide, by decide, differs⟩

end Bag
end PolicyDecision
