import PolicyDecision.Value

/-!
# Bags

Collections of values that may hold duplicates. Two bags are equal when they
hold the same values equally often; the order of insertion only matters for
iteration.
-/

namespace PolicyDecision

/-- A collection of values in the order of insertion. -/
structure Bag where
  values : List Value

namespace Bag

/-- The bag without values. -/
def empty : Bag := ⟨[]⟩

/-- The number of values, duplicates included. -/
def size (bag : Bag) : Nat := bag.values.length

/-- The bag holds no values. -/
def isEmpty (bag : Bag) : Bool := bag.values.isEmpty

/-- The bag with one more value. -/
def push (bag : Bag) (value : Value) : Bag := ⟨bag.values ++ [value]⟩

@[simp] theorem values_push (bag : Bag) (value : Value) :
    (bag.push value).values = bag.values ++ [value] := rfl

/-- Some member equals the value. -/
def contains (bag : Bag) (value : Value) : Bool :=
  bag.values.any fun member => member == value

/-- How many members equal the value. -/
def count (bag : Bag) (value : Value) : Nat :=
  bag.values.countP fun member => member == value

/-- Both bags have the same size and every value of the first occurs equally
often in both. -/
def same (first second : Bag) : Bool :=
  first.size == second.size &&
    first.values.all fun value => first.count value == second.count value

instance : BEq Bag := ⟨same⟩

end Bag
end PolicyDecision
