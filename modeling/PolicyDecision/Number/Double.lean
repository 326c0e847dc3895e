import PolicyDecision.Text.Digits

/-!
# Doubles

Binary floating-point numbers with a 53-bit significand. A magnitude is named by
its rank in the increasing list of all non-negative doubles, so that order and
equality are those of natural numbers; the rank also determines the significand
and the power of two. The value that is not a number differs from every double,
itself included, and the two zeros are equal.
-/

namespace PolicyDecision

/-- Number of doubles between two neighbouring powers of two. -/
def ranksPerBinade : Nat := Nat.pow 2 52

/-- The rank of infinity, above all finite magnitudes. -/
def infinityRank : Nat := 2047 * ranksPerBinade

/-- A double: not a number, or a sign and the rank of a magnitude. -/
inductive Double
  | notANumber
  | signed (negative : Bool) (rank : Fin (infinityRank + 1))
  deriving DecidableEq

namespace Double

/-- The double of a sign and a rank; ranks past the last one mean infinity. -/
def ofRank (negative : Bool) (rank : Nat) : Double :=
  .signed negative ⟨min rank infinityRank, by omega⟩

/-- Position of a double in the order of all doubles, where both zeros stand
at zero; nothing for the value that is not a number. -/
def position? : Double → Option Int
  | .notANumber => none
  | .signed negative rank => some (if negative then -(rank.val : Int) else rank.val)

/-- Numeric equality. -/
def same (first second : Double) : Bool :=
  match first.position?, second.position? with
  | some left, some right => left == right
  | _, _ => false

instance : BEq Double := ⟨same⟩

/-- The value that is not a number is not equal to itself. -/
@[simp] theorem notANumber_beq (other : Double) : (notANumber == other) = false := rfl

/-- A double other than the value that is not a number is equal to itself. -/
@[simp] theorem signed_beq_self (negative : Bool) (rank : Fin (infinityRank + 1)) :
    (signed negative rank == signed negative rank) = true := by
  change same _ _ = true
  simp [same, position?]

/-- Numeric order, undefined when either side is not a number. -/
def compare? (first second : Double) : Option Ordering :=
  match first.position?, second.position? with
  | some left, some right => some (compare left right)
  | _, _ => none

/-- The significand and the power of two whose product is the finite magnitude
of a rank. -/
def significandAndExponent (rank : Nat) : Nat × Int :=
  if rank < ranksPerBinade then (rank, -1074)
  else (rank % ranksPerBinade + ranksPerBinade, (rank / ranksPerBinade : Nat) - 1075)

/-- A number times a power of a base, as a quotient of two natural numbers. -/
def scaled (base number : Nat) (exponent : Int) : Nat × Nat :=
  if 0 ≤ exponent then (number * Nat.pow base exponent.toNat, 1)
  else (number, Nat.pow base (-exponent).toNat)

end Double
end PolicyDecision
