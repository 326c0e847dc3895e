import PolicyDecision.Number.Integer
import PolicyDecision.Proofs.Text.Numeral

/-!
# Written integers

The decimal form of an integer of sixty-four bits holds no blanks and is read as
that integer, the least one included.
-/

namespace PolicyDecision
namespace Integer

/-- The digits that follow only make a number greater. -/
theorem le_ofDigitChars (sofar : Nat) (digits : List Char) :
    sofar ≤ Nat.ofDigitChars 10 digits sofar := by
  rw [Nat.ofDigitChars_eq_ofDigitChars_zero]
  exact Nat.le_add_right_of_le (Nat.le_mul_of_pos_left sofar (Nat.pow_pos (by decide)))

/-- Digits are read as the number they denote when it stays within the limit. -/
theorem readMagnitude_eq_ok
    {limit sofar : Nat}
    {digits : List Char}
    (allDigits : ∀ character ∈ digits, character.isDigit = true)
    (within : Nat.ofDigitChars 10 digits sofar ≤ limit)
    (overflow : IntegerFault) :
    readMagnitude limit overflow sofar digits = .ok (Nat.ofDigitChars 10 digits sofar) := by
  induction digits generalizing sofar with
  | nil => rfl
  | cons character rest inductionHypothesis =>
      obtain ⟨isDigit, restDigits⟩ := List.forall_mem_cons.mp allDigits
      rw [Nat.ofDigitChars_cons] at within ⊢
      simp only [readMagnitude, if_pos isDigit,
        if_pos ((le_ofDigitChars _ rest).trans within)]
      exact inductionHypothesis restDigits within

/-- The digits of a number are read as that number. -/
theorem readMagnitude_numeral
    {limit number : Nat}
    (within : number ≤ limit)
    (overflow : IntegerFault) :
    readMagnitude limit overflow 0 (Text.numeral number) = .ok number := by
  have value : Nat.ofDigitChars 10 (Text.numeral number) 0 = number :=
    Text.numeralValue_numeral number
  have digits : ∀ character ∈ Text.numeral number, character.isDigit = true :=
    fun _ member => Nat.isDigit_of_mem_toDigits (by decide) (by decide) member
  have magnitude := readMagnitude_eq_ok digits (value.trans_le within) overflow
  rwa [value] at magnitude

/-- A numeral starts with a digit, so it has no sign. -/
theorem signAndDigits_numeral (number : Nat) :
    signAndDigits (Text.numeral number) = (false, Text.numeral number) := by
  have digits := Text.writtenWith_numeral [] number
  unfold signAndDigits
  split
  · rename_i starts
    rw [starts] at digits
    simpa using digits '-' List.mem_cons_self
  · rename_i starts
    rw [starts] at digits
    simpa using digits '+' List.mem_cons_self
  · rfl

theorem writtenWith_write (integer : Integer) : Text.WrittenWith ['-'] integer.write := by
  unfold write Text.signedNumeral
  split
  · exact (Text.writtenWith_numeral _ _).cons List.mem_cons_self
  · exact Text.writtenWith_numeral _ _

/-- The decimal form of an integer is read as that integer. -/
theorem read_write (integer : Integer) : read integer.write = .ok integer := by
  have lower := integer.minimum_le
  have upper := integer.le_maximum
  simp only [integerMinimum, integerMaximum] at lower upper
  have digitsFound : (Text.numeral integer.toInt.natAbs).isEmpty = false :=
    List.isEmpty_eq_false_iff.mpr Nat.toDigits_ne_nil
  by_cases negative : integer.toInt < 0
  · have size : -(integer.toInt.natAbs : Int) = integer.toInt := by omega
    have magnitude := readMagnitude_numeral
      (show integer.toInt.natAbs ≤ 9223372036854775808 by omega) .tooSmall
    simp only [write, Text.signedNumeral, if_pos negative, read, List.isEmpty_cons,
      Bool.false_eq_true, if_false, signAndDigits, digitsFound, if_true, magnitude, size,
      ofInt?_toInt]
  · have size : (integer.toInt.natAbs : Int) = integer.toInt := by omega
    have magnitude := readMagnitude_numeral
      (show integer.toInt.natAbs ≤ 9223372036854775807 by omega) .tooLarge
    simp only [write, Text.signedNumeral, if_neg negative, read, digitsFound,
      Bool.false_eq_true, if_false, signAndDigits_numeral, magnitude, size, ofInt?_toInt]

/-- No character of the decimal form is blank. -/
theorem trim_write (integer : Integer) : Text.trim integer.write = integer.write := by
  refine Text.trim_of_noBlank fun character member => ?_
  rcases writtenWith_write integer character member with digit | isMinus
  · have := Text.toNat_of_isDigit digit
    simp [Text.isBlank, Text.inRanges, Text.blankRanges]
    omega
  · rw [List.mem_singleton.mp isMinus]
    decide

end Integer
end PolicyDecision
