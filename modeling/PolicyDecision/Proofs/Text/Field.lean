import PolicyDecision.Proofs.Text.Numeral

/-!
# Texts with a form

A text that is to be read has a form: a sign, numerals, the letters of their units and
the digits of a fraction. The readings of the parts of a form succeed exactly on what the
part may look like, so that a reading can be described by the forms that it accepts.
-/

namespace PolicyDecision

/-- The reading succeeds exactly when there is an accepted form, and then with what such a
form denotes. -/
structure ReadsExactly
    {Fault Form Written : Type}
    (reading : Except Fault Written)
    (accepts : Form → Prop)
    (denotes : Form → Written → Prop) : Prop where
  ok_iff : ∀ written, reading = .ok written ↔ ∃ form, accepts form ∧ denotes form written
  isOk_iff : (∃ written, reading = .ok written) ↔ ∃ form, accepts form

/-- Where every accepted form denotes something, it is enough to know what is read. -/
theorem ReadsExactly.ofDenotes
    {Fault Form Written : Type}
    {reading : Except Fault Written}
    {accepts : Form → Prop}
    {denotes : Form → Written → Prop}
    (denoted : ∀ form, accepts form → ∃ written, denotes form written)
    (ok_iff : ∀ written, reading = .ok written ↔ ∃ form, accepts form ∧ denotes form written) :
    ReadsExactly reading accepts denotes := by
  refine ⟨ok_iff, ?_, ?_⟩
  · rintro ⟨written, isRead⟩
    obtain ⟨form, accepted, -⟩ := (ok_iff written).mp isRead
    exact ⟨form, accepted⟩
  · rintro ⟨form, accepted⟩
    obtain ⟨written, isDenoted⟩ := denoted form accepted
    exact ⟨written, (ok_iff written).mpr ⟨form, accepted, isDenoted⟩⟩

namespace Text

/-! ## Cuts -/

theorem cutAt_eq_none_iff {separator : Char} {text : List Char} :
    cutAt separator text = none ↔ separator ∉ text := by
  refine ⟨fun uncut member => ?_, cutAt_eq_none⟩
  obtain ⟨before, after, rfl, absent⟩ := List.eq_append_cons_of_mem member
  rw [cutAt_append absent] at uncut
  cases uncut

/-- A text is cut at its first separator. -/
theorem cutAt_eq_some_iff {separator : Char} {text before after : List Char} :
    cutAt separator text = some (before, after) ↔
      text = before ++ separator :: after ∧ separator ∉ before := by
  constructor
  · intro cut
    refine ⟨append_of_cutAt cut, ?_⟩
    have member : separator ∈ text := by simp [append_of_cutAt cut]
    obtain ⟨first, rest, rfl, absent⟩ := List.eq_append_cons_of_mem member
    rw [cutAt_append absent] at cut
    cases cut
    exact absent
  · rintro ⟨rfl, absent⟩
    exact cutAt_append absent after

theorem withoutLast?_eq_some_iff {last : Char} {text body : List Char} :
    withoutLast? last text = some body ↔ text = body ++ [last] := by
  constructor
  · intro ends
    unfold withoutLast? at ends
    split at ends
    · rename_i isLast
      obtain ⟨front, rfl⟩ := List.getLast?_eq_some_iff.mp isLast
      cases ends
      rw [List.dropLast_concat]
    · cases ends
  · rintro rfl
    exact withoutLast?_concat body last

/-- The sign of a form. -/
def sign (negative : Bool) : List Char :=
  if negative then ['-'] else []

/-- A text is its sign and what stands after it. -/
theorem sign_append_leadingMinus (text : List Char) :
    sign (leadingMinus text).1 ++ (leadingMinus text).2 = text := by
  unfold leadingMinus
  split <;> rfl

theorem leadingMinus_sign_append
    {first : Char}
    (noMinus : first ≠ '-')
    (negative : Bool)
    (rest : List Char) :
    leadingMinus (sign negative ++ first :: rest) = (negative, first :: rest) := by
  have signed := leadingMinus_signed noMinus (negative = true) rest
  rwa [Bool.decide_eq_true] at signed

theorem writtenWith_sign
    {marks : List Char}
    (isMark : '-' ∈ marks)
    (negative : Bool) : WrittenWith marks (sign negative) := by
  cases negative
  · exact .nil marks
  · exact (WrittenWith.nil marks).cons isMark

/-- The number with its sign. -/
def signed (negative : Bool) (size : Nat) : Int :=
  if negative then -(size : Int) else size

/-! ## Numerals -/

/-- A text of one or more ASCII digits. -/
structure Numeral where
  digits : List Char
  isNumeral : Text.isNumeral digits = true

namespace Numeral

/-- The number that the digits denote in decimal. -/
def number (numeral : Numeral) : Nat :=
  numeralValue numeral.digits

theorem readNumeral?_digits (numeral : Numeral) :
    readNumeral? numeral.digits = some numeral.number :=
  if_pos numeral.isNumeral

theorem writtenWith (numeral : Numeral) (marks : List Char) : WrittenWith marks numeral.digits :=
  writtenWith_of_readNumeral? numeral.readNumeral?_digits marks

theorem not_mem
    {character : Char}
    (noDigit : character.isDigit = false)
    (numeral : Numeral) : character ∉ numeral.digits :=
  (numeral.writtenWith []).not_mem List.not_mem_nil noDigit

theorem digits_ne_nil (numeral : Numeral) : numeral.digits ≠ [] :=
  (isNumeral_iff.mp numeral.isNumeral).1

/-- A numeral starts with a digit. -/
theorem exists_cons (numeral : Numeral) :
    ∃ first rest, numeral.digits = first :: rest ∧ first.isDigit = true := by
  obtain ⟨first, rest, shape⟩ := List.exists_cons_of_ne_nil numeral.digits_ne_nil
  have digits := (isNumeral_iff.mp numeral.isNumeral).2
  rw [shape] at digits
  exact ⟨first, rest, shape, digits first List.mem_cons_self⟩

/-- A numeral denotes a number below the power of ten of as many digits. -/
theorem number_lt (numeral : Numeral) : numeral.number < 10 ^ numeral.digits.length :=
  numeralValue_lt (isNumeral_iff.mp numeral.isNumeral).2

/-- The numeral of a number in decimal. -/
def ofNumber (number : Nat) : Numeral where
  digits := Text.numeral number
  isNumeral := isNumeral_of_readNumeral? (readNumeral?_numeral number)

@[simp] theorem number_ofNumber (number : Nat) : (ofNumber number).number = number :=
  numeralValue_numeral number

/-- The numeral of a number in decimal, filled with zeros to a width. -/
def padded (width number : Nat) : Numeral where
  digits := paddedNumeral width number
  isNumeral := isNumeral_of_readNumeral? (readNumeral?_paddedNumeral width number)

@[simp] theorem number_padded (width number : Nat) : (padded width number).number = number :=
  Option.some.inj ((padded width number).readNumeral?_digits.symm.trans
    (readNumeral?_paddedNumeral width number))

end Numeral

/-- A field is read exactly when it is a numeral within the limit. -/
theorem readField_eq_ok_iff
    {name : String}
    {limit number : Nat}
    {text : List Char} :
    readField name limit text = .ok number ↔
      ∃ numeral : Numeral, numeral.digits = text ∧ numeral.number = number ∧ number ≤ limit := by
  constructor
  · intro isRead
    unfold readField readNumeral? at isRead
    split at isRead
    · cases isRead
    · rename_i value denotes
      split at denotes
      · rename_i isNumeral
        split at isRead
        · rename_i within
          cases denotes
          cases isRead
          exact ⟨⟨text, isNumeral⟩, rfl, rfl, within⟩
        · cases isRead
      · cases denotes
  · rintro ⟨numeral, rfl, rfl, within⟩
    exact readField_eq_ok numeral.readNumeral?_digits within name

/-! ## Units -/

/-- A numeral with the letter of its unit, if it is there. -/
def unit (letter : Char) : Option Numeral → List Char
  | none => []
  | some numeral => numeral.digits ++ [letter]

/-- The number of a unit; one that is not there counts nothing. -/
def unitNumber : Option Numeral → Nat
  | none => 0
  | some numeral => numeral.number

@[simp] theorem unit_none (letter : Char) : unit letter none = [] := rfl

@[simp] theorem unit_some (letter : Char) (numeral : Numeral) :
    unit letter (some numeral) = numeral.digits ++ [letter] := rfl

@[simp] theorem unitNumber_none : unitNumber none = 0 := rfl

@[simp] theorem unitNumber_some (numeral : Numeral) :
    unitNumber (some numeral) = numeral.number := rfl

theorem writtenWith_unit
    {marks : List Char}
    {letter : Char}
    (isMark : letter ∈ marks)
    (given : Option Numeral) : WrittenWith marks (unit letter given) := by
  cases given with
  | none => exact .nil marks
  | some numeral => exact (numeral.writtenWith marks).append ((WrittenWith.nil marks).cons isMark)

/-- A unit that stands first in a text is cut off at its letter. -/
theorem cutAt_unit_append
    {letter : Char}
    (noDigit : letter.isDigit = false)
    (numeral : Numeral)
    (rest : List Char) :
    cutAt letter (unit letter (some numeral) ++ rest) = some (numeral.digits, rest) := by
  rw [unit_some, List.append_assoc]
  exact cutAt_append (numeral.not_mem noDigit) rest

/-- A number of units, left out when it is zero. -/
def unitOf (number : Nat) : Option Numeral :=
  if number = 0 then none else some (.ofNumber number)

theorem unit_unitOf (letter : Char) (number : Nat) :
    unit letter (unitOf number) = writeUnit number letter := by
  unfold unitOf writeUnit
  split <;> rfl

@[simp] theorem unitNumber_unitOf (number : Nat) : unitNumber (unitOf number) = number := by
  unfold unitOf
  split
  · rename_i isZero
    exact isZero.symm
  · exact Numeral.number_ofNumber number

@[simp] theorem isSome_unitOf {number : Nat} : (unitOf number).isSome ↔ number ≠ 0 := by
  unfold unitOf
  split <;> simp_all

/-! ## Fractions of a second -/

/-- The nanoseconds of a fraction are its first nine decimal places. -/
theorem fractionNanoseconds_eq
    {digits : List Char}
    (allDigits : ∀ character ∈ digits, character.isDigit = true) :
    fractionNanoseconds digits = numeralValue digits * 10 ^ 9 / 10 ^ digits.length := by
  rcases le_total digits.length 9 with short | long
  · have filled : fractionNanoseconds digits = numeralValue digits * 10 ^ (9 - digits.length) := by
      rw [fractionNanoseconds, List.take_of_length_le short, List.rightpad, numeralValue,
        Nat.ofDigitChars_append, Nat.ofDigitChars_replicate_zero, Nat.mul_comm]
      rfl
    have places : 10 ^ 9 = 10 ^ (9 - digits.length) * 10 ^ digits.length := by
      rw [← Nat.pow_add, Nat.sub_add_cancel short]
    rw [filled, places, ← Nat.mul_assoc, Nat.mul_div_cancel _ (Nat.pow_pos (by decide))]
  · have kept : (digits.take 9).length = 9 := List.length_take_of_le long
    have cut : fractionNanoseconds digits = numeralValue (digits.take 9) := by
      rw [fractionNanoseconds, List.rightpad, kept]
      simp
    have dropped := numeralValue_lt fun character member =>
      allDigits character (List.mem_of_mem_drop (i := 9) member)
    have whole : numeralValue digits =
        10 ^ (digits.length - 9) * numeralValue (digits.take 9) + numeralValue (digits.drop 9) := by
      conv_lhs => rw [← List.take_append_drop 9 digits]
      rw [numeralValue, Nat.ofDigitChars_append, Nat.ofDigitChars_eq_ofDigitChars_zero,
        List.length_drop]
      rfl
    have places : 10 ^ digits.length = 10 ^ (digits.length - 9) * 10 ^ 9 := by
      rw [← Nat.pow_add, Nat.sub_add_cancel long]
    rw [List.length_drop] at dropped
    rw [cut, places, Nat.mul_div_mul_right _ _ (by decide), whole,
      Nat.mul_add_div (Nat.pow_pos (by decide)), Nat.div_eq_of_lt dropped, Nat.add_zero]

end Text
end PolicyDecision
