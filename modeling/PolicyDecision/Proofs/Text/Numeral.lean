import Mathlib.Algebra.Group.Nat.Defs
import Mathlib.Data.List.DropRight
import PolicyDecision.Text.Blank
import PolicyDecision.Text.Field

/-!
# Written numbers

A number that is written in decimal is read back, with and without zeros in
front and as a fraction of a second. Which characters a text is written with
decides where it can be cut and whether it belongs to ASCII. A reading in stages
succeeds stage by stage.
-/

namespace PolicyDecision

/-- The second stage of a computation works on what the first one gave. -/
theorem ok_bind
    {ε α β : Type}
    (value : α)
    (next : α → Except ε β) : Except.ok value >>= next = next value := rfl

/-- A computation in two stages succeeds only when both stages do. -/
theorem exists_of_bind_eq_ok
    {ε α β : Type}
    {first : Except ε α}
    {next : α → Except ε β}
    {result : β}
    (succeeds : first >>= next = .ok result) :
    ∃ value, first = .ok value ∧ next value = .ok result := by
  cases first with
  | error fault => cases succeeds
  | ok value => exact ⟨value, rfl, succeeds⟩

theorem exists_of_map_eq_ok
    {ε α β : Type}
    {first : Except ε α}
    {change : α → β}
    {result : β}
    (succeeds : first.map change = .ok result) :
    ∃ value, first = .ok value ∧ change value = result := by
  cases first with
  | error fault => cases succeeds
  | ok value => exact ⟨value, rfl, Except.ok.inj succeeds⟩

/-- A computation in two stages succeeds exactly when both stages do. -/
theorem bind_eq_ok_iff
    {ε α β : Type}
    {first : Except ε α}
    {next : α → Except ε β}
    {result : β} :
    first >>= next = .ok result ↔ ∃ value, first = .ok value ∧ next value = .ok result := by
  refine ⟨exists_of_bind_eq_ok, ?_⟩
  rintro ⟨value, rfl, succeeds⟩
  exact succeeds

namespace Text

/-! ## Characters of a text -/

/-- The text holds ASCII digits and the given marks only. -/
def WrittenWith (marks text : List Char) : Prop :=
  ∀ character ∈ text, character.isDigit = true ∨ character ∈ marks

namespace WrittenWith

variable {marks text rest : List Char}

theorem nil (marks : List Char) : WrittenWith marks [] := by
  intro character member
  cases member

theorem cons
    {mark : Char}
    (isMark : mark ∈ marks)
    (written : WrittenWith marks text) : WrittenWith marks (mark :: text) :=
  List.forall_mem_cons.mpr ⟨.inr isMark, written⟩

theorem append
    (first : WrittenWith marks text)
    (second : WrittenWith marks rest) : WrittenWith marks (text ++ rest) :=
  List.forall_mem_append.mpr ⟨first, second⟩

theorem mono
    {more : List Char}
    (written : WrittenWith marks text)
    (contained : marks ⊆ more) : WrittenWith more text :=
  fun character member => (written character member).imp_right fun isMark => contained isMark

/-- A character that is neither a digit nor a mark does not occur. -/
theorem not_mem
    {character : Char}
    (written : WrittenWith marks text)
    (noMark : character ∉ marks)
    (noDigit : character.isDigit = false) : character ∉ text := by
  intro member
  rcases written character member with isDigit | isMark
  · rw [noDigit] at isDigit
    cases isDigit
  · exact noMark isMark

end WrittenWith

theorem toNat_of_isDigit
    {character : Char} (digit : character.isDigit = true) :
    48 ≤ character.toNat ∧ character.toNat ≤ 57 := by
  simpa [Char.isDigit, UInt32.le_iff_toNat_le] using digit

/-- Digits and marks of ASCII make a text of ASCII. -/
theorem WrittenWith.isAscii
    {marks text : List Char}
    (written : WrittenWith marks text)
    (asciiMarks : Text.isAscii marks = true) : Text.isAscii text = true := by
  refine List.all_eq_true.mpr fun character member => ?_
  rcases written character member with digit | isMark
  · have := toNat_of_isDigit digit
    exact decide_eq_true (by omega)
  · exact List.all_eq_true.mp asciiMarks character isMark

/-! ## Cuts -/

/-- A text is cut at a separator that does not occur before. -/
theorem cutAt_append
    {separator : Char}
    {before : List Char}
    (absent : separator ∉ before)
    (after : List Char) :
    cutAt separator (before ++ separator :: after) = some (before, after) := by
  induction before with
  | nil => simp [cutAt]
  | cons character rest inductionHypothesis =>
      obtain ⟨differs, restAbsent⟩ := not_or.mp (mt List.mem_cons.mpr absent)
      simp only [List.cons_append, cutAt, if_neg (Ne.symm differs),
        inductionHypothesis restAbsent, Option.map_some]

/-- A text without the separator is not cut. -/
theorem cutAt_eq_none
    {separator : Char}
    {text : List Char}
    (absent : separator ∉ text) : cutAt separator text = none := by
  induction text with
  | nil => rfl
  | cons character rest inductionHypothesis =>
      obtain ⟨differs, restAbsent⟩ := not_or.mp (mt List.mem_cons.mpr absent)
      simp only [cutAt, if_neg (Ne.symm differs), inductionHypothesis restAbsent,
        Option.map_none]

theorem withoutLast?_concat (text : List Char) (last : Char) :
    withoutLast? last (text ++ [last]) = some text := by
  simp [withoutLast?]

/-- A leading minus is told apart from what follows it. -/
theorem leadingMinus_signed
    {first : Char}
    (noMinus : first ≠ '-')
    (negative : Prop) [Decidable negative]
    (rest : List Char) :
    leadingMinus ((if negative then ['-'] else []) ++ first :: rest) =
      (decide negative, first :: rest) := by
  by_cases isNegative : negative
  · simp [isNegative, leadingMinus]
  · simp only [isNegative, if_false, List.nil_append, decide_false]
    unfold leadingMinus
    split
    · rename_i starts
      exact absurd (List.cons.inj starts).1 noMinus
    · rfl

/-- A sign and a magnitude make a number. -/
theorem signed_natAbs (number : Int) :
    (if number < 0 then -(number.natAbs : Int) else number.natAbs) = number := by
  split <;> omega

/-- A text without blanks is not trimmed. -/
theorem trim_of_noBlank
    {text : List Char}
    (noBlank : ∀ character ∈ text, isBlank character = false) : trim text = text := by
  have kept {characters : List Char} (within : ∀ character ∈ characters, character ∈ text) :
      characters.dropWhile isBlank = characters := by
    cases characters with
    | nil => rfl
    | cons first rest =>
        exact List.dropWhile_cons_of_neg (by simp [noBlank first (within first List.mem_cons_self)])
  rw [trim, trimWhere, kept fun _ member => member,
    kept fun _ member => List.mem_reverse.mp member, List.reverse_reverse]

/-! ## Numerals -/

theorem isNumeral_iff {text : List Char} :
    isNumeral text = true ↔ text ≠ [] ∧ ∀ character ∈ text, character.isDigit = true := by
  simp [isNumeral]

/-- What is read as a number is a numeral. -/
theorem isNumeral_of_readNumeral?
    {text : List Char} {number : Nat}
    (denotes : readNumeral? text = some number) : isNumeral text = true := by
  unfold readNumeral? at denotes
  split at denotes
  · assumption
  · cases denotes

/-- What is read as a number is written with digits alone. -/
theorem writtenWith_of_readNumeral?
    {text : List Char} {number : Nat}
    (denotes : readNumeral? text = some number) (marks : List Char) :
    WrittenWith marks text := by
  have digits := (isNumeral_iff.mp (isNumeral_of_readNumeral? denotes)).2
  exact fun character member => .inl (digits character member)

/-- Zeros in front do not change the number that a text denotes. -/
theorem readNumeral?_zeros_append (zeros number : Nat) :
    readNumeral? (List.replicate zeros '0' ++ numeral number) = some number := by
  have isNumber : isNumeral (List.replicate zeros '0' ++ numeral number) = true := by
    refine isNumeral_iff.mpr ⟨fun empty => ?_, List.forall_mem_append.mpr ⟨?_, ?_⟩⟩
    · exact Nat.toDigits_ne_nil (List.append_eq_nil_iff.mp empty).2
    · intro character member
      rw [List.eq_of_mem_replicate member]
      decide
    · exact fun character member => Nat.isDigit_of_mem_toDigits (by decide) (by decide) member
  have value : numeralValue (List.replicate zeros '0' ++ numeral number) = number := by
    rw [numeralValue, Nat.ofDigitChars_append, Nat.ofDigitChars_replicate_zero, Nat.mul_zero]
    exact numeralValue_numeral number
  rw [readNumeral?, if_pos isNumber, value]

@[simp] theorem readNumeral?_numeral (number : Nat) :
    readNumeral? (numeral number) = some number :=
  readNumeral?_zeros_append 0 number

@[simp] theorem readNumeral?_paddedNumeral (width number : Nat) :
    readNumeral? (paddedNumeral width number) = some number :=
  readNumeral?_zeros_append _ number

theorem writtenWith_numeral (marks : List Char) (number : Nat) :
    WrittenWith marks (numeral number) :=
  writtenWith_of_readNumeral? (readNumeral?_numeral number) marks

theorem writtenWith_paddedNumeral (marks : List Char) (width number : Nat) :
    WrittenWith marks (paddedNumeral width number) :=
  writtenWith_of_readNumeral? (readNumeral?_paddedNumeral width number) marks

theorem length_paddedNumeral
    {width number : Nat}
    (positive : 0 < width)
    (fits : number < 10 ^ width) : (paddedNumeral width number).length = width := by
  have short : (numeral number).length ≤ width :=
    (Nat.length_toDigits_le_iff (by decide) positive).mpr fits
  rw [paddedNumeral, List.length_leftpad, Nat.max_eq_left short]

theorem le_length_paddedNumeral (width number : Nat) :
    width ≤ (paddedNumeral width number).length := by
  rw [paddedNumeral, List.length_leftpad]
  exact Nat.le_max_left _ _

/-- Two digits, filled with a zero in front of a number below ten. -/
theorem zero_append_numeral
    {number : Nat}
    (small : number < 100) :
    (if number < 10 then ['0'] else []) ++ numeral number = paddedNumeral 2 number := by
  rw [paddedNumeral, List.leftpad]
  by_cases oneDigit : number < 10
  · have digits : numeral number = [number.digitChar] := Nat.toDigits_of_lt_base oneDigit
    rw [if_pos oneDigit, digits]
    rfl
  · have short : (numeral number).length ≤ 2 :=
      (Nat.length_toDigits_le_iff (by decide) (by decide)).mpr small
    have long : ¬(numeral number).length ≤ 1 := fun fits =>
      oneDigit ((Nat.length_toDigits_le_iff (by decide) (by decide)).mp fits)
    have noZero : 2 - (numeral number).length = 0 := by omega
    rw [if_neg oneDigit, noZero, List.replicate_zero]

/-- A field that denotes a number within its limit is read as that number. -/
theorem readField_eq_ok
    {text : List Char}
    {number limit : Nat}
    (denotes : readNumeral? text = some number)
    (within : number ≤ limit)
    (name : String) : readField name limit text = .ok number := by
  simp only [readField, denotes, if_pos within]

/-- A number written with some digits is less than the power of ten of as many. -/
theorem numeralValue_lt
    {text : List Char}
    (digits : ∀ character ∈ text, character.isDigit = true) :
    numeralValue text < 10 ^ text.length := by
  unfold numeralValue
  induction text with
  | nil => simp
  | cons character rest inductionHypothesis =>
      obtain ⟨isDigit, restDigits⟩ := List.forall_mem_cons.mp digits
      have bounds := toNat_of_isDigit isDigit
      have restBound := inductionHypothesis restDigits
      have leading : (character.toNat - '0'.toNat) ≤ 9 := by
        change character.toNat - 48 ≤ 9
        omega
      rw [Nat.ofDigitChars_cons, Nat.ofDigitChars_eq_ofDigitChars_zero, List.length_cons,
        Nat.pow_succ, Nat.mul_zero, Nat.zero_add]
      have scaled := Nat.mul_le_mul_left (10 ^ rest.length) leading
      omega

/-! ## Fractions of a second -/

/-- The digits of a fraction of a second without trailing zeros. -/
def fractionDigits (nanoseconds : Nat) : List Char :=
  (paddedNumeral 9 nanoseconds).rdropWhile (· = '0')

theorem writeSeconds_of_pos
    {nanoseconds : Nat}
    (positive : 0 < nanoseconds)
    (seconds : Nat) :
    writeSeconds seconds nanoseconds =
      numeral seconds ++ '.' :: fractionDigits nanoseconds := by
  rw [writeSeconds, if_neg (Nat.ne_of_gt positive)]
  rfl

/-- Zeros that were dropped at the end are filled in again. -/
theorem rightpad_rdropWhile
    {α : Type}
    [DecidableEq α]
    (filler : α)
    (items : List α) :
    (items.rdropWhile (· = filler)).rightpad items.length filler = items := by
  have parts := List.rdropWhile_append_rtakeWhile (p := (· = filler)) (l := items)
  have dropped : items.rtakeWhile (· = filler) =
      List.replicate (items.rtakeWhile (· = filler)).length filler :=
    List.eq_replicate_iff.mpr ⟨rfl, fun item member => by
      simpa using List.mem_rtakeWhile_imp member⟩
  have lengths := congrArg List.length parts
  rw [List.length_append] at lengths
  have missing : items.length - (items.rdropWhile (· = filler)).length =
      (items.rtakeWhile (· = filler)).length := by
    omega
  rw [List.rightpad, missing, ← dropped, parts]

/-- The digits of a fraction denote its nanoseconds. -/
theorem fractionNanoseconds_fractionDigits
    {nanoseconds : Nat}
    (small : nanoseconds < 1000000000) :
    fractionNanoseconds (fractionDigits nanoseconds) = nanoseconds := by
  have width : (paddedNumeral 9 nanoseconds).length = 9 :=
    length_paddedNumeral (by decide) small
  have short : (fractionDigits nanoseconds).length ≤ 9 :=
    width ▸ (List.rdropWhile_prefix _ _).length_le
  have filled : (fractionDigits nanoseconds).rightpad 9 '0' = paddedNumeral 9 nanoseconds := by
    have refilled := rightpad_rdropWhile '0' (paddedNumeral 9 nanoseconds)
    rwa [width] at refilled
  have denotes := readNumeral?_paddedNumeral 9 nanoseconds
  rw [fractionNanoseconds, List.take_of_length_le short, filled]
  rw [readNumeral?] at denotes
  split at denotes
  · exact Option.some.inj denotes
  · cases denotes

theorem writtenWith_fractionDigits (marks : List Char) (nanoseconds : Nat) :
    WrittenWith marks (fractionDigits nanoseconds) :=
  fun character member =>
    writtenWith_paddedNumeral marks 9 nanoseconds character
      ((List.rdropWhile_prefix _ _).subset member)

theorem fractionDigits_isDigit (nanoseconds : Nat) :
    ∀ character ∈ fractionDigits nanoseconds, character.isDigit = true := by
  intro character member
  simpa using writtenWith_fractionDigits [] nanoseconds character member

theorem fractionDigits_ne_nil
    {nanoseconds : Nat}
    (positive : 0 < nanoseconds)
    (small : nanoseconds < 1000000000) : fractionDigits nanoseconds ≠ [] := by
  intro empty
  have value := fractionNanoseconds_fractionDigits small
  rw [empty] at value
  exact Nat.ne_of_gt positive value.symm

end Text
end PolicyDecision
