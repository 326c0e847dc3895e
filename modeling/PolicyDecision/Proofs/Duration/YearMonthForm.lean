import PolicyDecision.Duration.YearMonth
import PolicyDecision.Proofs.Text.Field

/-!
# Forms of year-month durations

The texts of year-month durations are those of the forms `[-]P[nY][nM]` with at least one
component. Reading succeeds exactly on the forms whose sum fits sixty-four bits, and gives
their signed sum.
-/

namespace PolicyDecision

open Text (Numeral unit unitNumber sign signed)

/-- A text `[-]P[nY][nM]` with a component. -/
structure YearMonthForm where
  negative : Bool
  years : Option Numeral
  months : Option Numeral
  hasComponent : years.isSome ∨ months.isSome

namespace YearMonthForm

/-- The text of the form. -/
def text (form : YearMonthForm) : List Char :=
  sign form.negative ++ 'P' :: (unit 'Y' form.years ++ unit 'M' form.months)

/-- The months of the form without its sign. -/
def size (form : YearMonthForm) : Nat :=
  unitNumber form.years * 12 + unitNumber form.months

/-- The sum of the form fits sixty-four bits. -/
def InRange (form : YearMonthForm) : Prop :=
  form.size ≤ 9223372036854775807

/-- The duration has the months of the form with its sign. -/
def Denotes (form : YearMonthForm) (duration : YearMonthDuration) : Prop :=
  duration.months.toInt = signed form.negative form.size

theorem exists_denotes
    {form : YearMonthForm}
    (inRange : form.InRange) : ∃ duration, form.Denotes duration := by
  unfold InRange at inRange
  refine ⟨⟨⟨signed form.negative form.size, ?_, ?_⟩⟩, rfl⟩
  all_goals
    simp only [signed, integerMinimum, integerMaximum]
    split <;> omega

theorem isAscii_text (form : YearMonthForm) : Text.isAscii form.text = true := by
  have written : Text.WrittenWith ['-', 'P', 'Y', 'M'] form.text :=
    (Text.writtenWith_sign (by decide) _).append (.cons (by decide)
      ((Text.writtenWith_unit (by decide) _).append (Text.writtenWith_unit (by decide) _)))
  exact written.isAscii rfl

end YearMonthForm

namespace YearMonthDuration

/-- A component is read exactly when it is left out, or is a numeral with its letter that
keeps the months within the limit. -/
theorem readUnit_eq_ok_iff
    {letter : Char}
    {factor : Nat}
    {sofar counted : Nat × Bool}
    {text rest : List Char}
    (noDigit : letter.isDigit = false)
    (positive : 0 < factor)
    (within : sofar.1 ≤ componentLimit) :
    readUnit letter factor sofar text = .ok (counted, rest) ↔
      ∃ given : Option Numeral,
        text = unit letter given ++ rest ∧ (given = none → letter ∉ rest) ∧
        unitNumber given * factor + sofar.1 ≤ componentLimit ∧
        counted = (unitNumber given * factor + sofar.1, sofar.2 || given.isSome) := by
  constructor
  · intro isRead
    unfold readUnit at isRead
    split at isRead
    · rename_i uncut
      cases isRead
      exact ⟨none, rfl, fun _ => Text.cutAt_eq_none_iff.mp uncut, by simpa using within, by simp⟩
    · rename_i digits after cut
      split at isRead
      · cases isRead
      · rename_i number field
        split at isRead
        · rename_i fits
          obtain ⟨numeral, rfl, rfl, -⟩ := Text.readField_eq_ok_iff.mp field
          cases isRead
          refine ⟨some numeral, ?_, by simp, fits, by simp⟩
          simpa using (Text.cutAt_eq_some_iff.mp cut).1
        · cases isRead
  · rintro ⟨given, rfl, absent, fits, rfl⟩
    cases given with
    | none =>
        rw [Text.unit_none, List.nil_append, readUnit, Text.cutAt_eq_none (absent rfl)]
        simp
    | some numeral =>
        have scaled := Nat.le_mul_of_pos_right numeral.number positive
        rw [Text.unitNumber_some] at fits
        have field := Text.readField_eq_ok numeral.readNumeral?_digits
          (show numeral.number ≤ componentLimit by omega) "duration component"
        rw [readUnit, Text.cutAt_unit_append noDigit]
        simp [field, fits]

/-- What is read as a year-month duration is the text of a form within range. -/
theorem exists_form_of_read
    {text : List Char}
    {duration : YearMonthDuration}
    (isRead : read text = .ok duration) :
    ∃ form : YearMonthForm, (form.text = text ∧ form.InRange) ∧ form.Denotes duration := by
  simp only [read] at isRead
  split at isRead
  · cases isRead
  split at isRead
  case h_2 => cases isRead
  rename_i components body
  obtain ⟨⟨afterYears, monthText⟩, yearsRead, afterYearsRead⟩ := exists_of_bind_eq_ok isRead
  obtain ⟨⟨⟨size, found⟩, rest⟩, monthsRead, completed⟩ := exists_of_bind_eq_ok afterYearsRead
  obtain ⟨years, yearText, -, yearsFit, yearsCounted⟩ :=
    (readUnit_eq_ok_iff rfl (by decide) (Nat.zero_le _)).mp yearsRead
  obtain ⟨months, monthsText, -, monthsFit, counted⟩ :=
    (readUnit_eq_ok_iff rfl (by decide) (by rw [yearsCounted]; exact yearsFit)).mp monthsRead
  simp only [yearsCounted, Prod.mk.injEq, Bool.false_or] at counted monthsFit
  obtain ⟨rfl, rfl⟩ := counted
  split at completed
  · cases completed
  rename_i whole
  simp only [Bool.or_eq_true, Bool.not_eq_true', not_or, Bool.not_eq_false,
    List.isEmpty_iff] at whole
  obtain ⟨hasComponent, rfl⟩ := whole
  split at completed
  case h_2 => cases completed
  rename_i total narrowed
  cases completed
  refine ⟨⟨(Text.leadingMinus text).1, years, months, hasComponent⟩, ⟨?_, ?_⟩, ?_⟩
  · have parts := Text.sign_append_leadingMinus text
    rw [body, yearText, show monthText = _ from monthsText, List.append_nil] at parts
    exact parts
  · simp only [componentLimit] at monthsFit
    simp only [YearMonthForm.InRange, YearMonthForm.size]
    omega
  · have sum : unitNumber months * 1 + (unitNumber years * 12 + 0) =
        unitNumber years * 12 + unitNumber months := by
      omega
    rw [sum] at narrowed
    exact Integer.toInt_of_ofInt? narrowed

/-- The text of a form within range is read as what the form denotes. -/
theorem read_text
    {form : YearMonthForm}
    {duration : YearMonthDuration}
    (inRange : form.InRange)
    (denotes : form.Denotes duration) : read form.text = .ok duration := by
  simp only [YearMonthForm.InRange, YearMonthForm.size] at inRange
  have noYears : form.years = none → 'Y' ∉ unit 'M' form.months := fun _ =>
    (Text.writtenWith_unit List.mem_cons_self _).not_mem (show 'Y' ∉ ['M'] by decide) rfl
  have yearsRead : readUnit 'Y' 12 (0, false) (unit 'Y' form.years ++ unit 'M' form.months) =
      .ok ((unitNumber form.years * 12, form.years.isSome), unit 'M' form.months) :=
    (readUnit_eq_ok_iff rfl (by decide) (Nat.zero_le _)).mpr
      ⟨form.years, rfl, noYears, by simp only [componentLimit]; omega, by simp⟩
  have monthsRead :
      readUnit 'M' 1 (unitNumber form.years * 12, form.years.isSome) (unit 'M' form.months) =
        .ok ((form.size, form.years.isSome || form.months.isSome), []) := by
    refine (readUnit_eq_ok_iff rfl (by decide) (by simp only [componentLimit]; omega)).mpr
      ⟨form.months, (List.append_nil _).symm, fun _ => List.not_mem_nil,
        by simp only [componentLimit]; omega, ?_⟩
    simp only [YearMonthForm.size, Prod.mk.injEq, and_true]
    omega
  have hasComponent : (form.years.isSome || form.months.isSome) = true :=
    Bool.or_eq_true_iff.mpr form.hasComponent
  have total : Integer.ofInt? (signed form.negative form.size) = some duration.months := by
    rw [← show duration.months.toInt = _ from denotes, Integer.ofInt?_toInt]
  rw [read, form.isAscii_text]
  simp only [YearMonthForm.text, Text.leadingMinus_sign_append (show 'P' ≠ '-' by decide),
    yearsRead, monthsRead, hasComponent, bind, Except.bind, Bool.not_true, Bool.false_eq_true,
    if_false, List.isEmpty_nil, Bool.or_self]
  rw [signed] at total
  rw [total]

/-- Reading a year-month duration succeeds exactly on the forms within range. -/
theorem readsExactly (text : List Char) :
    ReadsExactly (read text)
      (fun form : YearMonthForm => form.text = text ∧ form.InRange) YearMonthForm.Denotes :=
  .ofDenotes (fun _ accepted => YearMonthForm.exists_denotes accepted.2) fun _ =>
    ⟨exists_form_of_read, by
      rintro ⟨form, ⟨rfl, inRange⟩, denotes⟩
      exact read_text inRange denotes⟩

end YearMonthDuration

end PolicyDecision
