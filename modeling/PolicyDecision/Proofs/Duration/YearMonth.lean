import PolicyDecision.Proofs.Duration.YearMonthForm

/-!
# Written year-month durations

The texts of year-month durations denote magnitudes that fit sixty-four bits, so
the durations they write are all but the longest backward one. The canonical
text of each of these is read as the duration that it was written from.
-/

namespace PolicyDecision
namespace YearMonthDuration

/-- The duration has one of equal length in the other direction. -/
def IsReversible (duration : YearMonthDuration) : Prop :=
  duration.months.toInt ≠ integerMinimum

/-- The opposite of a reversible duration has the opposite number of months. -/
theorem IsReversible.months_negate
    {duration : YearMonthDuration}
    (reversible : duration.IsReversible) :
    duration.negate.months.toInt = -duration.months.toInt := by
  have least := duration.months.minimum_le
  have above : integerMinimum < duration.months.toInt := by
    unfold IsReversible at reversible
    omega
  rw [negate, Integer.negateSaturating, dif_pos above]

/-! ## Canonical texts -/

/-- The canonical text of a duration other than the longest backward one is read
as that duration. -/
theorem read_write
    {duration : YearMonthDuration}
    (reversible : duration.IsReversible) : read duration.write = .ok duration := by
  by_cases isZero : duration.months.toInt = 0
  · obtain ⟨months⟩ := duration
    cases (Integer.ext isZero : months = .zero)
    rfl
  · have lower := duration.months.minimum_le
    have upper := duration.months.le_maximum
    simp only [IsReversible, integerMinimum, integerMaximum] at reversible lower upper
    let form : YearMonthForm :=
      { negative := decide (duration.months.toInt < 0)
        years := Text.unitOf (duration.months.toInt.natAbs / 12)
        months := Text.unitOf (duration.months.toInt.natAbs % 12)
        hasComponent := by
          rw [Text.isSome_unitOf, Text.isSome_unitOf]
          omega }
    have size : form.size = duration.months.toInt.natAbs := by
      simp only [YearMonthForm.size, form, Text.unitNumber_unitOf]
      omega
    have written : form.text = duration.write := by
      simp only [YearMonthForm.text, form, write, if_neg isZero, Text.sign, Text.unit_unitOf,
        decide_eq_true_eq]
    have inRange : form.InRange := by
      rw [YearMonthForm.InRange, size]
      omega
    have denotes : form.Denotes duration := by
      simp only [YearMonthForm.Denotes, size, Text.signed, form, decide_eq_true_eq,
        Text.signed_natAbs]
    rw [← written]
    exact read_text inRange denotes

/-- What a text denotes is never the longest backward duration. -/
theorem isReversible_of_read
    {text : List Char}
    {duration : YearMonthDuration}
    (denotes : read text = .ok duration) : duration.IsReversible := by
  obtain ⟨form, ⟨-, inRange⟩, months⟩ := exists_form_of_read denotes
  simp only [YearMonthForm.InRange] at inRange
  rw [IsReversible, show duration.months.toInt = _ from months, Text.signed, integerMinimum]
  split <;> omega

/-! ## Durations of years and months -/

/-- Years and months make the longest backward duration only without a sign of
their own. -/
theorem isReversible_iff_of_ofYearsAndMonths?
    {negative : Bool}
    {years months : Integer}
    {duration : YearMonthDuration}
    (made : ofYearsAndMonths? negative years months = some duration) :
    duration.IsReversible ↔
      negative = true ∨ years.toInt * 12 + months.toInt ≠ integerMinimum := by
  simp only [ofYearsAndMonths?, Option.bind_eq_bind, Option.bind_eq_some_iff] at made
  obtain ⟨yearMonths, yearsFit, total, totalFits, made⟩ := made
  have yearsValue := Integer.toInt_of_ofInt? yearsFit
  have totalValue := Integer.toInt_of_ofInt? totalFits
  have upper := total.le_maximum
  simp only [integerMaximum] at upper
  cases negative with
  | true =>
      simp only [if_true, Option.bind_eq_some_iff] at made
      obtain ⟨signed, signedFits, made⟩ := made
      have signedValue := Integer.toInt_of_ofInt? signedFits
      cases made
      simp only [IsReversible, integerMinimum, true_or, iff_true]
      omega
  | false =>
      cases made
      simp only [IsReversible, Bool.false_eq_true, false_or, totalValue, yearsValue]

end YearMonthDuration
end PolicyDecision
