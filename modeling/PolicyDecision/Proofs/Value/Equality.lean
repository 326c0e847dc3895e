import PolicyDecision.Function.Argument
import PolicyDecision.Proofs.Calendar.DayNumber
import PolicyDecision.Proofs.Obligation

/-!
# Equality of values

Two values are equal when they have the same normal form, in which zero is
positive; the double that is not a number is equal to nothing. Equality
functions compare date-times as instants: by universal time when both have an
offset, and by their local fields otherwise. So understood, equality is passed on
from each value to the next, except where exactly two of three date-times have an
offset and their offsets differ.
-/

namespace PolicyDecision

/-! ## Structural equality -/

namespace Double

/-- The double with a positive zero in place of a negative one. -/
def normal : Double → Double
  | .notANumber => .notANumber
  | .signed negative rank => .signed (negative && decide (rank.val ≠ 0)) rank

theorem beq_iff {first second : Double} :
    (first == second) = true ↔ first ≠ .notANumber ∧ first.normal = second.normal := by
  change same first second = true ↔ _
  cases first with
  | notANumber => simp [same, position?]
  | signed negative rank =>
      cases second with
      | notANumber => simp [same, position?, normal]
      | signed otherNegative otherRank =>
          simp only [same, position?, normal, beq_iff_eq, signed.injEq, Fin.ext_iff, ne_eq,
            reduceCtorEq, not_false_eq_true, true_and]
          generalize rank.val = number, otherRank.val = otherNumber
          cases negative <;> cases otherNegative <;> simp <;> omega

end Double

namespace Value

/-- The value with a positive zero in place of a negative one. -/
def normal : Value → Value
  | .double number => .double number.normal
  | other => other

@[simp] theorem datatype_normal (value : Value) : value.normal.datatype = value.datatype := by
  cases value <;> rfl

@[simp] theorem isComparable_normal (value : Value) :
    value.normal.IsComparable ↔ value.IsComparable := by
  cases value with
  | double number => cases number <;> simp [normal, Double.normal, IsComparable]
  | _ => rfl

theorem beq_iff {first second : Value} :
    (first == second) = true ↔ first.IsComparable ∧ first.normal = second.normal := by
  change same first second = true ↔ _
  cases first <;> cases second <;> simp [same, IsComparable, normal, Double.beq_iff]

theorem isComparable_congr
    {first second : Value}
    (alike : first.normal = second.normal) : first.IsComparable ↔ second.IsComparable := by
  rw [← isComparable_normal first, alike, isComparable_normal second]

theorem beq_comm (first second : Value) : (first == second) = (second == first) := by
  rw [Bool.eq_iff_iff, beq_iff, beq_iff]
  constructor <;>
    exact fun equal => ⟨(isComparable_congr equal.2).mp equal.1, equal.2.symm⟩

theorem beq_trans
    {first second third : Value}
    (equal : (first == second) = true)
    (next : (second == third) = true) : (first == third) = true := by
  rw [beq_iff] at *
  exact ⟨equal.1, equal.2.trans next.2⟩

theorem datatype_eq_of_beq
    {first second : Value}
    (equal : (first == second) = true) : first.datatype = second.datatype := by
  rw [← datatype_normal first, (beq_iff.mp equal).2, datatype_normal]

end Value

/-! ## Instants -/

/-- A moment is determined by its second and the nanoseconds beyond it. -/
theorem LocalMoment.eq_of_secondNumber_eq
    {first second : LocalMoment}
    (sameSecond : first.secondNumber = second.secondNumber)
    (sameFraction : first.time.nanosecond = second.time.nanosecond) : first = second := by
  obtain ⟨day, time⟩ := first
  obtain ⟨otherDay, otherTime⟩ := second
  have fields := time.valid
  have otherFields := otherTime.valid
  simp only [secondNumber, TimeOfDay.secondOfDay] at sameSecond sameFraction
  simp only [IsTimeOfDay] at fields otherFields
  have sameDay : day = otherDay := by
    have sameNumber : day.dayNumber = otherDay.dayNumber := by omega
    exact Option.some.inj <|
      (CalendarDay.ofDayNumber?_eq_some_iff.mpr sameNumber).symm.trans
        (CalendarDay.ofDayNumber?_eq_some_iff.mpr rfl)
  have sameTime : time = otherTime := by
    subst sameDay
    obtain ⟨hour, minute, whole, fraction, _⟩ := time
    obtain ⟨otherHour, otherMinute, otherWhole, otherFraction, _⟩ := otherTime
    simp only [TimeOfDay.mk.injEq] at *
    omega
  rw [sameDay, sameTime]

namespace DateTime

theorem universalSecond_right_inj {moment : LocalMoment} {left right : Offset} :
    universalSecond moment left = universalSecond moment right ↔ left = right := by
  obtain ⟨leftSeconds, _, _⟩ := left
  obtain ⟨rightSeconds, _, _⟩ := right
  simp only [universalSecond, Offset.mk.injEq]
  omega

/-- Moments of one instant are the same exactly when their offsets are. -/
theorem moment_eq_iff_of_instant
    {first second : LocalMoment}
    {left right : Offset}
    (sameSecond : universalSecond first left = universalSecond second right)
    (sameFraction : first.time.nanosecond = second.time.nanosecond) :
    first = second ↔ left = right := by
  constructor
  · rintro rfl
    exact universalSecond_right_inj.mp sameSecond
  · rintro rfl
    simp only [universalSecond] at sameSecond
    exact LocalMoment.eq_of_secondNumber_eq (by omega) sameFraction

theorem sameInstant_comm (first second : DateTime) :
    first.sameInstant second = second.sameInstant first := by
  unfold sameInstant
  cases first.offset <;> cases second.offset <;> simp only [Bool.beq_comm]

/-- Exactly two of the three have an offset, and their offsets differ. -/
def OffsetsClash (first second third : DateTime) : Prop :=
  ∃ left right, [first, second, third].filterMap offset = [left, right] ∧ left ≠ right

/-- Of three date-times of which each is the same instant as the next, the first is the
same instant as the last unless their offsets clash. -/
theorem sameInstant_trans_iff
    {first second third : DateTime}
    (same : first.sameInstant second = true)
    (next : second.sameInstant third = true) :
    first.sameInstant third = true ↔ ¬OffsetsClash first second third := by
  obtain ⟨moment, offset⟩ := first
  obtain ⟨nextMoment, nextOffset⟩ := second
  obtain ⟨lastMoment, lastOffset⟩ := third
  -- Where an offset is missing the moments agree. If there are two offsets, they decide
  -- whether the instants agree as well.
  cases offset with
  | none =>
      cases nextOffset with
      | none => cases lastOffset <;> simp_all [sameInstant, OffsetsClash]
      | some nextZone =>
          cases lastOffset with
          | none => simp_all [sameInstant, OffsetsClash]
          | some lastZone =>
              simp only [sameInstant, Bool.and_eq_true, beq_iff_eq] at same next
              simpa [sameInstant, OffsetsClash, same] using moment_eq_iff_of_instant next.1 next.2
  | some zone =>
      cases nextOffset with
      | none =>
          cases lastOffset with
          | none => simp_all [sameInstant, OffsetsClash]
          | some lastZone =>
              simp only [sameInstant, beq_iff_eq] at same next
              simp [sameInstant, OffsetsClash, same, next, universalSecond_right_inj]
      | some nextZone =>
          simp only [sameInstant, Bool.and_eq_true, beq_iff_eq] at same
          cases lastOffset with
          | none =>
              simp only [sameInstant, beq_iff_eq] at next
              simpa [sameInstant, OffsetsClash, ← next] using moment_eq_iff_of_instant same.1 same.2
          | some lastZone => simp_all [sameInstant, OffsetsClash]

end DateTime

/-! ## Equality of the equality functions -/

namespace Value

/-- Values other than date-times compare structurally. -/
theorem equal_eq_beq
    {first : Value}
    (notDateTime : first.datatype ≠ .dateTime)
    (second : Value) : first.equal second = (first == second) := by
  cases first with
  | dateTime written => exact absurd rfl notDateTime
  | _ => rfl

theorem equal_comm (first second : Value) : first.equal second = second.equal first := by
  cases first with
  | dateTime written =>
      cases second with
      | dateTime other => exact DateTime.sameInstant_comm written other
      | _ => exact beq_comm _ _
  | _ => cases second <;> exact beq_comm _ _

theorem IsComparable.equal_self {value : Value} (comparable : value.IsComparable) :
    value.equal value = true := by
  cases value with
  | dateTime written => exact written.sameInstant_self
  | _ => exact comparable.beq_self

theorem datatype_eq_of_equal
    {first second : Value}
    (equal : first.equal second = true) : first.datatype = second.datatype := by
  cases first with
  | dateTime written =>
      cases second with
      | dateTime other => rfl
      | _ => exact datatype_eq_of_beq equal
  | _ => exact datatype_eq_of_beq equal

theorem isComparable_of_datatype_ne
    {value : Value}
    (notDouble : value.datatype ≠ .double) : value.IsComparable := by
  rintro rfl
  exact notDouble rfl

/-- The values are date-times, exactly two of them have an offset, and their offsets
differ. -/
def OffsetsClash : Value → Value → Value → Prop
  | .dateTime first, .dateTime second, .dateTime third => first.OffsetsClash second third
  | _, _, _ => False

theorem OffsetsClash.datatype_eq
    {first second third : Value}
    (clash : first.OffsetsClash second third) : first.datatype = .dateTime := by
  unfold OffsetsClash at clash
  split at clash
  · rfl
  · exact clash.elim

theorem OffsetsClash.reverse
    {first second third : Value}
    (clash : first.OffsetsClash second third) : third.OffsetsClash second first := by
  unfold OffsetsClash at clash
  split at clash
  · obtain ⟨left, right, offsets, differ⟩ := clash
    have reversed := congrArg List.reverse offsets
    rw [← List.filterMap_reverse] at reversed
    exact ⟨right, left, reversed, differ.symm⟩
  · exact clash.elim

/-- Of three values of which each is equal to the next, the first is equal to the last
unless their offsets clash. -/
theorem equal_trans_iff
    {first second third : Value}
    (equal : first.equal second = true)
    (next : second.equal third = true) :
    first.equal third = true ↔ ¬OffsetsClash first second third := by
  have sameDatatype := datatype_eq_of_equal equal
  have lastDatatype := sameDatatype.trans (datatype_eq_of_equal next)
  cases first with
  | dateTime written =>
      cases second <;> cases sameDatatype
      cases third <;> cases lastDatatype
      exact DateTime.sameInstant_trans_iff equal next
  | _ =>
      rw [equal_eq_beq fun isDateTime => nomatch sameDatatype.trans isDateTime] at next
      exact iff_of_true (beq_trans equal next) id

/-- Noon of a fixed day, at an offset or without one. The one without an offset is equal to
all others. -/
def noon (offset : Option Offset) : Value :=
  .dateTime ⟨⟨⟨2000, 1, 1, by decide⟩, ⟨12, 0, 0, 0, by decide⟩⟩, offset⟩

end Value
end PolicyDecision
