import PolicyDecision.Proofs.Calendar.DayNumber
import PolicyDecision.Proofs.Calendar.Grammar

/-!
# Written dates and date-times

A text of a date or a date-time has a zone of whole minutes below fifteen hours,
and the time in it is never a leap second. Dates and date-times within these
bounds are read from their canonical texts, which are texts of forms.
-/

namespace PolicyDecision

/-! ## Fields -/

/-- The two digits of a number below a hundred. -/
def TwoDigits.ofNumber (number : Nat) (small : number < 100) : TwoDigits where
  toNumeral := .padded 2 number
  length_eq := Text.length_paddedNumeral (by decide) small

@[simp] theorem TwoDigits.digits_ofNumber {number : Nat} (small : number < 100) :
    (ofNumber number small).digits = twoDigits number := rfl

@[simp] theorem TwoDigits.number_ofNumber {number : Nat} (small : number < 100) :
    (ofNumber number small).number = number :=
  Text.Numeral.number_padded 2 number

/-! ## Zones -/

/-- The offset is one of whole minutes below fifteen hours. -/
def Offset.IsZone (offset : Offset) : Prop :=
  offset.seconds % 60 = 0 ∧ offset.seconds.natAbs ≤ 14 * 3600 + 59 * 60

instance (offset : Offset) : Decidable offset.IsZone := by
  unfold Offset.IsZone
  infer_instance

namespace ZoneForm

/-- A zone within range denotes an offset of whole minutes. -/
theorem Denotes.isZone
    {form : ZoneForm}
    {offset : Option Offset}
    (denotes : form.Denotes offset)
    (inRange : form.InRange) : ∀ given ∈ offset, given.IsZone := by
  rintro given ⟨⟩
  simp only [Denotes, Option.map_some] at denotes
  cases form with
  | absent => cases denotes
  | universal =>
      have seconds : given.seconds = 0 := Option.some.inj denotes
      rw [Offset.IsZone, seconds]
      decide
  | signed negative hours minutes =>
      have seconds := Option.some.inj denotes
      simp only [InRange] at inRange
      simp only [Offset.IsZone, seconds, Text.signed]
      split <;> omega

/-- The zone of an offset of whole minutes has a form that denotes it. -/
theorem exists_canonical
    {offset : Option Offset}
    (zoned : ∀ given ∈ offset, given.IsZone) :
    ∃ form : ZoneForm, form.text = writeZone offset ∧ form.InRange ∧ form.Denotes offset := by
  cases offset with
  | none => exact ⟨.absent, rfl, trivial, rfl⟩
  | some given =>
      obtain ⟨wholeMinutes, bounded⟩ := zoned given rfl
      by_cases universal : given.seconds = 0
      · refine ⟨.universal, ?_, trivial, ?_⟩
        · rw [writeZone, Offset.write, if_pos universal]
          rfl
        · exact congrArg some universal
      · let hours : TwoDigits := .ofNumber (given.seconds.natAbs / 3600) (by omega)
        let minutes : TwoDigits := .ofNumber (given.seconds.natAbs % 3600 / 60) (by omega)
        refine ⟨.signed (decide (given.seconds < 0)) hours minutes, ?_, ?_, ?_⟩
        · rw [writeZone, Offset.write, if_neg universal]
          simp only [text, hours, minutes, TwoDigits.digits_ofNumber, decide_eq_true_eq]
        · simp only [InRange, hours, minutes, TwoDigits.number_ofNumber]
          omega
        · refine congrArg some ?_
          simp only [Text.signed, hours, minutes, TwoDigits.number_ofNumber, decide_eq_true_eq]
          split <;> omega

end ZoneForm

/-! ## Days -/

namespace CalendarDay

theorem monthLength_le (year : Int) (month : Nat) : monthLength year month ≤ 31 := by
  unfold monthLength
  split
  any_goals omega
  split <;> omega

theorem month_le (date : CalendarDay) : date.month ≤ 12 := date.isDayOfYear.month_le

theorem day_le (date : CalendarDay) : date.day ≤ 31 := by
  obtain ⟨_, _, _, last⟩ := date.valid
  exact last.trans (monthLength_le _ _)

end CalendarDay

/-- The text of a day has a form that denotes it. -/
theorem DayForm.exists_canonical (date : CalendarDay) :
    ∃ form : DayForm, form.text = date.write ∧ form.Denotes date := by
  have monthBound := date.month_le
  have dayBound := date.day_le
  let form : DayForm :=
    { negative := decide (date.year < 0)
      year := .padded 4 date.year.natAbs
      month := .ofNumber date.month (by omega)
      day := .ofNumber date.day (by omega)
      four_le := Text.le_length_paddedNumeral 4 date.year.natAbs }
  have yearNumber : form.yearNumber = date.year := by
    simp only [yearNumber, form, Text.signed, Text.Numeral.number_padded, decide_eq_true_eq,
      Text.signed_natAbs]
  refine ⟨form, ?_, yearNumber.symm, ?_, ?_⟩
  · simp [text, form, CalendarDay.write, CalendarDay.writeYear, Text.sign, Text.Numeral.padded]
  · exact (TwoDigits.number_ofNumber (show date.month < 100 by omega)).symm
  · exact (TwoDigits.number_ofNumber (show date.day < 100 by omega)).symm

/-! ## Times -/

namespace ClockForm

/-- Seconds are written with the digits of a fraction that denotes their nanoseconds. -/
theorem exists_fraction
    {nanosecond : Nat}
    (small : nanosecond < 1000000000) :
    ∃ fraction : Option Text.Numeral,
      (∀ second, Text.writeSeconds second nanosecond =
        Text.numeral second ++ fractionText fraction) ∧ nanoseconds fraction = nanosecond := by
  rcases Nat.eq_zero_or_pos nanosecond with rfl | positive
  · exact ⟨none, fun second => (List.append_nil _).symm, rfl⟩
  · have digits := Text.fractionDigits_isDigit nanosecond
    have isNumeral : Text.isNumeral (Text.fractionDigits nanosecond) = true :=
      Text.isNumeral_iff.mpr ⟨Text.fractionDigits_ne_nil positive small, digits⟩
    have denotes := Text.fractionNanoseconds_fractionDigits small
    rw [Text.fractionNanoseconds_eq digits] at denotes
    exact ⟨some ⟨_, isNumeral⟩, Text.writeSeconds_of_pos positive, denotes⟩

/-- The text of a time outside leap seconds has a form that denotes it. -/
theorem exists_canonical
    {time : TimeOfDay}
    (regular : time.nanosecond < 1000000000) :
    ∃ form : ClockForm, form.text = time.write ∧ form.Denotes time := by
  obtain ⟨hourBound, minuteBound, secondBound, _⟩ := time.valid
  have hourSmall : time.hour < 100 := by omega
  have minuteSmall : time.minute < 100 := by omega
  have secondSmall : time.second < 100 := by omega
  obtain ⟨fraction, secondsText, nanosecond⟩ := exists_fraction regular
  refine ⟨⟨.ofNumber time.hour hourSmall, .ofNumber time.minute minuteSmall,
    .ofNumber time.second secondSmall, fraction⟩, ?_, ?_⟩
  · have filled : twoDigits time.second =
        (if time.second < 10 then ['0'] else []) ++ Text.numeral time.second :=
      (Text.zero_append_numeral secondSmall).symm
    simp only [text, TwoDigits.digits_ofNumber, TimeOfDay.write, secondsText, filled,
      List.append_assoc, List.cons_append]
  · exact ⟨(TwoDigits.number_ofNumber hourSmall).symm, (TwoDigits.number_ofNumber minuteSmall).symm,
      (TwoDigits.number_ofNumber secondSmall).symm, nanosecond.symm⟩

end ClockForm

/-! ## Canonical texts -/

/-- The canonical text of a date with a zone of whole minutes is read as that
date. -/
theorem Date.read_write
    {date : Date}
    (zoned : ∀ offset ∈ date.offset, offset.IsZone) : read date.write = .ok date := by
  obtain ⟨day, dayText, isDay⟩ := DayForm.exists_canonical date.day
  obtain ⟨zone, zoneText, inRange, isZone⟩ := ZoneForm.exists_canonical zoned
  refine ((readsExactly date.write).ok_iff date).mpr ⟨⟨day, zone⟩, ⟨?_, ?_⟩, isDay, isZone⟩
  · rw [DateForm.text, dayText, zoneText]
    rfl
  · exact ⟨isDay.inCalendar, inRange⟩

/-- The moment does not fall into a leap second and the zone, if there is one, is
one of whole minutes. -/
def DateTime.IsLexical (dateTime : DateTime) : Prop :=
  dateTime.moment.isLeap = false ∧ ∀ offset ∈ dateTime.offset, offset.IsZone

/-- The canonical text of a date-time outside leap seconds with a zone of whole
minutes is read as that date-time. -/
theorem DateTime.read_write
    {dateTime : DateTime}
    (lexical : dateTime.IsLexical) : read dateTime.write = .ok dateTime := by
  obtain ⟨regular, zoned⟩ := lexical
  have regularTime : dateTime.moment.time.nanosecond < 1000000000 := by
    simpa [LocalMoment.isLeap] using regular
  obtain ⟨day, dayText, isDay⟩ := DayForm.exists_canonical dateTime.moment.day
  obtain ⟨clock, clockText, isTime⟩ := ClockForm.exists_canonical regularTime
  obtain ⟨zone, zoneText, inRange, isZone⟩ := ZoneForm.exists_canonical zoned
  refine ((readsExactly dateTime.write).ok_iff dateTime).mpr
    ⟨⟨day, clock, zone⟩, ⟨?_, ?_⟩, isDay, isTime, isZone⟩
  · rw [DateTimeForm.text, dayText, clockText, zoneText, write, List.append_assoc,
      List.cons_append]
  · exact ⟨isDay.inCalendar, isTime.inDay, inRange⟩

/-! ## What texts denote -/

theorem Date.isZone_of_read
    {text : List Char}
    {date : Date}
    (denotes : read text = .ok date) : ∀ offset ∈ date.offset, offset.IsZone := by
  obtain ⟨form, ⟨-, -, inRange⟩, -, isZone⟩ := ((readsExactly text).ok_iff date).mp denotes
  exact isZone.isZone inRange

theorem DateTime.isLexical_of_read
    {text : List Char}
    {dateTime : DateTime}
    (denotes : read text = .ok dateTime) : dateTime.IsLexical := by
  obtain ⟨form, ⟨-, -, -, inRange⟩, -, isTime, isZone⟩ :=
    ((readsExactly text).ok_iff dateTime).mp denotes
  have regular : dateTime.moment.time.nanosecond < 10 ^ 9 :=
    isTime.nanosecond_eq ▸ ClockForm.nanoseconds_lt form.clock.fraction
  exact ⟨by simpa [LocalMoment.isLeap] using regular, isZone.isZone inRange⟩

/-! ## Date-times of fields -/

/-- A date-time of fields has no zone, and it falls into a leap second exactly
when its milliseconds go beyond a second. -/
theorem DateTime.isLeap_iff_of_ofFields?
    {year : Int}
    {month day hour minute second millisecond : Nat}
    {dateTime : DateTime}
    (made : ofFields? year month day hour minute second millisecond = some dateTime) :
    dateTime.offset = none ∧ (dateTime.moment.isLeap = false ↔ millisecond < 1000) := by
  simp only [ofFields?, Option.bind_eq_bind, Option.bind_eq_some_iff] at made
  obtain ⟨calendarDay, -, time, timeMade, made⟩ := made
  have nanosecond := (TimeOfDay.ofFields?_eq_some_iff.mp timeMade).2.2.2
  cases made
  refine ⟨rfl, ?_⟩
  rw [LocalMoment.isLeap, nanosecond, decide_eq_false_iff_not]
  omega

end PolicyDecision
