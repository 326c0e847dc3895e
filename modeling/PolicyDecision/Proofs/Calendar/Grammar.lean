import PolicyDecision.Calendar.Lexical
import PolicyDecision.Proofs.Text.Field

/-!
# Forms of dates and date-times

The texts of dates and of date-times are those of the forms `[-]Y-MM-DD[zone]` and
`[-]Y-MM-DDThh:mm:ss[.f][zone]`, where the year has at least four digits, the fraction has
at least one and the other fields have two. Reading succeeds exactly on the forms whose
fields are in range, and gives those fields.
-/

namespace PolicyDecision

open Text (Numeral sign signed)

/-! ## Fields -/

/-- A numeral of two digits. -/
structure TwoDigits extends Numeral where
  length_eq : digits.length = 2

namespace TwoDigits

theorem number_le (field : TwoDigits) : field.number ≤ 99 := by
  have below := field.number_lt
  rw [field.length_eq] at below
  omega

theorem exists_pair (field : TwoDigits) : ∃ tens ones, field.digits = [tens, ones] :=
  List.length_eq_two.mp field.length_eq

end TwoDigits

theorem readCalendarField_eq_ok_iff
    {name : String}
    {limit number : Nat}
    {text : List Char} :
    readCalendarField name limit text = .ok number ↔
      ∃ numeral : Numeral,
        numeral.digits = text ∧ numeral.number = number ∧ number ≤ limit := by
  rw [← @Text.readField_eq_ok_iff name limit number text]
  unfold readCalendarField
  split <;> simp_all

/-- Two characters are read as a field exactly when both are digits. -/
theorem readCalendarField_pair_eq_ok_iff
    {name : String}
    {limit number : Nat}
    {tens ones : Char}
    (wide : 99 ≤ limit) :
    readCalendarField name limit [tens, ones] = .ok number ↔
      ∃ field : TwoDigits, field.digits = [tens, ones] ∧ field.number = number := by
  rw [readCalendarField_eq_ok_iff]
  constructor
  · rintro ⟨numeral, digits, denotes, -⟩
    exact ⟨⟨numeral, by rw [digits]; rfl⟩, digits, denotes⟩
  · rintro ⟨field, digits, rfl⟩
    exact ⟨field.toNumeral, digits, rfl, field.number_le.trans wide⟩

/-! ## Zones -/

/-- A text that may follow a time: it carries neither digits nor a fraction on. -/
def TimeOfDay.EndsTime (rest : List Char) : Prop :=
  ∀ first ∈ rest.head?, first.isDigit = false ∧ first ≠ '.'

/-- A zone: nothing, `Z`, or a sign with `hh:mm`. -/
inductive ZoneForm
  | absent
  | universal
  | signed (negative : Bool) (hours minutes : TwoDigits)

namespace ZoneForm

/-- The text of the zone. -/
def text : ZoneForm → List Char
  | absent => []
  | universal => ['Z']
  | signed negative hours minutes =>
      (if negative then '-' else '+') :: (hours.digits ++ ':' :: minutes.digits)

/-- The hours are at most fourteen and the minutes below sixty. -/
def InRange : ZoneForm → Prop
  | absent | universal => True
  | signed _ hours minutes => hours.number ≤ 14 ∧ minutes.number ≤ 59

/-- The signed seconds of the zone, if there is one. -/
def seconds : ZoneForm → Option Int
  | absent => none
  | universal => some 0
  | signed negative hours minutes =>
      some (Text.signed negative (hours.number * 3600 + minutes.number * 60))

/-- The offset has the seconds of the zone. -/
def Denotes (form : ZoneForm) (offset : Option Offset) : Prop :=
  offset.map Offset.seconds = form.seconds

theorem writtenWith_text (form : ZoneForm) :
    Text.WrittenWith ['Z', '+', '-', ':'] form.text := by
  cases form with
  | absent => exact .nil _
  | universal => exact (Text.WrittenWith.nil _).cons (by decide)
  | signed negative hours minutes =>
      exact .cons (by cases negative <;> decide)
        ((hours.writtenWith _).append ((minutes.writtenWith _).cons (by decide)))

/-- A zone carries neither the digits nor the fraction of a time on. -/
theorem endsTime_text (form : ZoneForm) : TimeOfDay.EndsTime form.text := by
  intro first starts
  cases form with
  | absent => cases starts
  | universal =>
      cases starts
      decide
  | signed negative hours minutes =>
      cases starts
      cases negative <;> decide

end ZoneForm

namespace Offset

theorem ofSeconds?_eq_some_iff {seconds : Int} {offset : Offset} :
    ofSeconds? seconds = some offset ↔ offset.seconds = seconds := by
  constructor
  · intro made
    unfold ofSeconds? at made
    split at made
    · cases made
      rfl
    · cases made
  · rintro rfl
    exact dif_pos ⟨offset.lower, offset.upper⟩

end Offset

/-- A zone in range denotes an offset. -/
theorem ZoneForm.exists_denotes
    {form : ZoneForm}
    (inRange : form.InRange) : ∃ offset, form.Denotes offset := by
  cases form with
  | absent => exact ⟨none, rfl⟩
  | universal => exact ⟨some ⟨0, by decide, by decide⟩, rfl⟩
  | signed negative hours minutes =>
      obtain ⟨hourBound, minuteBound⟩ := inRange
      refine ⟨some ⟨Text.signed negative (hours.number * 3600 + minutes.number * 60), ?_, ?_⟩, rfl⟩
      all_goals
        simp only [Text.signed]
        split <;> omega

namespace Offset

/-- A signed zone is read exactly when it is `hh:mm` within range. -/
theorem readSigned_eq_ok_iff
    {negative : Bool}
    {zone text : List Char}
    {offset : Offset} :
    readSigned negative zone text = .ok offset ↔
      ∃ hours minutes : TwoDigits,
        text = hours.digits ++ ':' :: minutes.digits ∧
        (hours.number ≤ 14 ∧ minutes.number ≤ 59) ∧
        offset.seconds = signed negative (hours.number * 3600 + minutes.number * 60) := by
  constructor
  · intro isRead
    unfold readSigned at isRead
    split at isRead
    · cases isRead
    rename_i hourText minuteText cut
    split at isRead
    · cases isRead
    rename_i lengths
    rw [not_or, not_not, not_not] at lengths
    simp only [bind_eq_ok_iff, readCalendarField_eq_ok_iff] at isRead
    obtain ⟨_, ⟨hours, rfl, rfl, -⟩, _, ⟨minutes, rfl, rfl, -⟩, ranged⟩ := isRead
    split at ranged
    · cases ranged
    rename_i inRange
    rw [not_or, Nat.not_lt, Nat.not_lt] at inRange
    split at ranged
    case h_2 => cases ranged
    rename_i held narrowed
    cases ranged
    refine ⟨⟨hours, lengths.1⟩, ⟨minutes, lengths.2⟩, (Text.cutAt_eq_some_iff.mp cut).1,
      inRange, ?_⟩
    rw [ofSeconds?_eq_some_iff.mp narrowed]
    rfl
  · rintro ⟨hours, minutes, rfl, inRange, seconds⟩
    have noColon : ':' ∉ hours.digits := hours.not_mem rfl
    have hourBound := hours.number_le
    have minuteBound := minutes.number_le
    have hoursRead : readCalendarField "timezone hours" yearFieldLimit hours.digits =
        .ok hours.number :=
      readCalendarField_eq_ok_iff.mpr
        ⟨hours.toNumeral, rfl, rfl, by simp only [yearFieldLimit]; omega⟩
    have minutesRead : readCalendarField "timezone minutes" yearFieldLimit minutes.digits =
        .ok minutes.number :=
      readCalendarField_eq_ok_iff.mpr
        ⟨minutes.toNumeral, rfl, rfl, by simp only [yearFieldLimit]; omega⟩
    have held := ofSeconds?_eq_some_iff.mpr seconds
    rw [signed] at held
    rw [readSigned, Text.cutAt_append noColon]
    dsimp only
    rw [if_neg (by rw [hours.length_eq, minutes.length_eq]; decide), hoursRead, ok_bind,
      minutesRead, ok_bind, if_neg (by omega)]
    simp only [Int.natCast_add, Int.natCast_mul, Int.cast_ofNat_Int] at held
    rw [held]

/-- What is read as a zone is the text of a form within range. -/
theorem exists_form_of_read
    {zone : List Char}
    {offset : Option Offset}
    (isRead : read zone = .ok offset) :
    ∃ form : ZoneForm, (form.text = zone ∧ form.InRange) ∧ form.Denotes offset := by
  have signedForm {negative : Bool} {text : List Char}
      (signedRead : (readSigned negative zone text).map some = .ok offset) :
      ∃ hours minutes : TwoDigits,
        text = hours.digits ++ ':' :: minutes.digits ∧
        (ZoneForm.signed negative hours minutes).InRange ∧
        (ZoneForm.signed negative hours minutes).Denotes offset := by
    cases given : readSigned negative zone text with
    | error fault =>
        rw [given] at signedRead
        cases signedRead
    | ok held =>
        rw [given] at signedRead
        cases signedRead
        obtain ⟨hours, minutes, written, inRange, seconds⟩ := readSigned_eq_ok_iff.mp given
        exact ⟨hours, minutes, written, inRange, congrArg some seconds⟩
  unfold read at isRead
  split at isRead
  · cases isRead
    exact ⟨.absent, ⟨rfl, trivial⟩, rfl⟩
  · cases isRead
    exact ⟨.universal, ⟨rfl, trivial⟩, rfl⟩
  · obtain ⟨hours, minutes, rfl, inRange, denotes⟩ := signedForm isRead
    exact ⟨.signed false hours minutes, ⟨rfl, inRange⟩, denotes⟩
  · obtain ⟨hours, minutes, rfl, inRange, denotes⟩ := signedForm isRead
    exact ⟨.signed true hours minutes, ⟨rfl, inRange⟩, denotes⟩
  · cases isRead

/-- The text of a zone within range is read as what the zone denotes. -/
theorem read_text
    {form : ZoneForm}
    {offset : Option Offset}
    (inRange : form.InRange)
    (denotes : form.Denotes offset) : read form.text = .ok offset := by
  cases form with
  | absent =>
      cases Option.map_eq_none_iff.mp denotes
      rfl
  | universal =>
      obtain ⟨held, rfl, seconds⟩ := Option.map_eq_some_iff.mp denotes
      rw [ZoneForm.text, read, ofSeconds?_eq_some_iff.mpr seconds]
  | signed negative hours minutes =>
      obtain ⟨held, rfl, seconds⟩ := Option.map_eq_some_iff.mp denotes
      have signedRead (zone : List Char) :
          readSigned negative zone (hours.digits ++ ':' :: minutes.digits) = .ok held :=
        readSigned_eq_ok_iff.mpr ⟨hours, minutes, rfl, inRange, seconds⟩
      cases negative with
      | false =>
          simp only [ZoneForm.text, Bool.false_eq_true, if_false, read, signedRead]
          rfl
      | true =>
          simp only [ZoneForm.text, if_true, read, signedRead]
          rfl

end Offset

/-! ## Days -/

/-- A day `[-]Y-MM-DD` with at least four digits of the year. -/
structure DayForm where
  negative : Bool
  year : Numeral
  month : TwoDigits
  day : TwoDigits
  four_le : 4 ≤ year.digits.length

namespace DayForm

/-- The text of the day. -/
def text (form : DayForm) : List Char :=
  sign form.negative ++
    (form.year.digits ++ '-' :: (form.month.digits ++ '-' :: form.day.digits))

/-- The year with its sign. -/
def yearNumber (form : DayForm) : Int :=
  signed form.negative form.year.number

/-- The calendar has the day. -/
def InCalendar (form : DayForm) : Prop :=
  IsCalendarDay form.yearNumber form.month.number form.day.number

/-- The calendar day has the fields of the form. -/
structure Denotes (form : DayForm) (date : CalendarDay) : Prop where
  year_eq : date.year = form.yearNumber
  month_eq : date.month = form.month.number
  day_eq : date.day = form.day.number

theorem exists_denotes
    {form : DayForm}
    (inCalendar : form.InCalendar) : ∃ date, form.Denotes date :=
  ⟨⟨_, _, _, inCalendar⟩, rfl, rfl, rfl⟩

theorem Denotes.inCalendar
    {form : DayForm}
    {date : CalendarDay}
    (denotes : form.Denotes date) : form.InCalendar := by
  rw [InCalendar, ← denotes.year_eq, ← denotes.month_eq, ← denotes.day_eq]
  exact date.valid

theorem writtenWith_text (form : DayForm) : Text.WrittenWith ['-'] form.text :=
  (Text.writtenWith_sign (by decide) _).append ((form.year.writtenWith _).append
    (.cons (by decide) ((form.month.writtenWith _).append
      ((form.day.writtenWith _).cons (by decide)))))

end DayForm

namespace CalendarDay

theorem ofFields?_eq_some_iff {year : Int} {month day : Nat} {date : CalendarDay} :
    ofFields? year month day = some date ↔
      date.year = year ∧ date.month = month ∧ date.day = day := by
  refine ⟨fields_of_ofFields?, ?_⟩
  rintro ⟨rfl, rfl, rfl⟩
  exact ofFields?_fields date

/-- A day is read exactly when the text starts with the form of a calendar day. -/
theorem read_eq_ok_iff {text rest : List Char} {date : CalendarDay} :
    read text = .ok (date, rest) ↔
      ∃ form : DayForm, text = form.text ++ rest ∧ form.Denotes date := by
  constructor
  · intro isRead
    simp only [read] at isRead
    split at isRead
    · cases isRead
    rename_i yearText afterYear cut
    split at isRead
    · cases isRead
    rename_i long
    obtain ⟨size, sizeRead, afterYearRead⟩ := exists_of_bind_eq_ok isRead
    obtain ⟨year, rfl, rfl, -⟩ := readCalendarField_eq_ok_iff.mp sizeRead
    split at afterYearRead
    case h_2 => cases afterYearRead
    rename_i tenMonths ones tenDays dayOnes zone
    simp only [bind_eq_ok_iff, readCalendarField_pair_eq_ok_iff (show 99 ≤ calendarFieldLimit by
      decide)] at afterYearRead
    obtain ⟨_, ⟨month, monthDigits, rfl⟩, _, ⟨day, dayDigits, rfl⟩, made⟩ := afterYearRead
    split at made
    case h_2 => cases made
    rename_i held fields
    cases made
    obtain ⟨yearEq, monthEq, dayEq⟩ := fields_of_ofFields? fields
    refine ⟨⟨(Text.leadingMinus text).1, year, month, day, by omega⟩, ?_, yearEq, monthEq, dayEq⟩
    have parts := Text.sign_append_leadingMinus text
    rw [(Text.cutAt_eq_some_iff.mp cut).1] at parts
    simp only [DayForm.text, monthDigits, dayDigits]
    simpa using parts.symm
  · rintro ⟨⟨negative, year, month, day, long⟩, rfl, denotes⟩
    obtain ⟨firstYear, lastYear, -, -⟩ := denotes.inCalendar
    obtain ⟨yearEq, monthEq, dayEq⟩ := denotes
    obtain ⟨first, others, yearText, isDigit⟩ := year.exists_cons
    obtain ⟨tenMonths, months, monthText⟩ := month.exists_pair
    obtain ⟨tenDays, days, dayText⟩ := day.exists_pair
    have noMinus : first ≠ '-' := by
      rintro rfl
      cases isDigit
    have sizeRead : readCalendarField "year" yearFieldLimit year.digits = .ok year.number := by
      refine readCalendarField_eq_ok_iff.mpr ⟨year, rfl, rfl, ?_⟩
      simp only [DayForm.yearNumber, signed, minimumYear, maximumYear] at firstYear lastYear
      simp only [yearFieldLimit]
      split at firstYear <;> simp_all <;> omega
    have monthRead : readCalendarField "month" calendarFieldLimit [tenMonths, months] =
        .ok month.number :=
      (readCalendarField_pair_eq_ok_iff (by decide)).mpr ⟨month, monthText, rfl⟩
    have dayRead : readCalendarField "day" calendarFieldLimit [tenDays, days] = .ok day.number :=
      (readCalendarField_pair_eq_ok_iff (by decide)).mpr ⟨day, dayText, rfl⟩
    have made : ofFields? (signed negative year.number) month.number day.number = some date :=
      ofFields?_eq_some_iff.mpr ⟨yearEq, monthEq, dayEq⟩
    have written : (DayForm.mk negative year month day long).text ++ rest =
        sign negative ++ first :: (others ++
          '-' :: tenMonths :: months :: '-' :: tenDays :: days :: rest) := by
      simp [DayForm.text, yearText, monthText, dayText]
    have cut := Text.cutAt_append (year.not_mem (show '-'.isDigit = false from rfl))
      (tenMonths :: months :: '-' :: tenDays :: days :: rest)
    rw [yearText, List.cons_append] at cut
    rw [written, read, Text.leadingMinus_sign_append noMinus]
    dsimp only
    rw [cut]
    dsimp only
    rw [signed] at made
    rw [← yearText, if_neg (Nat.not_lt.mpr long), sizeRead, ok_bind]
    simp only [monthRead, dayRead, ok_bind, made]

end CalendarDay

/-! ## Times -/

/-- A time `hh:mm:ss[.f]` with at least one digit in the fraction. -/
structure ClockForm where
  hour : TwoDigits
  minute : TwoDigits
  second : TwoDigits
  fraction : Option Numeral

namespace ClockForm

/-- The fraction with its point, if it is there. -/
def fractionText : Option Numeral → List Char
  | none => []
  | some fraction => '.' :: fraction.digits

/-- The text of the time. -/
def text (form : ClockForm) : List Char :=
  form.hour.digits ++ ':' :: (form.minute.digits ++ ':' :: (form.second.digits ++
    fractionText form.fraction))

/-- The nanoseconds of the fraction, cut to nine decimal places. -/
def nanoseconds : Option Numeral → Nat
  | none => 0
  | some fraction => fraction.number * 10 ^ 9 / 10 ^ fraction.digits.length

/-- The hour is below twenty-four, the minute and the second are below sixty. -/
def InDay (form : ClockForm) : Prop :=
  form.hour.number < 24 ∧ form.minute.number < 60 ∧ form.second.number < 60

/-- The time has the fields of the form. -/
structure Denotes (form : ClockForm) (time : TimeOfDay) : Prop where
  hour_eq : time.hour = form.hour.number
  minute_eq : time.minute = form.minute.number
  second_eq : time.second = form.second.number
  nanosecond_eq : time.nanosecond = nanoseconds form.fraction

theorem nanoseconds_lt (fraction : Option Numeral) : nanoseconds fraction < 10 ^ 9 := by
  cases fraction with
  | none => decide
  | some fraction =>
      rw [nanoseconds, Nat.div_lt_iff_lt_mul (Nat.pow_pos (by decide)), Nat.mul_comm]
      exact Nat.mul_lt_mul_of_pos_left fraction.number_lt (by decide)

theorem exists_denotes
    {form : ClockForm}
    (inDay : form.InDay) : ∃ time, form.Denotes time := by
  obtain ⟨hourBound, minuteBound, secondBound⟩ := inDay
  have small := nanoseconds_lt form.fraction
  have valid : IsTimeOfDay form.hour.number form.minute.number form.second.number
      (nanoseconds form.fraction) :=
    ⟨hourBound, minuteBound, secondBound, by omega, by omega⟩
  exact ⟨⟨_, _, _, _, valid⟩, rfl, rfl, rfl, rfl⟩

theorem Denotes.inDay
    {form : ClockForm}
    {time : TimeOfDay}
    (denotes : form.Denotes time) : form.InDay := by
  obtain ⟨hourBound, minuteBound, secondBound, -⟩ := time.valid
  rw [InDay, ← denotes.hour_eq, ← denotes.minute_eq, ← denotes.second_eq]
  exact ⟨hourBound, minuteBound, secondBound⟩

theorem writtenWith_text (form : ClockForm) : Text.WrittenWith [':', '.'] form.text := by
  refine (form.hour.writtenWith _).append (.cons (by decide) ((form.minute.writtenWith _).append
    (.cons (by decide) ((form.second.writtenWith _).append ?_))))
  cases form.fraction with
  | none => exact .nil _
  | some fraction => exact .cons (by decide) (fraction.writtenWith _)

end ClockForm

namespace TimeOfDay

theorem ofFields?_eq_some_iff {hour minute second nanosecond : Nat} {time : TimeOfDay} :
    ofFields? hour minute second nanosecond = some time ↔
      time.hour = hour ∧ time.minute = minute ∧ time.second = second ∧
        time.nanosecond = nanosecond := by
  constructor
  · intro made
    unfold ofFields? at made
    split at made
    · cases made
      exact ⟨rfl, rfl, rfl, rfl⟩
    · cases made
  · rintro ⟨rfl, rfl, rfl, rfl⟩
    exact ofFields?_fields time

theorem EndsTime.takeWhile_eq
    {rest : List Char}
    (ends : EndsTime rest) : rest.takeWhile Char.isDigit = [] := by
  cases rest with
  | nil => rfl
  | cons first others => exact List.takeWhile_cons_of_neg (by rw [(ends first rfl).1]; decide)

theorem EndsTime.dropWhile_eq
    {rest : List Char}
    (ends : EndsTime rest) : rest.dropWhile Char.isDigit = rest := by
  cases rest with
  | nil => rfl
  | cons first others => exact List.dropWhile_cons_of_neg (by rw [(ends first rfl).1]; decide)

/-- What is read as a fraction is the start of the text. -/
theorem exists_fraction_of_read
    {text rest : List Char}
    {nanosecond : Nat}
    (isRead : readFraction text = .ok (nanosecond, rest)) :
    ∃ fraction : Option Numeral,
      text = ClockForm.fractionText fraction ++ rest ∧
        nanosecond = ClockForm.nanoseconds fraction := by
  unfold readFraction at isRead
  split at isRead
  · rename_i afterPoint
    dsimp only at isRead
    split at isRead
    · cases isRead
    rename_i notEmpty
    have digits : ∀ character ∈ afterPoint.takeWhile Char.isDigit, character.isDigit = true :=
      fun _ member => List.mem_takeWhile_imp member
    cases isRead
    refine ⟨some ⟨afterPoint.takeWhile Char.isDigit, ?_⟩, ?_, Text.fractionNanoseconds_eq digits⟩
    · exact Text.isNumeral_iff.mpr ⟨by simpa using notEmpty, digits⟩
    · simp [ClockForm.fractionText]
  · cases isRead
    exact ⟨none, rfl, rfl⟩

/-- A fraction is read as its nanoseconds, whatever follows the time. -/
theorem readFraction_text_append
    {rest : List Char}
    (ends : EndsTime rest)
    (fraction : Option Numeral) :
    readFraction (ClockForm.fractionText fraction ++ rest) =
      .ok (ClockForm.nanoseconds fraction, rest) := by
  cases fraction with
  | none =>
      rw [ClockForm.fractionText, List.nil_append]
      unfold readFraction
      split
      · exact absurd rfl (ends '.' rfl).2
      · rfl
  | some fraction =>
      have digits := (Text.isNumeral_iff.mp fraction.isNumeral).2
      have notEmpty : fraction.digits.isEmpty = false :=
        List.isEmpty_eq_false_iff.mpr fraction.digits_ne_nil
      rw [ClockForm.fractionText, List.cons_append]
      simp only [readFraction, List.takeWhile_append_of_pos digits, ends.takeWhile_eq,
        List.append_nil, notEmpty, Bool.false_eq_true, if_false,
        Text.fractionNanoseconds_eq digits, List.dropWhile_append_of_pos digits, ends.dropWhile_eq]
      rfl

/-- What is read as a time is the start of the text. -/
theorem exists_form_of_read
    {text rest : List Char}
    {time : TimeOfDay}
    (isRead : read text = .ok (time, rest)) :
    ∃ form : ClockForm, text = form.text ++ rest ∧ form.Denotes time := by
  unfold read at isRead
  split at isRead
  case h_2 => cases isRead
  rename_i tenHours hours tenMinutes minutes tenSeconds seconds afterSeconds
  simp only [bind_eq_ok_iff, readCalendarField_pair_eq_ok_iff (show 99 ≤ calendarFieldLimit by
    decide)] at isRead
  obtain ⟨_, ⟨hour, hourDigits, rfl⟩, _, ⟨minute, minuteDigits, rfl⟩, _,
    ⟨second, secondDigits, rfl⟩, ⟨nanosecond, zone⟩, fractionRead, made⟩ := isRead
  obtain ⟨fraction, rfl, rfl⟩ := exists_fraction_of_read fractionRead
  dsimp only at made
  split at made
  case h_2 => cases made
  rename_i held fields
  cases made
  obtain ⟨hourEq, minuteEq, secondEq, nanosecondEq⟩ := ofFields?_eq_some_iff.mp fields
  refine ⟨⟨hour, minute, second, fraction⟩, ?_, hourEq, minuteEq, secondEq, nanosecondEq⟩
  simp [ClockForm.text, hourDigits, minuteDigits, secondDigits]

/-- The form of a time is read as what it denotes, whatever follows it. -/
theorem read_text_append
    {form : ClockForm}
    {time : TimeOfDay}
    {rest : List Char}
    (denotes : form.Denotes time)
    (ends : EndsTime rest) : read (form.text ++ rest) = .ok (time, rest) := by
  obtain ⟨hour, minute, second, fraction⟩ := form
  obtain ⟨hourEq, minuteEq, secondEq, nanosecondEq⟩ := denotes
  obtain ⟨tenHours, hours, hourText⟩ := hour.exists_pair
  obtain ⟨tenMinutes, minutes, minuteText⟩ := minute.exists_pair
  obtain ⟨tenSeconds, seconds, secondText⟩ := second.exists_pair
  have hourRead : readCalendarField "hour" calendarFieldLimit [tenHours, hours] =
      .ok hour.number :=
    (readCalendarField_pair_eq_ok_iff (by decide)).mpr ⟨hour, hourText, rfl⟩
  have minuteRead : readCalendarField "minute" calendarFieldLimit [tenMinutes, minutes] =
      .ok minute.number :=
    (readCalendarField_pair_eq_ok_iff (by decide)).mpr ⟨minute, minuteText, rfl⟩
  have secondRead : readCalendarField "second" calendarFieldLimit [tenSeconds, seconds] =
      .ok second.number :=
    (readCalendarField_pair_eq_ok_iff (by decide)).mpr ⟨second, secondText, rfl⟩
  have written : (ClockForm.mk hour minute second fraction).text ++ rest =
      tenHours :: hours :: ':' :: tenMinutes :: minutes :: ':' :: tenSeconds :: seconds ::
        (ClockForm.fractionText fraction ++ rest) := by
    simp [ClockForm.text, hourText, minuteText, secondText]
  have made := ofFields?_eq_some_iff.mpr ⟨hourEq, minuteEq, secondEq, nanosecondEq⟩
  rw [written, read, hourRead, ok_bind, minuteRead, ok_bind, secondRead, ok_bind,
    readFraction_text_append ends, ok_bind]
  dsimp only at made ⊢
  rw [made]

end TimeOfDay

/-! ## Texts -/

/-- A date `[-]Y-MM-DD[zone]`. -/
structure DateForm where
  day : DayForm
  zone : ZoneForm

namespace DateForm

/-- The text of the date. -/
def text (form : DateForm) : List Char :=
  form.day.text ++ form.zone.text

/-- The calendar has the day, and the zone is within its bounds. -/
def InRange (form : DateForm) : Prop :=
  form.day.InCalendar ∧ form.zone.InRange

/-- The date has the day and the zone of the form. -/
def Denotes (form : DateForm) (date : Date) : Prop :=
  form.day.Denotes date.day ∧ form.zone.Denotes date.offset

theorem exists_denotes
    {form : DateForm}
    (inRange : form.InRange) : ∃ date, form.Denotes date := by
  obtain ⟨day, isDay⟩ := DayForm.exists_denotes inRange.1
  obtain ⟨offset, isOffset⟩ := ZoneForm.exists_denotes inRange.2
  exact ⟨⟨day, offset⟩, isDay, isOffset⟩

theorem isAscii_text (form : DateForm) : Text.isAscii form.text = true :=
  ((form.day.writtenWith_text.mono (by decide)).append
    (form.zone.writtenWith_text.mono
      (show ['Z', '+', '-', ':'] ⊆ ['-', 'Z', '+', ':'] by decide))).isAscii rfl

end DateForm

/-- A date-time `[-]Y-MM-DDThh:mm:ss[.f][zone]`. -/
structure DateTimeForm where
  day : DayForm
  clock : ClockForm
  zone : ZoneForm

namespace DateTimeForm

/-- The text of the date-time. -/
def text (form : DateTimeForm) : List Char :=
  form.day.text ++ 'T' :: (form.clock.text ++ form.zone.text)

/-- The calendar has the day, the day has the time, and the zone is within its bounds. -/
def InRange (form : DateTimeForm) : Prop :=
  form.day.InCalendar ∧ form.clock.InDay ∧ form.zone.InRange

/-- The date-time has the day, the time and the zone of the form. -/
def Denotes (form : DateTimeForm) (dateTime : DateTime) : Prop :=
  form.day.Denotes dateTime.moment.day ∧ form.clock.Denotes dateTime.moment.time ∧
    form.zone.Denotes dateTime.offset

theorem exists_denotes
    {form : DateTimeForm}
    (inRange : form.InRange) : ∃ dateTime, form.Denotes dateTime := by
  obtain ⟨inCalendar, inDay, inZone⟩ := inRange
  obtain ⟨day, isDay⟩ := DayForm.exists_denotes inCalendar
  obtain ⟨time, isTime⟩ := ClockForm.exists_denotes inDay
  obtain ⟨offset, isOffset⟩ := ZoneForm.exists_denotes inZone
  exact ⟨⟨⟨day, time⟩, offset⟩, isDay, isTime, isOffset⟩

theorem isAscii_text (form : DateTimeForm) : Text.isAscii form.text = true := by
  have written : Text.WrittenWith ['-', 'T', ':', '.', 'Z', '+'] form.text :=
    (form.day.writtenWith_text.mono (by decide)).append (.cons (by decide)
      ((form.clock.writtenWith_text.mono (by decide)).append
        (form.zone.writtenWith_text.mono (by decide))))
  exact written.isAscii rfl

end DateTimeForm

/-- Reading a date succeeds exactly on the forms within range. -/
theorem Date.readsExactly (text : List Char) :
    ReadsExactly (read text)
      (fun form : DateForm => form.text = text ∧ form.InRange) DateForm.Denotes := by
  refine .ofDenotes (fun _ accepted => DateForm.exists_denotes accepted.2) fun date => ⟨?_, ?_⟩
  · intro isRead
    unfold read at isRead
    split at isRead
    · cases isRead
    obtain ⟨⟨day, zoneText⟩, dayRead, afterDay⟩ := exists_of_bind_eq_ok isRead
    obtain ⟨offset, zoneRead, completed⟩ := exists_of_bind_eq_ok afterDay
    obtain ⟨dayForm, rfl, isDay⟩ := CalendarDay.read_eq_ok_iff.mp dayRead
    obtain ⟨zoneForm, ⟨rfl, inZone⟩, isZone⟩ := Offset.exists_form_of_read zoneRead
    cases completed
    exact ⟨⟨dayForm, zoneForm⟩, ⟨rfl, isDay.inCalendar, inZone⟩, isDay, isZone⟩
  · rintro ⟨form, ⟨rfl, -, inZone⟩, isDay, isZone⟩
    have dayRead : CalendarDay.read (form.day.text ++ form.zone.text) =
        .ok (date.day, form.zone.text) :=
      CalendarDay.read_eq_ok_iff.mpr ⟨form.day, rfl, isDay⟩
    rw [read, form.isAscii_text, Bool.not_true, if_neg Bool.false_ne_true, DateForm.text, dayRead,
      ok_bind]
    dsimp only
    rw [Offset.read_text inZone isZone]
    rfl

/-- Reading a date-time succeeds exactly on the forms within range. -/
theorem DateTime.readsExactly (text : List Char) :
    ReadsExactly (read text)
      (fun form : DateTimeForm => form.text = text ∧ form.InRange) DateTimeForm.Denotes := by
  refine .ofDenotes (fun _ accepted => DateTimeForm.exists_denotes accepted.2) fun dateTime =>
    ⟨?_, ?_⟩
  · intro isRead
    unfold read at isRead
    split at isRead
    · cases isRead
    split at isRead
    · cases isRead
    rename_i dayText timeText cut
    obtain ⟨⟨day, rest⟩, dayRead, afterDay⟩ := exists_of_bind_eq_ok isRead
    dsimp only at afterDay
    split at afterDay
    · cases afterDay
    rename_i whole
    obtain ⟨⟨time, zoneText⟩, timeRead, afterTime⟩ := exists_of_bind_eq_ok afterDay
    obtain ⟨offset, zoneRead, completed⟩ := exists_of_bind_eq_ok afterTime
    obtain ⟨dayForm, dayWritten, isDay⟩ := CalendarDay.read_eq_ok_iff.mp dayRead
    obtain ⟨clockForm, rfl, isTime⟩ := TimeOfDay.exists_form_of_read timeRead
    obtain ⟨zoneForm, ⟨rfl, inZone⟩, isZone⟩ := Offset.exists_form_of_read zoneRead
    have empty : rest = [] := by simpa using whole
    rw [empty, List.append_nil] at dayWritten
    cases completed
    refine ⟨⟨dayForm, clockForm, zoneForm⟩, ⟨?_, isDay.inCalendar, isTime.inDay, inZone⟩,
      isDay, isTime, isZone⟩
    rw [(Text.cutAt_eq_some_iff.mp cut).1, dayWritten]
    rfl
  · rintro ⟨form, ⟨rfl, -, -, inZone⟩, isDay, isTime, isZone⟩
    have noMark : 'T' ∉ form.day.text :=
      form.day.writtenWith_text.not_mem (show 'T' ∉ ['-'] by decide) rfl
    have dayRead : CalendarDay.read form.day.text = .ok (dateTime.moment.day, []) :=
      CalendarDay.read_eq_ok_iff.mpr ⟨form.day, (List.append_nil _).symm, isDay⟩
    have timeRead := TimeOfDay.read_text_append isTime form.zone.endsTime_text
    rw [read, form.isAscii_text, Bool.not_true, if_neg Bool.false_ne_true, DateTimeForm.text,
      Text.cutAt_append noMark]
    dsimp only
    rw [dayRead, ok_bind]
    dsimp only
    rw [List.isEmpty_nil, Bool.not_true, if_neg Bool.false_ne_true, timeRead, ok_bind]
    dsimp only
    rw [Offset.read_text inZone isZone]
    rfl

end PolicyDecision
