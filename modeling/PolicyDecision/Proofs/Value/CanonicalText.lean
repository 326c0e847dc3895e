import PolicyDecision.Codec.Value
import PolicyDecision.Function.Definition
import PolicyDecision.Proofs.Calendar.Lexical
import PolicyDecision.Proofs.Duration.DayTime
import PolicyDecision.Proofs.Duration.YearMonth
import PolicyDecision.Proofs.Function.Validation
import PolicyDecision.Proofs.Number.Integer

/-!
# Canonical texts of values

A value other than a double that some text denotes is denoted by its canonical
text too, and so is every result of date arithmetic on such values. Values that
are put together from fields have further members: a leap second and the longest
backward duration have canonical texts that denote something else or nothing.
-/

namespace PolicyDecision
namespace Value

/-! ## Values with lexical forms -/

/-- A value of a datatype other than double that has a lexical form. -/
def IsLexical : Value → Prop
  | .double _ => False
  | .anyUri text => text.toList.any Text.isBlank = false
  | .date written => ∀ offset ∈ written.offset, offset.IsZone
  | .dateTime written => written.IsLexical
  | .yearMonthDuration duration => duration.IsReversible
  | .string _ | .boolean _ | .integer _ | .dayTimeDuration _ => True

/-- The canonical text of a value denotes that value. -/
def ReadsBack (value : Value) : Prop :=
  parse value.datatype value.text = .ok value

theorem parse_eq_ok_iff
    {datatype : Datatype} {lexical : String} {value : Value} :
    parse datatype lexical = .ok value ↔ read datatype lexical.toList = .ok value := by
  unfold parse
  split <;> simp_all

/-- A text denotes a value of the datatype that it is read for, and one with a
lexical form. -/
theorem isLexical_of_read
    {datatype : Datatype}
    {text : List Char}
    {value : Value}
    (exact : datatype ≠ .double)
    (denotes : read datatype text = .ok value) :
    value.datatype = datatype ∧ value.IsLexical := by
  unfold read at denotes
  cases datatype with
  | string =>
      cases denotes
      exact ⟨rfl, trivial⟩
  | double => exact absurd rfl exact
  | anyUri =>
      dsimp only at denotes
      split at denotes
      · cases denotes
      · rename_i noBlank
        cases denotes
        refine ⟨rfl, ?_⟩
        rw [IsLexical, String.toList_ofList]
        exact Bool.not_eq_true _ ▸ noBlank
  | boolean | integer | dayTimeDuration =>
      dsimp only at denotes
      split at denotes
      · cases denotes
        exact ⟨rfl, trivial⟩
      · cases denotes
  | date =>
      dsimp only at denotes
      split at denotes
      · rename_i written dateRead
        cases denotes
        exact ⟨rfl, Date.isZone_of_read dateRead⟩
      · cases denotes
  | dateTime =>
      dsimp only at denotes
      split at denotes
      · rename_i written dateTimeRead
        cases denotes
        exact ⟨rfl, DateTime.isLexical_of_read dateTimeRead⟩
      · cases denotes
  | yearMonthDuration =>
      dsimp only at denotes
      split at denotes
      · rename_i duration durationRead
        cases denotes
        exact ⟨rfl, YearMonthDuration.isReversible_of_read durationRead⟩
      · cases denotes

/-- A value that has a lexical form is denoted by its canonical text. -/
theorem IsLexical.readsBack
    {value : Value}
    (lexical : value.IsLexical) : value.ReadsBack := by
  refine parse_eq_ok_iff.mpr ?_
  cases value with
  | string text => simp [datatype, Value.text, read]
  | boolean truth => cases truth <;> rfl
  | integer number =>
      simp only [datatype, text, Integer.text, read, String.toList_ofList, Integer.trim_write,
        Integer.read_write]
  | double number => exact lexical.elim
  | date written =>
      simp only [datatype, text, Date.text, read, String.toList_ofList, Date.read_write lexical]
  | dateTime written =>
      simp only [datatype, text, DateTime.text, read, String.toList_ofList,
        DateTime.read_write lexical]
  | dayTimeDuration duration =>
      simp only [datatype, text, DayTimeDuration.text, read, String.toList_ofList,
        DayTimeDuration.read_write]
  | yearMonthDuration duration =>
      simp only [datatype, text, YearMonthDuration.text, read, String.toList_ofList,
        YearMonthDuration.read_write lexical]
  | anyUri text =>
      have noBlank : text.toList.any Text.isBlank = false := lexical
      simp [datatype, Value.text, read, noBlank]

/-- Apart from doubles, the values that their canonical texts denote are those
with a lexical form. -/
theorem readsBack_iff
    {value : Value}
    (exact : value.datatype ≠ .double) : value.ReadsBack ↔ value.IsLexical :=
  ⟨fun readsBack => (isLexical_of_read exact (parse_eq_ok_iff.mp readsBack)).2,
    IsLexical.readsBack⟩

end Value

/-! ## Date arithmetic -/

/-- Time that passes outside leap seconds leads to none. -/
theorem LocalMoment.isLeap_addNanoseconds?
    {moment later : LocalMoment}
    {nanoseconds : Int}
    (regular : moment.isLeap = false)
    (passed : moment.addNanoseconds? nanoseconds = some later) : later.isLeap = false := by
  have small : moment.time.nanosecond < 1000000000 := by simpa [isLeap] using regular
  rw [addNanoseconds?, dif_neg fun stays => absurd stays.1 (Nat.not_le_of_lt small)] at passed
  obtain ⟨day, -, rfl⟩ := Option.map_eq_some_iff.mp passed
  refine decide_eq_false (Nat.not_le_of_lt ?_)
  exact Nat.mod_lt _ (by decide)

theorem DateTime.IsLexical.addDayTime?
    {dateTime later : DateTime}
    {duration : DayTimeDuration}
    (lexical : dateTime.IsLexical)
    (passed : dateTime.addDayTime? duration = some later) : later.IsLexical := by
  obtain ⟨moment, moved, rfl⟩ := Option.map_eq_some_iff.mp passed
  exact ⟨LocalMoment.isLeap_addNanoseconds? lexical.1 moved, lexical.2⟩

theorem DateTime.IsLexical.addYearMonth?
    {dateTime later : DateTime}
    {duration : YearMonthDuration}
    (lexical : dateTime.IsLexical)
    (passed : dateTime.addYearMonth? duration = some later) : later.IsLexical := by
  obtain ⟨moment, moved, rfl⟩ := Option.map_eq_some_iff.mp passed
  obtain ⟨day, -, rfl⟩ := Option.map_eq_some_iff.mp moved
  exact ⟨lexical.1, lexical.2⟩

namespace DateFunction

/-- A shifted date or date-time has the datatype of the operand and, like the
operand, a lexical form. -/
theorem isLexical_of_shift?
    {function : DateFunction}
    {operand duration result : Value}
    (lexical : operand.IsLexical)
    (shifted : function.shift? operand duration = .ok (some result)) :
    result.datatype = operand.datatype ∧ result.IsLexical := by
  unfold shift? at shifted
  split at shifted
  · obtain ⟨later, passed, rfl⟩ := Option.map_eq_some_iff.mp (Except.ok.inj shifted)
    exact ⟨rfl, DateTime.IsLexical.addDayTime? lexical passed⟩
  · obtain ⟨later, passed, rfl⟩ := Option.map_eq_some_iff.mp (Except.ok.inj shifted)
    exact ⟨rfl, DateTime.IsLexical.addYearMonth? lexical passed⟩
  · obtain ⟨later, passed, rfl⟩ := Option.map_eq_some_iff.mp (Except.ok.inj shifted)
    obtain ⟨day, -, rfl⟩ := Option.map_eq_some_iff.mp passed
    exact ⟨rfl, lexical⟩
  · cases shifted

/-- Date arithmetic succeeds with a shifted operand. -/
theorem exists_shift?_of_apply
    {function : DateFunction}
    {arguments : List Argument}
    {outcome : Outcome}
    (applied : function.apply arguments = .ok outcome) :
    ∃ operand duration result, arguments = [.value operand, .value duration] ∧
      operand.datatype = function.operandDatatype ∧
      function.shift? operand duration = .ok (some result) ∧ outcome = .single result := by
  unfold apply at applied
  obtain ⟨⟨first, second⟩, two, applied⟩ := exists_of_bind_eq_ok applied
  obtain ⟨operand, operandSimple, applied⟩ := exists_of_bind_eq_ok applied
  obtain ⟨duration, durationSimple, applied⟩ := exists_of_bind_eq_ok applied
  obtain ⟨shifted, shift, applied⟩ := exists_of_bind_eq_ok applied
  obtain ⟨rfl, operandTyped⟩ := Argument.simple_eq_ok_iff.mp operandSimple
  obtain ⟨rfl, -⟩ := Argument.simple_eq_ok_iff.mp durationSimple
  cases shifted with
  | none => cases applied
  | some result =>
      cases applied
      refine ⟨operand, duration, result, ?_, operandTyped, shift, rfl⟩
      unfold Argument.two at two
      split at two
      · cases two
        rfl
      · cases two

end DateFunction

namespace Value

/-- A value read from a text of a datatype other than double, or the result of
date arithmetic on such values. -/
inductive Obtained : Value → Prop
  | parsed
      {datatype : Datatype}
      {lexical : String}
      {value : Value}
      (exact : datatype ≠ .double)
      (denotes : parse datatype lexical = .ok value) : Obtained value
  | shifted
      {function : DateFunction}
      {arguments : List Argument}
      {result : Value}
      (each : ∀ value, .value value ∈ arguments → Obtained value)
      (computed : (Function.date function).apply arguments = .single result) : Obtained result

/-- Date arithmetic on values with lexical forms gives one of its declared
datatype. -/
theorem isLexical_of_apply
    {function : DateFunction}
    {arguments : List Argument}
    {result : Value}
    (each : ∀ value, .value value ∈ arguments → value.IsLexical)
    (computed : (Function.date function).apply arguments = .single result) :
    result.datatype = function.operandDatatype ∧ result.IsLexical := by
  unfold Function.apply Function.compute at computed
  split at computed
  · rename_i outcome applied
    subst computed
    obtain ⟨operand, duration, shifted, rfl, operandTyped, shift, same⟩ :=
      DateFunction.exists_shift?_of_apply applied
    cases same
    have kept := DateFunction.isLexical_of_shift? (each operand List.mem_cons_self) shift
    exact ⟨kept.1.trans operandTyped, kept.2⟩
  · cases computed

/-- Every obtained value has a lexical form. -/
theorem Obtained.isLexical
    {value : Value}
    (obtained : Obtained value) : value.IsLexical := by
  induction obtained with
  | parsed exact denotes => exact (isLexical_of_read exact (parse_eq_ok_iff.mp denotes)).2
  | shifted each computed inductionHypothesis =>
      exact (isLexical_of_apply inductionHypothesis computed).2

/-! ## Written values -/

/-- A value that its canonical text denotes is decoded from its tree. -/
theorem ReadsBack.decode_encode
    {value : Value}
    (readsBack : value.ReadsBack) : decode value.encode = .ok value := by
  have datatypeField : Datatype.decode value.datatype.encode = .ok value.datatype := by
    simp [Datatype.decode, Datatype.encode, Decoder.named]
  have denotes : parse value.datatype value.text = .ok value := readsBack
  simp [decode, encode, Record.ofTree, Record.required, Record.field?, DataTree.entry?,
    datatypeField, Decoder.string, denotes, bind, Except.bind, pure, Except.pure]

/-- A decoded value was read from a text. -/
theorem exists_parse_of_decode
    {tree : DataTree} {value : Value}
    (decoded : decode tree = .ok value) :
    ∃ datatype lexical, parse datatype lexical = .ok value := by
  unfold decode at decoded
  obtain ⟨record, -, decoded⟩ := exists_of_bind_eq_ok decoded
  obtain ⟨datatype, -, decoded⟩ := exists_of_bind_eq_ok decoded
  obtain ⟨lexical, -, decoded⟩ := exists_of_bind_eq_ok decoded
  split at decoded
  · rename_i denoted denotes
    cases decoded
    exact ⟨datatype, lexical, denotes⟩
  · cases decoded

/-- Printing undoes parsing: what a text other than one of a double denotes is
denoted by its canonical text, and so are the results of date arithmetic. Decoding
what was encoded from a decoded value changes nothing. -/
theorem parse_text_of_obtained :
    (∀ (datatype : Datatype) (lexical : String) (value : Value),
      datatype ≠ .double → parse datatype lexical = .ok value →
        parse datatype value.text = .ok value) ∧
    (∀ (function : DateFunction) (arguments : List Argument) (result : Value),
      (∀ value, .value value ∈ arguments → Obtained value) →
        (Function.date function).apply arguments = .single result →
          parse function.operandDatatype result.text = .ok result) ∧
    ∀ (tree : DataTree) (value : Value),
      value.datatype ≠ .double → decode tree = .ok value →
        decode value.encode = decode tree := by
  refine ⟨?_, ?_, ?_⟩
  · intro datatype lexical value exact denotes
    obtain ⟨rfl, isLexical⟩ := isLexical_of_read exact (parse_eq_ok_iff.mp denotes)
    exact isLexical.readsBack
  · intro function arguments result each computed
    obtain ⟨typed, isLexical⟩ :=
      isLexical_of_apply (fun value argument => (each value argument).isLexical) computed
    rw [← typed]
    exact isLexical.readsBack
  · intro tree value exact decoded
    obtain ⟨datatype, lexical, denotes⟩ := exists_parse_of_decode decoded
    have readExact : datatype ≠ .double := by
      rintro rfl
      have reading := parse_eq_ok_iff.mp denotes
      unfold read at reading
      dsimp only at reading
      split at reading
      · cases reading
        exact exact rfl
      · cases reading
    rw [decoded]
    exact (isLexical_of_read readExact (parse_eq_ok_iff.mp denotes)).2.readsBack.decode_encode

/-- A leap day before the common era, with more digits of a second than are kept,
and the day a year later. -/
theorem parse_text_of_obtained_of_leapDay :
    let time : TimeOfDay := ⟨23, 59, 59, 120000000, by decide⟩
    let zone : Offset := ⟨-53940, by decide, by decide⟩
    let leapDay : Value := .dateTime ⟨⟨⟨-44, 2, 29, by decide⟩, time⟩, some zone⟩
    let yearLater : Value := .dateTime ⟨⟨⟨-43, 2, 28, by decide⟩, time⟩, some zone⟩
    let year : Value := .yearMonthDuration ⟨⟨12, by decide, by decide⟩⟩
    (parse .dateTime "-0044-02-29T23:59:59.1200000000004-14:59" = .ok leapDay ∧
      leapDay.text = "-0044-02-29T23:59:59.12-14:59" ∧
      parse .dateTime leapDay.text = .ok leapDay) ∧
    ((Function.date .dateTimeAddYearMonth).apply [.value leapDay, .value year] =
        .single yearLater ∧
      parse .dateTime yearLater.text = .ok yearLater) ∧
    decode leapDay.encode = .ok leapDay := by
  intro time zone leapDay yearLater year
  have denotes :
      parse .dateTime "-0044-02-29T23:59:59.1200000000004-14:59" = .ok leapDay := by
    rfl
  have yearLexical : year.IsLexical := show (12 : Int) ≠ integerMinimum by decide
  have written : leapDay.text = "-0044-02-29T23:59:59.12-14:59" := by decide
  have computed : (Function.date .dateTimeAddYearMonth).apply [.value leapDay, .value year] =
      .single yearLater := by
    rfl
  have each (value : Value) (argument : .value value ∈ [Argument.value leapDay, .value year]) :
      Obtained value := by
    rcases List.mem_pair.mp argument with same | same
    · cases same
      exact .parsed (by decide) denotes
    · cases same
      exact .parsed (by decide) yearLexical.readsBack
  have decoded : decode (.table [("DataType", Datatype.dateTime.encode),
      ("Value", .string "-0044-02-29T23:59:59.1200000000004-14:59")]) = .ok leapDay := by
    rfl
  have reprinted := parse_text_of_obtained.1 .dateTime _ leapDay (by decide) denotes
  have shifted := parse_text_of_obtained.2.1 .dateTimeAddYearMonth _ yearLater each computed
  have recoded := parse_text_of_obtained.2.2 _ leapDay (by decide) decoded
  exact ⟨⟨denotes, written, reprinted⟩, ⟨computed, shifted⟩, recoded.trans decoded⟩

/-! ## Values put together from fields -/

theorem readsBack_date_iff (written : Date) :
    ReadsBack (.date written) ↔ ∀ offset ∈ written.offset, offset.IsZone :=
  readsBack_iff (by simp [datatype])

/-- A date-time with a zone of whole minutes is denoted by its canonical text
unless it falls into a leap second. -/
theorem readsBack_dateTime_iff
    {written : DateTime}
    (zoned : ∀ offset ∈ written.offset, offset.IsZone) :
    ReadsBack (.dateTime written) ↔ written.moment.isLeap = false :=
  (readsBack_iff (by simp [datatype])).trans (and_iff_left zoned)

theorem readsBack_yearMonthDuration_iff (duration : YearMonthDuration) :
    ReadsBack (.yearMonthDuration duration) ↔ duration.IsReversible :=
  readsBack_iff (by simp [datatype])

/-- Dates of fields are denoted by their canonical texts, and date-times of fields
unless their milliseconds go into a leap second, without a zone or with one of whole
minutes below fifteen hours. Year-month durations are denoted by their canonical
texts unless they are the longest backward one. -/
theorem readsBack_of_fields_iff
    {zone : Option Offset}
    (zoned : ∀ offset ∈ zone, offset.IsZone) :
    (∀ (year : Int) (month day : Nat) (date : Date),
      Date.ofFields? year month day = some date →
        ReadsBack (.date (zone.elim date date.withOffset))) ∧
    (∀ (year : Int) (month day hour minute second millisecond : Nat) (dateTime : DateTime),
      DateTime.ofFields? year month day hour minute second millisecond = some dateTime →
        (ReadsBack (.dateTime (zone.elim dateTime dateTime.withOffset)) ↔
          millisecond < 1000)) ∧
    (∀ months : Integer,
      ReadsBack (.yearMonthDuration ⟨months⟩) ↔ months.toInt ≠ integerMinimum) ∧
    ∀ (negative : Bool) (years months : Integer) (duration : YearMonthDuration),
      YearMonthDuration.ofYearsAndMonths? negative years months = some duration →
        (ReadsBack (.yearMonthDuration duration) ↔
          negative = true ∨ years.toInt * 12 + months.toInt ≠ integerMinimum) := by
  refine ⟨?_, ?_, fun months => readsBack_yearMonthDuration_iff ⟨months⟩, ?_⟩
  · intro year month day date made
    obtain ⟨calendarDay, -, rfl⟩ := Option.map_eq_some_iff.mp made
    refine (readsBack_date_iff _).mpr ?_
    cases zone with
    | none => exact zoned
    | some offset => exact zoned
  · intro year month day hour minute second millisecond dateTime made
    obtain ⟨noOffset, regular⟩ := DateTime.isLeap_iff_of_ofFields? made
    cases zone with
    | none =>
        have unzoned : ∀ given ∈ dateTime.offset, given.IsZone := by
          rw [noOffset]
          exact zoned
        exact (readsBack_dateTime_iff unzoned).trans regular
    | some offset =>
        have zonedAfter : ∀ given ∈ (dateTime.withOffset offset).offset, given.IsZone := zoned
        exact (readsBack_dateTime_iff zonedAfter).trans regular
  · intro negative years months duration made
    exact (readsBack_yearMonthDuration_iff duration).trans
      (YearMonthDuration.isReversible_iff_of_ofYearsAndMonths? made)

/-- A leap day west of the reference, a leap second, the longest backward duration
and a short one. -/
theorem readsBack_of_fields_iff_of_extremes :
    let day : Date := ⟨⟨2024, 2, 29, by decide⟩, none⟩
    let leapSecond : DateTime :=
      ⟨⟨⟨2016, 12, 31, by decide⟩, ⟨23, 59, 59, 1500000000, by decide⟩⟩, none⟩
    let west : Offset := ⟨-53940, by decide, by decide⟩
    let longest : YearMonthDuration := ⟨⟨integerMinimum, by decide, by decide⟩⟩
    let short : YearMonthDuration := ⟨⟨-14, by decide, by decide⟩⟩
    ReadsBack (.date (day.withOffset west)) ∧
    ¬ ReadsBack (.dateTime (leapSecond.withOffset west)) ∧
    ¬ ReadsBack (.yearMonthDuration longest) ∧
    ReadsBack (.yearMonthDuration short) := by
  intro day leapSecond west longest short
  have zoned : ∀ offset ∈ some west, offset.IsZone := by
    rintro offset ⟨⟩
    decide
  obtain ⟨dates, dateTimes, months, yearsAndMonths⟩ := readsBack_of_fields_iff zoned
  have dayMade : Date.ofFields? 2024 2 29 = some day := by decide
  have leapSecondMade : DateTime.ofFields? 2016 12 31 23 59 59 1500 = some leapSecond := by decide
  have shortMade : YearMonthDuration.ofYearsAndMonths? true ⟨1, by decide, by decide⟩
      ⟨2, by decide, by decide⟩ = some short := by decide
  have leap := dateTimes _ _ _ _ _ _ _ leapSecond leapSecondMade
  refine ⟨dates _ _ _ day dayMade, ?_, ?_, ?_⟩
  · exact fun readsBack => absurd (leap.mp readsBack) (by decide)
  · exact fun readsBack => (months longest.months).mp readsBack rfl
  · exact (yearsAndMonths true _ _ short shortMade).mpr (.inl rfl)

/-- A leap second is written like an earlier moment with a tenth of its milliseconds,
and no text denotes the longest backward duration. -/
theorem not_readsBack_of_leapSecond_of_longestBackward :
    (∃ leapSecond earlier : DateTime,
      DateTime.ofFields? 2016 12 31 23 59 59 1500 = some leapSecond ∧
      DateTime.ofFields? 2016 12 31 23 59 59 150 = some earlier ∧
      leapSecond ≠ earlier ∧
      text (.dateTime leapSecond) = "2016-12-31T23:59:59.15" ∧
      parse .dateTime "2016-12-31T23:59:59.15" = .ok (.dateTime earlier)) ∧
    ∃ longest : YearMonthDuration,
      longest.months.toInt = integerMinimum ∧
      text (.yearMonthDuration longest) = "-P768614336404564650Y8M" ∧
      ∀ lexical : String, parse .yearMonthDuration lexical ≠ .ok (.yearMonthDuration longest) := by
  refine ⟨⟨⟨⟨⟨2016, 12, 31, by decide⟩, ⟨23, 59, 59, 1500000000, by decide⟩⟩, none⟩,
    ⟨⟨⟨2016, 12, 31, by decide⟩, ⟨23, 59, 59, 150000000, by decide⟩⟩, none⟩,
    by decide, by decide, by decide, by decide, by rfl⟩,
    ⟨⟨⟨integerMinimum, by decide, by decide⟩⟩, rfl, by decide, ?_⟩⟩
  intro lexical denotes
  have reversible := (isLexical_of_read (by decide) (parse_eq_ok_iff.mp denotes)).2
  exact reversible rfl

end Value
end PolicyDecision
