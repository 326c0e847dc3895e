import PolicyDecision.Duration.DayTime
import PolicyDecision.Proofs.Text.Field

/-!
# Forms of day-time durations

The texts of day-time durations are those of the forms `[-]P[nD][T[nH][nM][n[.f]S]]`, with
at least one component and at least one after the mark of the time part. The digits of the
fraction may be missing after its point. Reading succeeds exactly on the forms within range
and gives their signed sum.
-/

namespace PolicyDecision

open Text (Numeral unit unitNumber sign signed)

/-- Seconds `n[.f]S`. The digits of the fraction may be missing after the point. -/
structure SecondsForm where
  whole : Numeral
  fraction : Option (List Char)
  isDigit_of_mem : ∀ digits ∈ fraction, ∀ character ∈ digits, character.isDigit = true

namespace SecondsForm

/-- The seconds without their letter. -/
def body (seconds : SecondsForm) : List Char :=
  seconds.whole.digits ++ seconds.fraction.elim [] fun digits => '.' :: digits

/-- The nanoseconds of the fraction, cut to nine decimal places. -/
def nanoseconds (seconds : SecondsForm) : Nat :=
  seconds.fraction.elim 0 fun digits => Text.numeralValue digits * 10 ^ 9 / 10 ^ digits.length

/-- The text of seconds that may be left out. -/
def text : Option SecondsForm → List Char
  | none => []
  | some seconds => seconds.body ++ ['S']

/-- The whole seconds of seconds that may be left out. -/
def wholeOf : Option SecondsForm → Nat
  | none => 0
  | some seconds => seconds.whole.number

/-- The nanoseconds of seconds that may be left out. -/
def nanosecondsOf : Option SecondsForm → Nat
  | none => 0
  | some seconds => seconds.nanoseconds

theorem writtenWith_text
    {marks : List Char}
    (marked : ['.', 'S'] ⊆ marks)
    (given : Option SecondsForm) : Text.WrittenWith marks (text given) := by
  cases given with
  | none => exact .nil marks
  | some seconds =>
      obtain ⟨whole, fraction, digits⟩ := seconds
      refine ((whole.writtenWith marks).append ?_).append
        ((Text.WrittenWith.nil marks).cons (marked (by decide)))
      cases fraction with
      | none => exact .nil marks
      | some places =>
          exact .cons (marked (by decide)) fun character member => .inl (digits _ rfl _ member)

end SecondsForm

/-- A time part `[nH][nM][n[.f]S]` with a component. -/
structure TimePart where
  hours : Option Numeral
  minutes : Option Numeral
  seconds : Option SecondsForm
  hasComponent : hours.isSome ∨ minutes.isSome ∨ seconds.isSome

namespace TimePart

/-- The text of the time part after its mark. -/
def text (time : TimePart) : List Char :=
  unit 'H' time.hours ++ (unit 'M' time.minutes ++ SecondsForm.text time.seconds)

/-- The whole seconds of the time part. -/
def wholeSeconds (time : TimePart) : Nat :=
  unitNumber time.hours * 3600 + unitNumber time.minutes * 60 + SecondsForm.wholeOf time.seconds

/-- The nanoseconds beyond the whole seconds. -/
def nanoseconds (time : TimePart) : Nat :=
  SecondsForm.nanosecondsOf time.seconds

theorem text_ne_nil (time : TimePart) : time.text ≠ [] := by
  intro empty
  obtain ⟨noHours, others⟩ := List.append_eq_nil_iff.mp empty
  obtain ⟨noMinutes, noSeconds⟩ := List.append_eq_nil_iff.mp others
  have missing {letter : Char} {given : Option Numeral} (none : unit letter given = []) :
      ¬given.isSome := by
    cases given with
    | none => exact Bool.false_ne_true
    | some numeral => exact absurd none (List.append_ne_nil_of_right_ne_nil _ (by simp))
  rcases time.hasComponent with hours | minutes | seconds
  · exact missing noHours hours
  · exact missing noMinutes minutes
  · obtain ⟨given, isGiven⟩ := Option.isSome_iff_exists.mp seconds
    rw [isGiven] at noSeconds
    exact List.append_ne_nil_of_right_ne_nil _ (by simp) noSeconds

theorem writtenWith_text
    {marks : List Char}
    (marked : ['H', 'M', '.', 'S'] ⊆ marks)
    (time : TimePart) : Text.WrittenWith marks time.text :=
  (Text.writtenWith_unit (marked (by decide)) _).append
    ((Text.writtenWith_unit (marked (by decide)) _).append
      (SecondsForm.writtenWith_text (List.Subset.trans (by decide) marked) _))

end TimePart

/-- A text `[-]P[nD][T[nH][nM][n[.f]S]]` with a component. -/
structure DayTimeForm where
  negative : Bool
  days : Option Numeral
  time : Option TimePart
  hasComponent : days.isSome ∨ time.isSome

namespace DayTimeForm

/-- The time part with its mark, if it is there. -/
def timeText : Option TimePart → List Char
  | none => []
  | some time => 'T' :: time.text

/-- The text of the form. -/
def text (form : DayTimeForm) : List Char :=
  sign form.negative ++ 'P' :: (unit 'D' form.days ++ timeText form.time)

/-- The seconds of days and a time part. -/
def secondsOf (days : Option Numeral) (time : Option TimePart) : Nat :=
  unitNumber days * 86400 + time.elim 0 TimePart.wholeSeconds

@[simp] theorem secondsOf_none (days : Option Numeral) :
    secondsOf days none = unitNumber days * 86400 := Nat.add_zero _

@[simp] theorem secondsOf_some (days : Option Numeral) (time : TimePart) :
    secondsOf days (some time) = unitNumber days * 86400 + time.wholeSeconds := rfl

/-- The nanoseconds of the form without its sign. -/
def size (form : DayTimeForm) : Nat :=
  secondsOf form.days form.time * 10 ^ 9 + form.time.elim 0 TimePart.nanoseconds

/-- Every number of the form fits sixty-four bits, and the form is at most as many
milliseconds as do. -/
structure InRange (form : DayTimeForm) : Prop where
  days_le : unitNumber form.days ≤ 9223372036854775807
  time_le : ∀ time ∈ form.time,
    unitNumber time.hours ≤ 9223372036854775807 ∧
      unitNumber time.minutes ≤ 9223372036854775807 ∧
      SecondsForm.wholeOf time.seconds ≤ 9223372036854775807
  size_le : form.size ≤ 9223372036854775807 * 10 ^ 6

/-- The duration has the nanoseconds of the form with its sign. -/
def Denotes (form : DayTimeForm) (duration : DayTimeDuration) : Prop :=
  duration.nanoseconds = signed form.negative form.size

/-- There are digits after the point of the seconds, if there is one. -/
def IsComplete (form : DayTimeForm) : Prop :=
  ∀ time ∈ form.time, ∀ seconds ∈ time.seconds, seconds.fraction ≠ some []

theorem exists_denotes
    {form : DayTimeForm}
    (inRange : form.InRange) : ∃ duration, form.Denotes duration := by
  refine ⟨⟨signed form.negative form.size, ?_⟩, rfl⟩
  have fits := inRange.size_le
  simp only [dayTimeLimit, signed]
  split <;> omega

/-- Only what the form is as a whole bounds its seconds. -/
theorem InRange.secondsOf_le
    {form : DayTimeForm}
    (inRange : form.InRange) :
    secondsOf form.days form.time ≤ DayTimeDuration.componentLimit := by
  have fits := inRange.size_le
  unfold size at fits
  unfold DayTimeDuration.componentLimit
  omega

/-- A form whose seconds fit sixty-four bits and that some duration denotes is in range. -/
theorem inRange_of_secondsOf_le
    (form : DayTimeForm)
    {duration : DayTimeDuration}
    (within : secondsOf form.days form.time ≤ DayTimeDuration.componentLimit)
    (denotes : form.Denotes duration) : form.InRange := by
  unfold DayTimeDuration.componentLimit at within
  refine ⟨?_, ?_, ?_⟩
  · unfold secondsOf at within
    omega
  · intro time given
    rw [Option.mem_def.mp given, secondsOf_some, TimePart.wholeSeconds] at within
    omega
  · have bounded := duration.bounded
    rw [show duration.nanoseconds = _ from denotes] at bounded
    simp only [dayTimeLimit, signed] at bounded
    split at bounded <;> omega

theorem writtenWith_timeText
    {marks : List Char}
    (marked : ['T', 'H', 'M', '.', 'S'] ⊆ marks)
    (given : Option TimePart) : Text.WrittenWith marks (timeText given) := by
  cases given with
  | none => exact .nil marks
  | some time =>
      exact .cons (marked (by decide))
        (time.writtenWith_text (List.Subset.trans (by decide) marked))

theorem isAscii_text (form : DayTimeForm) : Text.isAscii form.text = true := by
  have written : Text.WrittenWith ['-', 'P', 'D', 'T', 'H', 'M', '.', 'S'] form.text :=
    (Text.writtenWith_sign (by decide) _).append (.cons (by decide)
      ((Text.writtenWith_unit (by decide) _).append (writtenWith_timeText (by decide) _)))
  exact written.isAscii rfl

end DayTimeForm

namespace DayTimeDuration

/-! ## Components -/

theorem checkedSeconds_eq_ok_iff {seconds checked : Nat} :
    checkedSeconds seconds = .ok checked ↔ seconds ≤ componentLimit ∧ checked = seconds := by
  unfold checkedSeconds
  split
  · rename_i within
    rw [and_iff_right within, Except.ok.injEq, eq_comm]
  · rename_i beyond
    exact ⟨nofun, fun checked => absurd checked.1 beyond⟩

theorem readComponent_eq_ok_iff
    {name : String}
    {text : List Char}
    {number : Nat} :
    readComponent name text = .ok number ↔
      ∃ numeral : Numeral,
        numeral.digits = text ∧ numeral.number = number ∧ number ≤ componentLimit := by
  rw [← @Text.readField_eq_ok_iff name componentLimit number text]
  unfold readComponent
  split <;> simp_all

theorem readFraction_eq_ok_iff {digits : List Char} {nanoseconds : Nat} :
    readFraction digits = .ok nanoseconds ↔
      (∀ character ∈ digits, character.isDigit = true) ∧
        nanoseconds = Text.numeralValue digits * 10 ^ 9 / 10 ^ digits.length := by
  unfold readFraction
  split
  · rename_i isFraction
    have digitsOnly := List.all_eq_true.mp isFraction
    rw [Text.fractionNanoseconds_eq digitsOnly, and_iff_right digitsOnly, Except.ok.injEq,
      eq_comm]
  · rename_i noFraction
    exact ⟨nofun, fun isFraction => absurd (List.all_eq_true.mpr isFraction.1) noFraction⟩

/-- The days are read exactly when they are left out, or are a numeral with its letter that
keeps the seconds within the limit. -/
theorem readDays_eq_ok_iff {text : List Char} {reading : Reading} :
    readDays text = .ok reading ↔
      ∃ days : Option Numeral,
        text = unit 'D' days ∧ unitNumber days * 86400 ≤ componentLimit ∧
          reading = ⟨unitNumber days * 86400, 0, days.isSome⟩ := by
  constructor
  · intro isRead
    unfold readDays at isRead
    split at isRead
    · rename_i empty
      cases isRead
      exact ⟨none, List.isEmpty_iff.mp empty, Nat.zero_le _, rfl⟩
    · split at isRead
      · cases isRead
      · rename_i digits ends
        simp only [bind_eq_ok_iff, readComponent_eq_ok_iff, checkedSeconds_eq_ok_iff] at isRead
        obtain ⟨_, ⟨numeral, rfl, rfl, -⟩, _, ⟨within, rfl⟩, completed⟩ := isRead
        cases completed
        exact ⟨some numeral, Text.withoutLast?_eq_some_iff.mp ends, within, rfl⟩
  · rintro ⟨days, rfl, within, rfl⟩
    cases days with
    | none => rfl
    | some numeral =>
        rw [Text.unitNumber_some] at within
        have component : readComponent "days" numeral.digits = .ok numeral.number :=
          readComponent_eq_ok_iff.mpr ⟨numeral, rfl, rfl, by omega⟩
        have notEmpty : (numeral.digits ++ ['D']).isEmpty = false := by simp
        rw [readDays, Text.unit_some, notEmpty, if_neg Bool.false_ne_true,
          Text.withoutLast?_concat]
        dsimp only
        rw [component, ok_bind, checkedSeconds_eq_ok_iff.mpr ⟨within, rfl⟩, ok_bind]
        rfl

/-- A component is read exactly when it is left out, or is a numeral with its letter that
keeps the seconds within the limit. -/
theorem readUnit_eq_ok_iff
    {letter : Char}
    {factor seconds : Nat}
    {found : Bool}
    {next : Reading}
    {text rest : List Char}
    (noDigit : letter.isDigit = false)
    (positive : 0 < factor)
    (within : seconds ≤ componentLimit) :
    readUnit letter factor ⟨seconds, 0, found⟩ text = .ok (next, rest) ↔
      ∃ given : Option Numeral,
        text = unit letter given ++ rest ∧ (given = none → letter ∉ rest) ∧
        seconds + unitNumber given * factor ≤ componentLimit ∧
        next = ⟨seconds + unitNumber given * factor, 0, found || given.isSome⟩ := by
  constructor
  · intro isRead
    unfold readUnit at isRead
    split at isRead
    · rename_i uncut
      cases isRead
      exact ⟨none, rfl, fun _ => Text.cutAt_eq_none_iff.mp uncut, by simpa using within, by simp⟩
    · rename_i digits after cut
      simp only [bind_eq_ok_iff, readComponent_eq_ok_iff, checkedSeconds_eq_ok_iff] at isRead
      obtain ⟨_, ⟨numeral, rfl, rfl, -⟩, _, ⟨-, rfl⟩, _, ⟨fits, rfl⟩, completed⟩ := isRead
      cases completed
      refine ⟨some numeral, ?_, by simp, fits, by simp⟩
      simpa using (Text.cutAt_eq_some_iff.mp cut).1
  · rintro ⟨given, rfl, absent, fits, rfl⟩
    cases given with
    | none =>
        rw [Text.unit_none, List.nil_append, readUnit, Text.cutAt_eq_none (absent rfl)]
        simp
    | some numeral =>
        have scaled := Nat.le_mul_of_pos_right numeral.number positive
        rw [Text.unitNumber_some] at fits
        have component : readComponent "duration component" numeral.digits = .ok numeral.number :=
          readComponent_eq_ok_iff.mpr ⟨numeral, rfl, rfl, by omega⟩
        have added : checkedSeconds (numeral.number * factor) = .ok (numeral.number * factor) :=
          checkedSeconds_eq_ok_iff.mpr ⟨by omega, rfl⟩
        rw [readUnit, Text.cutAt_unit_append noDigit]
        dsimp only
        rw [component, ok_bind, added, ok_bind, checkedSeconds_eq_ok_iff.mpr ⟨fits, rfl⟩, ok_bind]
        simp [pure, Except.pure]

/-- The whole seconds and the fraction of a body are cut apart at the point. -/
theorem cutAt_body (given : SecondsForm) :
    (Text.cutAt '.' given.body).getD (given.body, []) =
      (given.whole.digits, given.fraction.getD []) := by
  obtain ⟨whole, fraction, digits⟩ := given
  have noPoint := whole.not_mem (show '.'.isDigit = false from rfl)
  cases fraction with
  | none => simp [SecondsForm.body, Text.cutAt_eq_none noPoint]
  | some places => simp [SecondsForm.body, Text.cutAt_append noPoint]

/-- A body that is cut into a numeral and digits is one of seconds. -/
theorem exists_body_eq
    {body digits : List Char}
    {whole : Numeral}
    (parts : (Text.cutAt '.' body).getD (body, []) = (whole.digits, digits))
    (allDigits : ∀ character ∈ digits, character.isDigit = true) :
    ∃ given : SecondsForm, given.body = body ∧ given.whole = whole ∧
      given.fraction.getD [] = digits := by
  cases cut : Text.cutAt '.' body with
  | none =>
      rw [cut] at parts
      cases parts
      exact ⟨⟨whole, none, nofun⟩, by simp [SecondsForm.body], rfl, rfl⟩
  | some cutParts =>
      rw [cut] at parts
      cases parts
      refine ⟨⟨whole, some digits, ?_⟩, ?_, rfl, rfl⟩
      · rintro places ⟨⟩
        exact allDigits
      · exact (Text.cutAt_eq_some_iff.mp cut).1.symm

theorem nanoseconds_eq (given : SecondsForm) :
    given.nanoseconds =
      Text.numeralValue (given.fraction.getD []) * 10 ^ 9 /
        10 ^ (given.fraction.getD []).length := by
  unfold SecondsForm.nanoseconds
  cases given.fraction <;> rfl

/-- The seconds are read exactly when they are left out, or are a numeral with a fraction and
their letter that keeps the seconds within the limit. -/
theorem readSeconds_eq_ok_iff
    {seconds : Nat}
    {found : Bool}
    {next : Reading}
    {text : List Char}
    (within : seconds ≤ componentLimit) :
    readSeconds ⟨seconds, 0, found⟩ text = .ok next ↔
      ∃ given : Option SecondsForm,
        text = SecondsForm.text given ∧
        seconds + SecondsForm.wholeOf given ≤ componentLimit ∧
        next = ⟨seconds + SecondsForm.wholeOf given, SecondsForm.nanosecondsOf given,
          found || given.isSome⟩ := by
  constructor
  · intro isRead
    unfold readSeconds at isRead
    split at isRead
    · rename_i empty
      cases isRead
      exact ⟨none, List.isEmpty_iff.mp empty, within, by
        simp [SecondsForm.wholeOf, SecondsForm.nanosecondsOf]⟩
    · split at isRead
      · cases isRead
      · rename_i body ends
        simp only [bind_eq_ok_iff, readComponent_eq_ok_iff, checkedSeconds_eq_ok_iff,
          readFraction_eq_ok_iff] at isRead
        obtain ⟨_, ⟨numeral, whole, rfl, -⟩, _, ⟨fits, rfl⟩, _, ⟨allDigits, rfl⟩, completed⟩ :=
          isRead
        obtain ⟨given, rfl, rfl, fraction⟩ :=
          exists_body_eq (Prod.ext whole.symm rfl) allDigits
        cases completed
        refine ⟨some given, Text.withoutLast?_eq_some_iff.mp ends, fits, ?_⟩
        simp only [SecondsForm.wholeOf, SecondsForm.nanosecondsOf, nanoseconds_eq, fraction,
          Option.isSome_some, Bool.or_true]
  · rintro ⟨given, rfl, fits, rfl⟩
    cases given with
    | none => simp [SecondsForm.text, SecondsForm.wholeOf, SecondsForm.nanosecondsOf, readSeconds]
    | some given =>
        simp only [SecondsForm.wholeOf] at fits
        have notEmpty : (given.body ++ ['S']).isEmpty = false := by simp
        have component : readComponent "seconds" given.whole.digits = .ok given.whole.number :=
          readComponent_eq_ok_iff.mpr ⟨given.whole, rfl, rfl, by omega⟩
        have fraction : readFraction (given.fraction.getD []) = .ok given.nanoseconds := by
          refine readFraction_eq_ok_iff.mpr ⟨?_, nanoseconds_eq given⟩
          cases written : given.fraction with
          | none => exact nofun
          | some places => exact given.isDigit_of_mem places written
        rw [SecondsForm.text, readSeconds, notEmpty, if_neg Bool.false_ne_true,
          Text.withoutLast?_concat]
        dsimp only
        rw [cutAt_body, component, ok_bind, checkedSeconds_eq_ok_iff.mpr ⟨fits, rfl⟩, ok_bind,
          fraction, ok_bind]
        simp [SecondsForm.wholeOf, SecondsForm.nanosecondsOf, pure, Except.pure]

/-! ## Parts -/

/-- What follows the hours of a time part holds no letter of hours, and what follows the
minutes none of minutes. -/
theorem readTime_eq_ok_iff
    {seconds : Nat}
    {found : Bool}
    {next : Reading}
    {text : List Char}
    (within : seconds ≤ componentLimit) :
    readTime ⟨seconds, 0, found⟩ text = .ok next ↔
      ∃ time : TimePart,
        text = time.text ∧ seconds + time.wholeSeconds ≤ componentLimit ∧
          next = ⟨seconds + time.wholeSeconds, time.nanoseconds, true⟩ := by
  constructor
  · intro isRead
    unfold readTime at isRead
    split at isRead
    · cases isRead
    rename_i notEmpty
    obtain ⟨⟨afterHours, minuteText⟩, hoursRead, afterHoursRead⟩ := exists_of_bind_eq_ok isRead
    obtain ⟨⟨afterMinutes, secondText⟩, minutesRead, secondsRead⟩ :=
      exists_of_bind_eq_ok afterHoursRead
    obtain ⟨hours, rfl, -, hoursFit, rfl⟩ :=
      (readUnit_eq_ok_iff rfl (by decide) within).mp hoursRead
    obtain ⟨minutes, rfl, -, minutesFit, rfl⟩ :=
      (readUnit_eq_ok_iff rfl (by decide) hoursFit).mp minutesRead
    obtain ⟨given, rfl, fits, rfl⟩ := (readSeconds_eq_ok_iff minutesFit).mp secondsRead
    have hasComponent : hours.isSome ∨ minutes.isSome ∨ given.isSome := by
      cases hours <;> cases minutes <;> cases given <;> simp_all [SecondsForm.text]
    have isFound : (found || hours.isSome || minutes.isSome || given.isSome) = true := by
      simp only [Bool.or_eq_true]
      tauto
    have total : seconds + unitNumber hours * 3600 + unitNumber minutes * 60 +
        SecondsForm.wholeOf given =
          seconds + (TimePart.mk hours minutes given hasComponent).wholeSeconds := by
      simp only [TimePart.wholeSeconds]
      omega
    exact ⟨⟨hours, minutes, given, hasComponent⟩, rfl, total ▸ fits, by rw [isFound, total]; rfl⟩
  · rintro ⟨⟨hours, minutes, given, hasComponent⟩, rfl, fits, rfl⟩
    have notEmpty : (TimePart.mk hours minutes given hasComponent).text.isEmpty = false :=
      List.isEmpty_eq_false_iff.mpr (TimePart.text_ne_nil _)
    simp only [TimePart.wholeSeconds, ← Nat.add_assoc] at fits
    have noHours : 'H' ∉ unit 'M' minutes ++ SecondsForm.text given :=
      ((Text.writtenWith_unit List.mem_cons_self _).append
        (SecondsForm.writtenWith_text (List.subset_cons_self _ _) _)).not_mem
          (show 'H' ∉ ['M', '.', 'S'] by decide) rfl
    have noMinutes : 'M' ∉ SecondsForm.text given :=
      (SecondsForm.writtenWith_text (List.Subset.refl _) _).not_mem
        (show 'M' ∉ ['.', 'S'] by decide) rfl
    have hoursRead :
        readUnit 'H' 3600 ⟨seconds, 0, found⟩
            (unit 'H' hours ++ (unit 'M' minutes ++ SecondsForm.text given)) =
          .ok (⟨seconds + unitNumber hours * 3600, 0, found || hours.isSome⟩,
            unit 'M' minutes ++ SecondsForm.text given) :=
      (readUnit_eq_ok_iff rfl (by decide) within).mpr
        ⟨hours, rfl, fun _ => noHours, by omega, rfl⟩
    have minutesRead :
        readUnit 'M' 60 ⟨seconds + unitNumber hours * 3600, 0, found || hours.isSome⟩
            (unit 'M' minutes ++ SecondsForm.text given) =
          .ok (⟨seconds + unitNumber hours * 3600 + unitNumber minutes * 60, 0,
            found || hours.isSome || minutes.isSome⟩, SecondsForm.text given) :=
      (readUnit_eq_ok_iff rfl (by decide) (by omega)).mpr
        ⟨minutes, rfl, fun _ => noMinutes, by omega, rfl⟩
    have isFound : (found || hours.isSome || minutes.isSome || given.isSome) = true := by
      simp only [Bool.or_eq_true]
      tauto
    rw [readTime, notEmpty, if_neg Bool.false_ne_true, TimePart.text, hoursRead, ok_bind]
    dsimp only
    rw [minutesRead, ok_bind]
    refine (readSeconds_eq_ok_iff (by omega)).mpr ⟨given, rfl, fits, ?_⟩
    rw [isFound]
    simp only [TimePart.wholeSeconds, TimePart.nanoseconds, Nat.add_assoc]

/-- The components are read exactly when they are days and a time part, each of which may be
left out, that keep the seconds within the limit. -/
theorem readComponents_eq_ok_iff {text : List Char} {reading : Reading} :
    readComponents text = .ok reading ↔
      ∃ (days : Option Numeral) (time : Option TimePart),
        text = unit 'D' days ++ DayTimeForm.timeText time ∧
        DayTimeForm.secondsOf days time ≤ componentLimit ∧
        reading = ⟨DayTimeForm.secondsOf days time, time.elim 0 TimePart.nanoseconds,
          days.isSome || time.isSome⟩ := by
  constructor
  · intro isRead
    unfold readComponents at isRead
    split at isRead
    · obtain ⟨days, rfl, within, rfl⟩ := readDays_eq_ok_iff.mp isRead
      refine ⟨days, none, (List.append_nil _).symm, ?_, ?_⟩
      · rwa [DayTimeForm.secondsOf_none]
      · simp
    · rename_i dayText timeText cut
      obtain ⟨afterDays, daysRead, timeRead⟩ := exists_of_bind_eq_ok isRead
      obtain ⟨days, rfl, within, rfl⟩ := readDays_eq_ok_iff.mp daysRead
      obtain ⟨time, rfl, fits, rfl⟩ := (readTime_eq_ok_iff within).mp timeRead
      exact ⟨days, some time, (Text.cutAt_eq_some_iff.mp cut).1, fits, by simp⟩
  · rintro ⟨days, time, rfl, fits, rfl⟩
    have noTime : 'T' ∉ unit 'D' days :=
      (Text.writtenWith_unit List.mem_cons_self _).not_mem (show 'T' ∉ ['D'] by decide) rfl
    cases time with
    | none =>
        rw [DayTimeForm.secondsOf_none] at fits ⊢
        rw [DayTimeForm.timeText, List.append_nil, readComponents, Text.cutAt_eq_none noTime]
        exact readDays_eq_ok_iff.mpr ⟨days, rfl, fits, by simp⟩
    | some time =>
        rw [DayTimeForm.secondsOf_some] at fits ⊢
        have daysFit := (Nat.le_add_right _ _).trans fits
        have daysRead : readDays (unit 'D' days) =
            .ok ⟨unitNumber days * 86400, 0, days.isSome⟩ :=
          readDays_eq_ok_iff.mpr ⟨days, rfl, daysFit, rfl⟩
        rw [DayTimeForm.timeText, readComponents, Text.cutAt_append noTime]
        dsimp only
        rw [daysRead, ok_bind]
        exact (readTime_eq_ok_iff daysFit).mpr ⟨time, rfl, fits, by simp⟩

/-! ## Texts -/

/-- A duration is held when its nanoseconds are within the limit. -/
theorem ofNanoseconds?_eq_some_iff {nanoseconds : Int} {duration : DayTimeDuration} :
    ofNanoseconds? nanoseconds = some duration ↔ duration.nanoseconds = nanoseconds := by
  constructor
  · intro held
    unfold ofNanoseconds? at held
    split at held
    · cases held
      rfl
    · cases held
  · rintro rfl
    exact dif_pos duration.bounded

/-- What is read as a day-time duration is the text of a form within range. -/
theorem exists_form_of_read
    {text : List Char}
    {duration : DayTimeDuration}
    (isRead : read text = .ok duration) :
    ∃ form : DayTimeForm, (form.text = text ∧ form.InRange) ∧ form.Denotes duration := by
  simp only [read] at isRead
  split at isRead
  · cases isRead
  split at isRead
  case h_2 => cases isRead
  rename_i components body
  obtain ⟨reading, componentsRead, completed⟩ := exists_of_bind_eq_ok isRead
  obtain ⟨days, time, written, within, rfl⟩ := readComponents_eq_ok_iff.mp componentsRead
  split at completed
  · cases completed
  rename_i found
  split at completed
  case h_2 => cases completed
  rename_i held narrowed
  cases completed
  rw [Bool.not_eq_true', Bool.not_eq_false, Bool.or_eq_true] at found
  let form : DayTimeForm := ⟨(Text.leadingMinus text).1, days, time, found⟩
  have denotes : form.Denotes duration := ofNanoseconds?_eq_some_iff.mp narrowed
  refine ⟨form, ⟨?_, ?_⟩, denotes⟩
  · have parts := Text.sign_append_leadingMinus text
    rwa [body, written] at parts
  · exact form.inRange_of_secondsOf_le within denotes

/-- The text of a form within range is read as what the form denotes. -/
theorem read_text
    {form : DayTimeForm}
    {duration : DayTimeDuration}
    (inRange : form.InRange)
    (denotes : form.Denotes duration) : read form.text = .ok duration := by
  have componentsRead :
      readComponents (unit 'D' form.days ++ DayTimeForm.timeText form.time) =
        .ok ⟨DayTimeForm.secondsOf form.days form.time,
          form.time.elim 0 TimePart.nanoseconds, form.days.isSome || form.time.isSome⟩ :=
    readComponents_eq_ok_iff.mpr ⟨form.days, form.time, rfl, inRange.secondsOf_le, rfl⟩
  have hasComponent : (form.days.isSome || form.time.isSome) = true :=
    Bool.or_eq_true_iff.mpr form.hasComponent
  have held : ofNanoseconds? (signed form.negative form.size) = some duration :=
    ofNanoseconds?_eq_some_iff.mpr denotes
  rw [signed, DayTimeForm.size, show 10 ^ 9 = 1000000000 from rfl] at held
  rw [read, form.isAscii_text]
  simp only [DayTimeForm.text, Text.leadingMinus_sign_append (show 'P' ≠ '-' by decide),
    componentsRead, hasComponent, bind, Except.bind, Bool.not_true, Bool.false_eq_true, if_false]
  rw [held]

/-- Reading a day-time duration succeeds exactly on the forms within range. -/
theorem readsExactly (text : List Char) :
    ReadsExactly (read text)
      (fun form : DayTimeForm => form.text = text ∧ form.InRange) DayTimeForm.Denotes :=
  .ofDenotes (fun _ accepted => DayTimeForm.exists_denotes accepted.2) fun _ =>
    ⟨exists_form_of_read, by
      rintro ⟨form, ⟨rfl, inRange⟩, denotes⟩
      exact read_text inRange denotes⟩

end DayTimeDuration

end PolicyDecision
