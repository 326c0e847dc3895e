import PolicyDecision.Proofs.Calendar.Grammar
import PolicyDecision.Proofs.Text.Position

/-!
# Reading dates and date-times by position

Dates and date-times can be read by searching for separators and cutting out fields between
byte positions, where each cut and each byte must lie within the text and between its
characters. The positions are always in range, whatever the text: texts with characters
outside ASCII are turned away first, and the lengths are checked before the fields are cut
out. The outcome, with its fault, is the one of reading character by character.
-/

namespace PolicyDecision

/-- Why a text is not read by position: a position that is not one of the text, or a fault of
the text. -/
inductive PositionFault
  | outOfRange
  | calendar (fault : CalendarFault)
  deriving DecidableEq, Repr

namespace PositionFault

/-- What lies at a position, which must be one of the text. -/
def inRange {α : Type} : Option α → Except PositionFault α
  | none => .error .outOfRange
  | some found => .ok found

/-- A reading that uses no positions. -/
def positionless {α : Type} (reading : Except CalendarFault α) : Except PositionFault α :=
  reading.mapError .calendar

@[simp] theorem inRange_some {α : Type} (found : α) : inRange (some found) = .ok found := rfl

/-- Stages that agree but for the kind of their faults make computations that do. -/
theorem bind_eq_positionless
    {α β : Type}
    {reading : Except CalendarFault α}
    {next : α → Except PositionFault β}
    {rest : α → Except CalendarFault β}
    (agree : ∀ value, next value = positionless (rest value)) :
    positionless reading >>= next = positionless (reading >>= rest) := by
  cases reading with
  | error => rfl
  | ok value => exact agree value

end PositionFault

open PositionFault (inRange positionless)

/-- The byte at a position is that of a character. -/
def hasMarkAt (position : Nat) (mark : Char) (text : List Char) : Except PositionFault Bool := do
  let byte ← inRange (Text.byteAt? position text)
  return byte == mark.val.toUInt8

/-- The field between two positions. -/
def readFieldAt
    (name : String)
    (start stop : Nat)
    (text : List Char) : Except PositionFault Nat := do
  let field ← inRange (Text.slice? start stop text)
  positionless (readCalendarField name calendarFieldLimit field)

namespace CalendarDay

/-- The day of a year at the start of a text, by position, and the text after it. -/
def readInYearByPosition
    (year : Int)
    (text : List Char) : Except PositionFault (CalendarDay × List Char) :=
  if (Text.bytes text).length < 5 then .error (.calendar .missingMonthAndDay)
  else do
    let marked ← hasMarkAt 2 '-' text
    if !marked then .error (.calendar .missingMonthAndDay)
    else
      let month ← readFieldAt "month" 0 2 text
      let day ← readFieldAt "day" 3 5 text
      match ofFields? year month day with
      | some date => do
          let zone ← inRange (Text.sliceFrom? 5 text)
          return (date, zone)
      | none => .error (.calendar (.noSuchDay year month day))

/-- The day at the start of a text, by position, and the text after it. -/
def readByPosition (text : List Char) : Except PositionFault (CalendarDay × List Char) :=
  let (negative, body) := Text.leadingMinus text
  match Text.position? (· == '-') body with
  | none => .error (.calendar .missingYearEnd)
  | some yearEnd => do
      let yearText ← inRange (Text.slice? 0 yearEnd body)
      if (Text.bytes yearText).length < 4 then .error (.calendar (.shortYear yearText))
      else
        let size ← positionless (readCalendarField "year" yearFieldLimit yearText)
        let afterYear ← inRange (Text.sliceFrom? (yearEnd + 1) body)
        readInYearByPosition (if negative then -(size : Int) else size) afterYear

end CalendarDay

namespace TimeOfDay

/-- The nanoseconds of an optional fraction of a second, by position, and the text after it. -/
def readFractionByPosition (text : List Char) : Except PositionFault (Nat × List Char) :=
  match text with
  | '.' :: afterPoint => do
      let stop := (Text.position? (fun character => !character.isDigit) afterPoint).getD
        (Text.bytes afterPoint).length
      if stop = 0 then .error (.calendar .missingFraction)
      else
        let digits ← inRange (Text.slice? 0 stop afterPoint)
        let kept ← inRange (Text.slice? 0 (min (Text.bytes digits).length 9) digits)
        let zone ← inRange (Text.sliceFrom? stop afterPoint)
        return (Text.numeralValue (kept.rightpad 9 '0'), zone)
  | _ => .ok (0, text)

/-- The time at the start of a text, by position, and the text after it. -/
def readByPosition (text : List Char) : Except PositionFault (TimeOfDay × List Char) :=
  if (Text.bytes text).length < 8 then .error (.calendar .missingTime)
  else do
    let hourMarked ← hasMarkAt 2 ':' text
    if !hourMarked then .error (.calendar .missingTime)
    else
      let minuteMarked ← hasMarkAt 5 ':' text
      if !minuteMarked then .error (.calendar .missingTime)
      else
        let hour ← readFieldAt "hour" 0 2 text
        let minute ← readFieldAt "minute" 3 5 text
        let second ← readFieldAt "second" 6 8 text
        let afterSecond ← inRange (Text.sliceFrom? 8 text)
        let (nanosecond, zone) ← readFractionByPosition afterSecond
        match ofFields? hour minute second nanosecond with
        | some time => .ok (time, zone)
        | none => .error (.calendar (.noSuchTime hour minute second))

end TimeOfDay

/-- The date written by a text, by position. -/
def Date.readByPosition (text : List Char) : Except PositionFault Date :=
  if !Text.isAscii text then .error (.calendar .foreignCharacters)
  else do
    let (day, zone) ← CalendarDay.readByPosition text
    let offset ← positionless (Offset.read zone)
    return ⟨day, offset⟩

/-- The date-time written by a text, by position. -/
def DateTime.readByPosition (text : List Char) : Except PositionFault DateTime :=
  if !Text.isAscii text then .error (.calendar .foreignCharacters)
  else
    match Text.cutAt 'T' text with
    | none => .error (.calendar .missingTimeMark)
    | some (dateText, timeText) => do
        let (day, rest) ← CalendarDay.readByPosition dateText
        if !rest.isEmpty then .error (.calendar (.afterDate rest))
        else
          let (time, zone) ← TimeOfDay.readByPosition timeText
          let offset ← positionless (Offset.read zone)
          return ⟨⟨day, time⟩, offset⟩

/-! ## Positions in range -/

/-- A field between two positions of the text is cut out and read. -/
theorem readFieldAt_eq
    {text : List Char}
    {start stop : Nat}
    (ascii : Text.isAscii text = true)
    (ordered : start ≤ stop)
    (within : stop ≤ text.length)
    (name : String) :
    readFieldAt name start stop text =
      positionless (readCalendarField name calendarFieldLimit ((text.take stop).drop start)) := by
  rw [readFieldAt, Text.slice?_eq ascii ordered within]
  rfl

/-- The bytes at the positions of the text tell its characters. -/
theorem hasMarkAt_eq
    {text : List Char}
    {position : Nat}
    {mark : Char}
    (ascii : Text.isAscii text = true)
    (within : position < text.length)
    (markAscii : mark.toNat < 128) :
    hasMarkAt position mark text = .ok (text[position] == mark) := by
  have single : text[position].toNat < 128 := by
    simpa using List.all_eq_true.mp ascii _ (List.getElem_mem within)
  have sameTest : (text[position].val.toUInt8 == mark.val.toUInt8) = (text[position] == mark) := by
    rw [Bool.eq_iff_iff, beq_iff_eq, beq_iff_eq, Text.toUInt8_inj single markAscii]
  rw [hasMarkAt, Text.byteAt?_eq ascii, List.getElem?_eq_getElem within]
  exact congrArg Except.ok sameTest

namespace CalendarDay

section

variable {tenMonths months tenDays days : Char} {zone text : List Char}

theorem readInYearByPosition_of_marked
    (ascii : Text.isAscii (tenMonths :: months :: '-' :: tenDays :: days :: zone) = true)
    (year : Int) :
    readInYearByPosition year (tenMonths :: months :: '-' :: tenDays :: days :: zone) =
      positionless (do
        let month ← readCalendarField "month" calendarFieldLimit [tenMonths, months]
        let day ← readCalendarField "day" calendarFieldLimit [tenDays, days]
        match ofFields? year month day with
        | some date => .ok (date, zone)
        | none => .error (.noSuchDay year month day)) := by
  have long : 5 ≤ (tenMonths :: months :: '-' :: tenDays :: days :: zone).length :=
    Nat.le_add_left _ _
  have marked :
      hasMarkAt 2 '-' (tenMonths :: months :: '-' :: tenDays :: days :: zone) = .ok true :=
    hasMarkAt_eq ascii (by omega) (by decide)
  have month := readFieldAt_eq ascii (show 0 ≤ 2 by decide) (by omega) "month"
  have day := readFieldAt_eq ascii (show 3 ≤ 5 by decide) long "day"
  rw [readInYearByPosition, Text.length_bytes ascii, if_neg (Nat.not_lt.mpr long), marked, ok_bind,
    Bool.not_true, if_neg Bool.false_ne_true, month, day, Text.sliceFrom?_eq ascii long]
  refine PositionFault.bind_eq_positionless fun month =>
    PositionFault.bind_eq_positionless fun day => ?_
  cases ofFields? year month day <;> rfl

theorem readInYearByPosition_of_unmarked
    (ascii : Text.isAscii text = true)
    (unmarked : ∀ tenMonths months tenDays days zone,
      text ≠ tenMonths :: months :: '-' :: tenDays :: days :: zone)
    (year : Int) :
    readInYearByPosition year text = .error (.calendar .missingMonthAndDay) := by
  rw [readInYearByPosition, Text.length_bytes ascii]
  split
  · rfl
  · rename_i long
    rw [Nat.not_lt] at long
    have differs : text[2] ≠ '-' := by
      intro isMark
      match text, long with
      | tenMonths :: months :: _ :: tenDays :: days :: zone, _ =>
        cases isMark
        exact unmarked _ _ _ _ _ rfl
    rw [hasMarkAt_eq ascii (by omega) (by decide), ok_bind, beq_false_of_ne differs]
    rfl

end

/-- A day is read by position as it is read character by character. -/
theorem readByPosition_eq
    {text : List Char}
    (ascii : Text.isAscii text = true) : readByPosition text = positionless (read text) := by
  have bodyAscii : Text.isAscii (Text.leadingMinus text).2 = true := by
    rw [← Text.sign_append_leadingMinus text] at ascii
    exact (Text.isAscii_append_iff.mp ascii).2
  rw [readByPosition, read]
  dsimp only
  rw [Text.position?_separator bodyAscii]
  cases cut : Text.cutAt '-' (Text.leadingMinus text).2 with
  | none => rfl
  | some parts =>
      obtain ⟨yearText, afterYear⟩ := parts
      obtain ⟨written, -⟩ := Text.cutAt_eq_some_iff.mp cut
      rw [written] at bodyAscii
      obtain ⟨yearAscii, markAscii⟩ := Text.isAscii_append_iff.mp bodyAscii
      have restAscii := (Text.isAscii_cons_iff.mp markAscii).2
      have yearPart : Text.slice? 0 yearText.length (yearText ++ '-' :: afterYear) =
          some yearText := by
        rw [Text.slice?_eq bodyAscii (Nat.zero_le _) (by simp), List.take_left, List.drop_zero]
      have rest : Text.sliceFrom? (yearText.length + 1) (yearText ++ '-' :: afterYear) =
          some afterYear := by
        rw [Text.sliceFrom?_eq bodyAscii (by simp), ← List.drop_drop, List.drop_left]
        rfl
      simp only [Option.map_some, written, yearPart, PositionFault.inRange_some, ok_bind,
        Text.length_bytes yearAscii, rest]
      split
      · rfl
      · refine PositionFault.bind_eq_positionless fun size => ?_
        generalize (if (Text.leadingMinus text).1 = true then -(size : Int) else size) = year
        -- The rest has the shape that is matched character by character, or it has not.
        split
        · exact readInYearByPosition_of_marked restAscii _
        · rename_i unmarked
          exact readInYearByPosition_of_unmarked restAscii
            (fun _ _ _ _ _ same => unmarked _ _ _ _ _ same) _

/-- Outside ASCII a cut may fall inside a character. -/
example : readByPosition ['2', '0', '2', '4', '-', '0', '1', '-', '1', 'é'] =
    .error .outOfRange := by
  rfl

end CalendarDay

namespace TimeOfDay

theorem readFraction_of_noPoint
    {text : List Char}
    (noPoint : ∀ afterPoint, text ≠ '.' :: afterPoint) : readFraction text = .ok (0, text) := by
  unfold readFraction
  split
  · exact absurd rfl (noPoint _)
  · rfl

theorem readFractionByPosition_of_noPoint
    {text : List Char}
    (noPoint : ∀ afterPoint, text ≠ '.' :: afterPoint) :
    readFractionByPosition text = .ok (0, text) := by
  unfold readFractionByPosition
  split
  · exact absurd rfl (noPoint _)
  · rfl

/-- A fraction is read by position as it is read character by character. -/
theorem readFractionByPosition_eq
    {text : List Char}
    (ascii : Text.isAscii text = true) :
    readFractionByPosition text = positionless (readFraction text) := by
  by_cases pointed : ∃ afterPoint, text = '.' :: afterPoint
  · obtain ⟨afterPoint, rfl⟩ := pointed
    have restAscii := (Text.isAscii_cons_iff.mp ascii).2
    have parts : afterPoint.takeWhile Char.isDigit ++ afterPoint.dropWhile Char.isDigit =
        afterPoint := List.takeWhile_append_dropWhile
    have fraction : readFraction ('.' :: afterPoint) =
        if (afterPoint.takeWhile Char.isDigit).isEmpty then .error .missingFraction
        else .ok (Text.fractionNanoseconds (afterPoint.takeWhile Char.isDigit),
          afterPoint.dropWhile Char.isDigit) := rfl
    rw [fraction, readFractionByPosition, Text.getD_position?_not restAscii]
    generalize afterPoint.takeWhile Char.isDigit = digits at parts ⊢
    generalize afterPoint.dropWhile Char.isDigit = zone at parts ⊢
    obtain rfl := parts
    have digitsAscii := (Text.isAscii_append_iff.mp restAscii).1
    have within : digits.length ≤ (digits ++ zone).length := by simp
    rw [Text.slice?_eq restAscii (Nat.zero_le _) within, Text.sliceFrom?_eq restAscii within,
      List.take_left, List.drop_zero, List.drop_left, PositionFault.inRange_some, ok_bind,
      Text.length_bytes digitsAscii,
      Text.slice?_eq digitsAscii (Nat.zero_le _) (Nat.min_le_left _ _), List.drop_zero]
    cases digits with
    | nil => rfl
    | cons first others =>
        have kept : (first :: others).take (min (first :: others).length 9) =
            (first :: others).take 9 := by
          rw [Nat.min_comm, ← List.take_eq_take_min]
        rw [kept]
        rfl
  · have noPoint : ∀ afterPoint, text ≠ '.' :: afterPoint := not_exists.mp pointed
    rw [readFraction_of_noPoint noPoint, readFractionByPosition_of_noPoint noPoint]
    rfl

section

variable
  {tenHours hours tenMinutes minutes tenSeconds seconds : Char}
  {afterSecond text : List Char}

theorem readByPosition_of_marked
    (ascii : Text.isAscii (tenHours :: hours :: ':' :: tenMinutes :: minutes :: ':' ::
      tenSeconds :: seconds :: afterSecond) = true) :
    readByPosition (tenHours :: hours :: ':' :: tenMinutes :: minutes :: ':' ::
        tenSeconds :: seconds :: afterSecond) =
      positionless (do
        let hour ← readCalendarField "hour" calendarFieldLimit [tenHours, hours]
        let minute ← readCalendarField "minute" calendarFieldLimit [tenMinutes, minutes]
        let second ← readCalendarField "second" calendarFieldLimit [tenSeconds, seconds]
        let (nanosecond, zone) ← readFraction afterSecond
        match ofFields? hour minute second nanosecond with
        | some time => .ok (time, zone)
        | none => .error (.noSuchTime hour minute second)) := by
  have long : 8 ≤ (tenHours :: hours :: ':' :: tenMinutes :: minutes :: ':' ::
      tenSeconds :: seconds :: afterSecond).length := Nat.le_add_left _ _
  have hourMarked : hasMarkAt 2 ':' (tenHours :: hours :: ':' :: tenMinutes :: minutes :: ':' ::
      tenSeconds :: seconds :: afterSecond) = .ok true :=
    hasMarkAt_eq ascii (by omega) (by decide)
  have minuteMarked : hasMarkAt 5 ':' (tenHours :: hours :: ':' :: tenMinutes :: minutes :: ':' ::
      tenSeconds :: seconds :: afterSecond) = .ok true :=
    hasMarkAt_eq ascii (by omega) (by decide)
  have hour := readFieldAt_eq ascii (show 0 ≤ 2 by decide) (by omega) "hour"
  have minute := readFieldAt_eq ascii (show 3 ≤ 5 by decide) (by omega) "minute"
  have second := readFieldAt_eq ascii (show 6 ≤ 8 by decide) long "second"
  have restAscii : Text.isAscii afterSecond = true := by
    simp only [Text.isAscii_cons_iff] at ascii
    simp only [ascii]
  rw [readByPosition, Text.length_bytes ascii, if_neg (Nat.not_lt.mpr long), hourMarked, ok_bind,
    Bool.not_true, if_neg Bool.false_ne_true, minuteMarked, ok_bind, Bool.not_true,
    if_neg Bool.false_ne_true, hour, minute, second, Text.sliceFrom?_eq ascii long]
  refine PositionFault.bind_eq_positionless fun hour =>
    PositionFault.bind_eq_positionless fun minute =>
      PositionFault.bind_eq_positionless fun second => ?_
  rw [PositionFault.inRange_some, ok_bind]
  change (readFractionByPosition afterSecond >>= _) = _
  rw [readFractionByPosition_eq restAscii]
  refine PositionFault.bind_eq_positionless fun fraction => ?_
  dsimp only
  cases ofFields? hour minute second fraction.1 <;> rfl

theorem readByPosition_of_unmarked
    (ascii : Text.isAscii text = true)
    (unmarked : ∀ tenHours hours tenMinutes minutes tenSeconds seconds afterSecond,
      text ≠ tenHours :: hours :: ':' :: tenMinutes :: minutes :: ':' ::
        tenSeconds :: seconds :: afterSecond) :
    readByPosition text = .error (.calendar .missingTime) := by
  rw [readByPosition, Text.length_bytes ascii]
  split
  · rfl
  · rename_i long
    rw [Nat.not_lt] at long
    have differs : ¬(text[2] = ':' ∧ text[5] = ':') := by
      rintro ⟨hourMark, minuteMark⟩
      match text, long with
      | tenHours :: hours :: _ :: tenMinutes :: minutes :: _ :: tenSeconds :: seconds :: after, _ =>
        cases hourMark
        cases minuteMark
        exact unmarked _ _ _ _ _ _ _ rfl
    rw [hasMarkAt_eq ascii (by omega) (by decide), ok_bind]
    split
    · rfl
    · rename_i hourMarked
      have hourMark : text[2] = ':' := by simpa using hourMarked
      rw [hasMarkAt_eq ascii (by omega) (by decide), ok_bind,
        beq_false_of_ne fun minuteMark => differs ⟨hourMark, minuteMark⟩]
      rfl

end

/-- A time is read by position as it is read character by character. -/
theorem readByPosition_eq
    {text : List Char}
    (ascii : Text.isAscii text = true) : readByPosition text = positionless (read text) := by
  unfold read
  split
  · exact readByPosition_of_marked ascii
  · rename_i unmarked
    exact readByPosition_of_unmarked ascii fun _ _ _ _ _ _ _ same => unmarked _ _ _ _ _ _ _ same

end TimeOfDay

/-- A date is read by position as it is read character by character. -/
theorem Date.readByPosition_eq (text : List Char) :
    readByPosition text = positionless (read text) := by
  unfold readByPosition read
  split
  · rfl
  · rename_i ascii
    rw [Bool.not_eq_true', Bool.not_eq_false] at ascii
    rw [CalendarDay.readByPosition_eq ascii]
    refine PositionFault.bind_eq_positionless fun parts => ?_
    exact PositionFault.bind_eq_positionless fun offset => rfl

/-- A date-time is read by position as it is read character by character. -/
theorem DateTime.readByPosition_eq (text : List Char) :
    readByPosition text = positionless (read text) := by
  unfold readByPosition read
  split
  · rfl
  · rename_i ascii
    rw [Bool.not_eq_true', Bool.not_eq_false] at ascii
    cases cut : Text.cutAt 'T' text with
    | none => rfl
    | some parts =>
        obtain ⟨dateText, timeText⟩ := parts
        obtain ⟨rfl, -⟩ := Text.cutAt_eq_some_iff.mp cut
        obtain ⟨dateAscii, markAscii⟩ := Text.isAscii_append_iff.mp ascii
        have timeAscii := (Text.isAscii_cons_iff.mp markAscii).2
        dsimp only
        rw [CalendarDay.readByPosition_eq dateAscii]
        refine PositionFault.bind_eq_positionless fun day => ?_
        split
        · rfl
        · rw [TimeOfDay.readByPosition_eq timeAscii]
          refine PositionFault.bind_eq_positionless fun time => ?_
          exact PositionFault.bind_eq_positionless fun offset => rfl

/-- Dates and date-times are read exactly from the forms of their texts whose fields are in
range, with those fields, and reading them by position has the same outcome on every text, so
that no position is ever out of range. -/
theorem read_calendar_iff (text : List Char) :
    ReadsExactly (Date.read text)
      (fun form : DateForm => form.text = text ∧ form.InRange) DateForm.Denotes ∧
    ReadsExactly (DateTime.read text)
      (fun form : DateTimeForm => form.text = text ∧ form.InRange) DateTimeForm.Denotes ∧
    Date.readByPosition text = (Date.read text).mapError PositionFault.calendar ∧
    DateTime.readByPosition text = (DateTime.read text).mapError PositionFault.calendar :=
  ⟨Date.readsExactly text, DateTime.readsExactly text, Date.readByPosition_eq text,
    DateTime.readByPosition_eq text⟩

end PolicyDecision
