import PolicyDecision.Calendar.DateTime

/-!
# Lexical forms of dates and date-times

The texts are `[-]Y-MM-DD[zone]` and `[-]Y-MM-DDThh:mm:ss[.f][zone]`, where the
year has at least four digits and the zone is `Z` or a signed `hh:mm`. Faults
are reported in the order in which the fields stand in the text.
-/

namespace PolicyDecision

/-- Why a text is not a date or a date-time. -/
inductive CalendarFault
  | foreignCharacters
  | missingYearEnd
  | shortYear (digits : List Char)
  | missingMonthAndDay
  | field (fault : Text.FieldFault)
  | noSuchDay (year : Int) (month day : Nat)
  | badZone (text : List Char)
  | zoneOutOfRange (text : List Char)
  | missingTimeMark
  | afterDate (text : List Char)
  | missingTime
  | missingFraction
  | noSuchTime (hour minute second : Nat)
  deriving DecidableEq, Repr

/-- Two digits for a number below a hundred. -/
def twoDigits (number : Nat) : List Char :=
  Text.paddedNumeral 2 number

/-- The wording of an unreadable date or date-time. -/
def CalendarFault.message : CalendarFault → String
  | .foreignCharacters => "non-ASCII characters"
  | .missingYearEnd => "missing '-' after year"
  | .shortYear digits =>
      "year '" ++ String.ofList digits ++ "' must have at least four digits"
  | .missingMonthAndDay => "expected MM-DD after the year"
  | .field fault => fault.message
  | .noSuchDay year month day =>
      String.ofList (Text.signedNumeral year ++ '-' :: twoDigits month ++ '-' :: twoDigits day) ++
        " is not a calendar date"
  | .badZone text => "invalid timezone '" ++ String.ofList text ++ "'"
  | .zoneOutOfRange text => "timezone '" ++ String.ofList text ++ "' out of range"
  | .missingTimeMark => "missing 'T' separator"
  | .afterDate text => "unexpected '" ++ String.ofList text ++ "' after the date"
  | .missingTime => "expected hh:mm:ss after 'T'"
  | .missingFraction => "expected digits after '.'"
  | .noSuchTime hour minute second =>
      String.ofList (twoDigits hour ++ ':' :: twoDigits minute ++ ':' :: twoDigits second) ++
        " is not a valid time"

/-- The greatest number of a field that is a machine word. -/
def calendarFieldLimit : Nat := 4294967295

/-- The greatest number of a year field. -/
def yearFieldLimit : Nat := 2147483647

/-- The number of a field of a date or a time. -/
def readCalendarField (name : String) (limit : Nat) (text : List Char) : Except CalendarFault Nat :=
  match Text.readField name limit text with
  | .ok number => .ok number
  | .error fault => .error (.field fault)

namespace Offset

/-- The offset of a signed zone: two digits of hours and two of minutes. -/
def readSigned (negative : Bool) (zone text : List Char) : Except CalendarFault Offset :=
  match Text.cutAt ':' text with
  | none => .error (.badZone zone)
  | some (hourText, minuteText) =>
      if hourText.length ≠ 2 ∨ minuteText.length ≠ 2 then .error (.badZone zone)
      else do
        let hours ← readCalendarField "timezone hours" yearFieldLimit hourText
        let minutes ← readCalendarField "timezone minutes" yearFieldLimit minuteText
        if 14 < hours ∨ 59 < minutes then .error (.zoneOutOfRange zone)
        else
          let seconds : Int := hours * 3600 + minutes * 60
          match ofSeconds? (if negative then -seconds else seconds) with
          | some offset => .ok offset
          | none => .error (.zoneOutOfRange zone)

/-- The offset of a zone; no text means no offset. -/
def read (zone : List Char) : Except CalendarFault (Option Offset) :=
  match zone with
  | [] => .ok none
  | ['Z'] => .ok (ofSeconds? 0)
  | '+' :: text => (readSigned false zone text).map some
  | '-' :: text => (readSigned true zone text).map some
  | _ => .error (.badZone zone)

/-- The zone of an offset, in whole minutes. -/
def write (offset : Offset) : List Char :=
  if offset.seconds = 0 then ['Z']
  else
    let size := offset.seconds.natAbs
    (if offset.seconds < 0 then '-' else '+') ::
      (twoDigits (size / 3600) ++ ':' :: twoDigits (size % 3600 / 60))

end Offset

/-- The zone of an optional offset. -/
def writeZone : Option Offset → List Char
  | none => []
  | some offset => offset.write

namespace CalendarDay

/-- The day at the start of a text, and the text after it. -/
def read (text : List Char) : Except CalendarFault (CalendarDay × List Char) :=
  let (negative, body) := Text.leadingMinus text
  match Text.cutAt '-' body with
  | none => .error .missingYearEnd
  | some (yearText, rest) =>
      if yearText.length < 4 then .error (.shortYear yearText)
      else do
        let size ← readCalendarField "year" yearFieldLimit yearText
        let year : Int := if negative then -(size : Int) else size
        match rest with
        | tenMonths :: month :: '-' :: tenDays :: day :: zone =>
            let month ← readCalendarField "month" calendarFieldLimit [tenMonths, month]
            let day ← readCalendarField "day" calendarFieldLimit [tenDays, day]
            match ofFields? year month day with
            | some date => .ok (date, zone)
            | none => .error (.noSuchDay year month day)
        | _ => .error .missingMonthAndDay

/-- The year with at least four digits and a sign when it is negative. -/
def writeYear (year : Int) : List Char :=
  (if year < 0 then ['-'] else []) ++ Text.paddedNumeral 4 year.natAbs

/-- The text of a day. -/
def write (date : CalendarDay) : List Char :=
  writeYear date.year ++ '-' :: twoDigits date.month ++ '-' :: twoDigits date.day

end CalendarDay

namespace Date

/-- The date written by a text. -/
def read (text : List Char) : Except CalendarFault Date :=
  if !Text.isAscii text then .error .foreignCharacters
  else do
    let (day, zone) ← CalendarDay.read text
    let offset ← Offset.read zone
    return ⟨day, offset⟩

/-- The canonical text of a date. -/
def write (date : Date) : List Char :=
  date.day.write ++ writeZone date.offset

/-- The canonical text as a string. -/
def text (date : Date) : String :=
  String.ofList date.write

end Date

namespace TimeOfDay

/-- The nanoseconds of an optional fraction of a second, and the text after it. -/
def readFraction (text : List Char) : Except CalendarFault (Nat × List Char) :=
  match text with
  | '.' :: rest =>
      let digits := rest.takeWhile Char.isDigit
      if digits.isEmpty then .error .missingFraction
      else .ok (Text.fractionNanoseconds digits, rest.dropWhile Char.isDigit)
  | _ => .ok (0, text)

/-- The time at the start of a text, and the text after it. -/
def read (text : List Char) : Except CalendarFault (TimeOfDay × List Char) :=
  match text with
  | tenHours :: hour :: ':' :: tenMinutes :: minute :: ':' :: tenSeconds :: second :: rest => do
      let hour ← readCalendarField "hour" calendarFieldLimit [tenHours, hour]
      let minute ← readCalendarField "minute" calendarFieldLimit [tenMinutes, minute]
      let second ← readCalendarField "second" calendarFieldLimit [tenSeconds, second]
      let (nanosecond, zone) ← readFraction rest
      match ofFields? hour minute second nanosecond with
      | some time => .ok (time, zone)
      | none => .error (.noSuchTime hour minute second)
  | _ => .error .missingTime

/-- The text of a time: two digits for each field and a fraction without trailing
zeros. -/
def write (time : TimeOfDay) : List Char :=
  twoDigits time.hour ++ ':' :: twoDigits time.minute ++
    ':' :: (if time.second < 10 then ['0'] else []) ++
      Text.writeSeconds time.second time.nanosecond

end TimeOfDay

namespace DateTime

/-- The date-time written by a text. -/
def read (text : List Char) : Except CalendarFault DateTime :=
  if !Text.isAscii text then .error .foreignCharacters
  else
    match Text.cutAt 'T' text with
    | none => .error .missingTimeMark
    | some (dateText, timeText) => do
        let (day, rest) ← CalendarDay.read dateText
        if !rest.isEmpty then .error (.afterDate rest)
        else
          let (time, zone) ← TimeOfDay.read timeText
          let offset ← Offset.read zone
          return ⟨⟨day, time⟩, offset⟩

/-- The canonical text of a date-time. -/
def write (dateTime : DateTime) : List Char :=
  dateTime.moment.day.write ++ 'T' :: dateTime.moment.time.write ++ writeZone dateTime.offset

/-- The canonical text as a string. -/
def text (dateTime : DateTime) : String :=
  String.ofList dateTime.write

end DateTime
end PolicyDecision
