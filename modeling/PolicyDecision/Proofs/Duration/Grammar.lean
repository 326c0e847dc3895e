import PolicyDecision.Proofs.Duration.DayTimeForm
import PolicyDecision.Proofs.Duration.YearMonthForm

/-!
# The texts of durations

The duration types accept the forms of their grammars, with every number and the sum within
range. Day-time durations accept one kind of text more: seconds with a point and no digits
after it.
-/

namespace PolicyDecision

open Text (unit sign)

/-! ## Fractions without digits -/

/-- What ends in seconds ends in a point and their letter exactly when the seconds have a
point without digits after it. -/
theorem SecondsForm.pointed_iff (seconds : SecondsForm) (front : List Char) :
    ['.', 'S'] <:+ front ++ (seconds.body ++ ['S']) ↔ seconds.fraction = some [] := by
  constructor
  · rintro ⟨before, written⟩
    have pointLast : before ++ ['.'] = front ++ seconds.body := by
      have regrouped : before ++ ['.'] ++ ['S'] = front ++ seconds.body ++ ['S'] := by
        simpa using written
      exact List.append_cancel_right regrouped
    have last : (front ++ seconds.body).getLast? = some '.' := by
      rw [← pointLast, List.getLast?_concat]
    cases given : seconds.fraction with
    | none =>
        have body : seconds.body = seconds.whole.digits := by
          rw [SecondsForm.body, given]
          exact List.append_nil _
        rw [body, List.getLast?_append_of_ne_nil _ seconds.whole.digits_ne_nil] at last
        exact absurd (List.mem_of_getLast? last) (seconds.whole.not_mem rfl)
    | some digits =>
        have body : front ++ seconds.body = (front ++ seconds.whole.digits ++ ['.']) ++ digits := by
          rw [SecondsForm.body, given]
          simp
        rcases List.eq_nil_or_concat digits with rfl | ⟨initial, final, rfl⟩
        · rfl
        · rw [body, List.concat_eq_append, ← List.append_assoc, List.getLast?_concat] at last
          cases last
          exact absurd (seconds.isDigit_of_mem _ given '.' (by simp)) (by decide)
  · intro noDigits
    refine ⟨front ++ seconds.whole.digits, ?_⟩
    rw [SecondsForm.body, noDigits]
    simp

namespace DayTimeForm

/-- A form is complete exactly when its text does not end in a point and the letter of
seconds. -/
theorem isComplete_iff (form : DayTimeForm) : form.IsComplete ↔ ¬['.', 'S'] <:+ form.text := by
  obtain ⟨negative, days, time, hasComponent⟩ := form
  have dayText : Text.WrittenWith ['-', 'P', 'D'] (sign negative ++ 'P' :: unit 'D' days) :=
    (Text.writtenWith_sign (by decide) _).append
      (.cons (by decide) (Text.writtenWith_unit (by decide) _))
  have unsuffixed {text : List Char} (noSeconds : 'S' ∉ text) : ¬['.', 'S'] <:+ text :=
    fun isSuffix => noSeconds (isSuffix.subset (by decide))
  cases time with
  | none =>
      refine iff_of_true nofun (unsuffixed ?_)
      rw [DayTimeForm.text, timeText, List.append_nil]
      exact dayText.not_mem (show 'S' ∉ ['-', 'P', 'D'] by decide) rfl
  | some time =>
      have front : Text.WrittenWith ['-', 'P', 'D', 'T', 'H', 'M']
          (sign negative ++ 'P' :: unit 'D' days ++
            'T' :: (unit 'H' time.hours ++ unit 'M' time.minutes)) :=
        (dayText.mono (by decide)).append (.cons (by decide)
          ((Text.writtenWith_unit (by decide) _).append (Text.writtenWith_unit (by decide) _)))
      have written : (DayTimeForm.mk negative days (some time) hasComponent).text =
          sign negative ++ 'P' :: unit 'D' days ++
            'T' :: (unit 'H' time.hours ++ unit 'M' time.minutes) ++
              SecondsForm.text time.seconds := by
        simp [DayTimeForm.text, timeText, TimePart.text]
      rw [written]
      cases given : time.seconds with
      | none =>
          refine iff_of_true (by simp [IsComplete, given]) (unsuffixed ?_)
          rw [SecondsForm.text, List.append_nil]
          exact front.not_mem (show 'S' ∉ ['-', 'P', 'D', 'T', 'H', 'M'] by decide) rfl
      | some seconds =>
          rw [SecondsForm.text, seconds.pointed_iff]
          simp [IsComplete, given]

end DayTimeForm

/-- Reading a duration succeeds exactly on the forms whose numbers and sum are within range,
and gives their signed sum with the fraction cut to nanoseconds. The forms that are complete
are exactly the day-time durations that are read unless the text ends in a point and the
letter of seconds: such a text is read as if the point were not there. -/
theorem read_durations_iff (text : List Char) :
    ReadsExactly (DayTimeDuration.read text)
      (fun form : DayTimeForm => form.text = text ∧ form.InRange) DayTimeForm.Denotes ∧
    (ReadsExactly (DayTimeDuration.read text)
        (fun form : DayTimeForm => form.text = text ∧ form.InRange ∧ form.IsComplete)
        DayTimeForm.Denotes ↔
      ¬(['.', 'S'] <:+ text ∧ ∃ duration, DayTimeDuration.read text = .ok duration)) ∧
    ReadsExactly (YearMonthDuration.read text)
      (fun form : YearMonthForm => form.text = text ∧ form.InRange) YearMonthForm.Denotes := by
  have dayTime := DayTimeDuration.readsExactly text
  refine ⟨dayTime, ⟨?_, ?_⟩, YearMonthDuration.readsExactly text⟩
  · rintro complete ⟨pointed, isRead⟩
    obtain ⟨form, rfl, -, isComplete⟩ := complete.isOk_iff.mp isRead
    exact form.isComplete_iff.mp isComplete pointed
  · intro unpointed
    refine .ofDenotes (fun _ accepted => DayTimeForm.exists_denotes accepted.2.1) fun duration => ?_
    constructor
    · intro isRead
      obtain ⟨form, ⟨rfl, inRange⟩, denotes⟩ := (dayTime.ok_iff duration).mp isRead
      have isComplete : form.IsComplete :=
        form.isComplete_iff.mpr fun pointed => unpointed ⟨pointed, duration, isRead⟩
      exact ⟨form, ⟨rfl, inRange, isComplete⟩, denotes⟩
    · rintro ⟨form, ⟨written, inRange, -⟩, denotes⟩
      exact (dayTime.ok_iff duration).mpr ⟨form, ⟨written, inRange⟩, denotes⟩

/-- A second with a point and no digits after it is read as a second, and no complete form
has that text. -/
theorem read_second_without_fraction :
    (∃ second : DayTimeDuration, second.nanoseconds = 1000000000 ∧
      DayTimeDuration.read ['P', 'T', '1', '.', 'S'] = .ok second) ∧
    ¬∃ form : DayTimeForm, form.text = ['P', 'T', '1', '.', 'S'] ∧ form.IsComplete := by
  constructor
  · let pointed : SecondsForm := ⟨⟨['1'], rfl⟩, some [], by simp⟩
    let form : DayTimeForm := ⟨false, none, some ⟨none, none, some pointed, by simp⟩, by simp⟩
    have size : form.size = 1000000000 := by decide
    have inRange : form.InRange := ⟨by decide, by decide, by rw [size]; decide⟩
    obtain ⟨second, denotes⟩ := form.exists_denotes inRange
    have total : second.nanoseconds = 1000000000 := by
      rw [show second.nanoseconds = _ from denotes, size]
      rfl
    have written : form.text = ['P', 'T', '1', '.', 'S'] := by decide
    refine ⟨second, total, ?_⟩
    rw [← written]
    exact DayTimeDuration.read_text inRange denotes
  · rintro ⟨form, written, isComplete⟩
    exact form.isComplete_iff.mp isComplete (written ▸ ⟨['P', 'T', '1'], rfl⟩)

end PolicyDecision
