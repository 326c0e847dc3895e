import PolicyDecision.Proofs.Duration.DayTimeForm

/-!
# Written day-time durations

The canonical text of a day-time duration is that of a form whose components add up to the
duration, so that it is read as the duration that it was written from. This holds up to the
longest durations.
-/

namespace PolicyDecision

open Text (unitOf)

/-! ## Canonical forms -/

/-- Seconds with their fraction, left out when they are zero. -/
def SecondsForm.canonical (seconds nanoseconds : Nat) : Option SecondsForm :=
  if seconds = 0 ∧ nanoseconds = 0 then none
  else
    some
      { whole := .ofNumber seconds
        fraction := if nanoseconds = 0 then none else some (Text.fractionDigits nanoseconds)
        isDigit_of_mem := by
          split
          · exact nofun
          · rintro digits ⟨⟩
            exact Text.fractionDigits_isDigit nanoseconds }

namespace SecondsForm

variable {seconds nanoseconds : Nat}

@[simp] theorem isSome_canonical :
    (canonical seconds nanoseconds).isSome ↔ seconds ≠ 0 ∨ nanoseconds ≠ 0 := by
  unfold canonical
  split
  · rename_i isZero
    simp [isZero]
  · rename_i nonzero
    simp only [Option.isSome_some, true_iff]
    omega

@[simp] theorem wholeOf_canonical : wholeOf (canonical seconds nanoseconds) = seconds := by
  unfold canonical
  split
  · rename_i isZero
    exact isZero.1.symm
  · exact Text.Numeral.number_ofNumber seconds

theorem nanosecondsOf_canonical (small : nanoseconds < 1000000000) :
    nanosecondsOf (canonical seconds nanoseconds) = nanoseconds := by
  have digits := Text.fractionNanoseconds_fractionDigits small
  rw [Text.fractionNanoseconds_eq (Text.fractionDigits_isDigit nanoseconds)] at digits
  unfold canonical
  split
  · rename_i isZero
    exact isZero.2.symm
  · simp only [nanosecondsOf, SecondsForm.nanoseconds]
    split
    · rename_i isZero
      exact isZero.symm
    · exact digits

theorem text_canonical (seconds nanoseconds : Nat) :
    text (canonical seconds nanoseconds) =
      if seconds = 0 ∧ nanoseconds = 0 then []
      else Text.writeSeconds seconds nanoseconds ++ ['S'] := by
  unfold canonical
  split
  · rfl
  · simp only [text, body, Text.Numeral.ofNumber]
    split
    · rename_i isZero
      simp [isZero, Text.writeSeconds]
    · rename_i nonzero
      rw [Text.writeSeconds_of_pos (Nat.pos_of_ne_zero nonzero)]
      rfl

end SecondsForm

/-- A time that is not zero has hours, minutes or seconds. -/
theorem isSome_unitOf_or_canonical
    {seconds nanoseconds : Nat}
    (nonzero : ¬(seconds = 0 ∧ nanoseconds = 0)) :
    (unitOf (seconds / 3600)).isSome ∨ (unitOf (seconds % 3600 / 60)).isSome ∨
      (SecondsForm.canonical (seconds % 60) nanoseconds).isSome := by
  rw [Text.isSome_unitOf, Text.isSome_unitOf, SecondsForm.isSome_canonical]
  omega

/-- The hours, minutes and seconds of a time below a day, left out when there is none. -/
def TimePart.canonical (seconds nanoseconds : Nat) : Option TimePart :=
  if isZero : seconds = 0 ∧ nanoseconds = 0 then none
  else
    some
      { hours := unitOf (seconds / 3600)
        minutes := unitOf (seconds % 3600 / 60)
        seconds := SecondsForm.canonical (seconds % 60) nanoseconds
        hasComponent := isSome_unitOf_or_canonical isZero }

namespace TimePart

variable {seconds nanoseconds : Nat}

@[simp] theorem isSome_canonical :
    (canonical seconds nanoseconds).isSome ↔ seconds ≠ 0 ∨ nanoseconds ≠ 0 := by
  unfold canonical
  split
  · rename_i isZero
    simp [isZero]
  · rename_i nonzero
    simp only [Option.isSome_some, true_iff]
    omega

theorem wholeSeconds_canonical : (canonical seconds nanoseconds).elim 0 wholeSeconds = seconds := by
  unfold canonical
  split
  · rename_i isZero
    exact isZero.1.symm
  · simp only [Option.elim_some, wholeSeconds, Text.unitNumber_unitOf,
      SecondsForm.wholeOf_canonical]
    omega

theorem nanoseconds_canonical (small : nanoseconds < 1000000000) :
    (canonical seconds nanoseconds).elim 0 TimePart.nanoseconds = nanoseconds := by
  unfold canonical
  split
  · rename_i isZero
    exact isZero.2.symm
  · exact SecondsForm.nanosecondsOf_canonical small

theorem timeText_canonical (seconds nanoseconds : Nat) :
    DayTimeForm.timeText (canonical seconds nanoseconds) =
      DayTimeDuration.writeTime seconds nanoseconds := by
  unfold canonical DayTimeDuration.writeTime
  split
  · rfl
  · simp only [DayTimeForm.timeText, text, Text.unit_unitOf, SecondsForm.text_canonical,
      List.append_assoc]

end TimePart

/-! ## Canonical texts -/

namespace DayTimeDuration

/-- The canonical text of a duration is read as that duration. -/
theorem read_write (duration : DayTimeDuration) : read duration.write = .ok duration := by
  by_cases isZero : duration.nanoseconds = 0
  · let noSeconds : SecondsForm := ⟨.ofNumber 0, none, nofun⟩
    let form : DayTimeForm := ⟨false, none, some ⟨none, none, some noSeconds, by simp⟩, by simp⟩
    have size : form.size = 0 := by decide
    have written : form.text = duration.write := by
      rw [write, if_pos isZero]
      rfl
    have denotes : form.Denotes duration := by
      rw [DayTimeForm.Denotes, isZero, size]
      rfl
    have inRange : form.InRange := ⟨by decide, by decide, by rw [size]; decide⟩
    rw [← written]
    exact read_text inRange denotes
  · have limit := duration.bounded
    simp only [dayTimeLimit] at limit
    have nonzero : duration.nanoseconds.natAbs ≠ 0 := Int.natAbs_ne_zero.mpr isZero
    let seconds := duration.nanoseconds.natAbs / 1000000000
    let nanoseconds := duration.nanoseconds.natAbs % 1000000000
    let form : DayTimeForm :=
      { negative := decide (duration.nanoseconds < 0)
        days := unitOf (seconds / 86400)
        time := TimePart.canonical (seconds % 86400) nanoseconds
        hasComponent := by
          rw [Text.isSome_unitOf, TimePart.isSome_canonical]
          omega }
    have small : nanoseconds < 1000000000 := Nat.mod_lt _ (by decide)
    have counted : DayTimeForm.secondsOf form.days form.time = seconds := by
      simp only [DayTimeForm.secondsOf, form, Text.unitNumber_unitOf,
        TimePart.wholeSeconds_canonical]
      omega
    have size : form.size = duration.nanoseconds.natAbs := by
      rw [DayTimeForm.size, counted]
      simp only [form, TimePart.nanoseconds_canonical small]
      omega
    have written : form.text = duration.write := by
      simp only [DayTimeForm.text, form, write, if_neg isZero, Text.sign, Text.unit_unitOf,
        TimePart.timeText_canonical, decide_eq_true_eq, seconds, nanoseconds]
    have denotes : form.Denotes duration := by
      simp only [DayTimeForm.Denotes, size, Text.signed, form, decide_eq_true_eq,
        Text.signed_natAbs]
    have inRange : form.InRange :=
      form.inRange_of_secondsOf_le (by rw [counted, componentLimit]; omega) denotes
    rw [← written]
    exact read_text inRange denotes

end DayTimeDuration
end PolicyDecision
