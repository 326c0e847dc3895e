import PolicyDecision.Proofs.Text.Field

/-!
# Byte positions

A text can be cut where a character starts, and at its end; a cut elsewhere, or a byte read
beyond the end, fails. In a text of ASCII every position up to the length is the start of a
character or the end, so that positions count characters.
-/

namespace PolicyDecision
namespace Text

/-- The bytes of a text in UTF-8. -/
def bytes (text : List Char) : List UInt8 :=
  text.flatMap String.utf8EncodeChar

/-- The byte at a position, if the text reaches that far. -/
def byteAt? (position : Nat) (text : List Char) : Option UInt8 :=
  (bytes text)[position]?

/-- The text before and after a byte position, if it is not inside a character or beyond the
end. -/
def splitAtByte? : Nat → List Char → Option (List Char × List Char)
  | 0, text => some ([], text)
  | _ + 1, [] => none
  | position + 1, character :: rest =>
      if character.utf8Size ≤ position + 1 then
        (splitAtByte? (position + 1 - character.utf8Size) rest).map fun parts =>
          (character :: parts.1, parts.2)
      else none

/-- The text between two byte positions, if both are positions of the text. -/
def slice? (start stop : Nat) (text : List Char) : Option (List Char) := do
  let (before, _) ← splitAtByte? stop text
  let (_, part) ← splitAtByte? start before
  return part

/-- The text from a byte position on, if it is a position of the text. -/
def sliceFrom? (start : Nat) (text : List Char) : Option (List Char) :=
  (splitAtByte? start text).map Prod.snd

/-- The byte position of the first character that satisfies a condition. -/
def position? (satisfies : Char → Bool) : List Char → Option Nat
  | [] => none
  | character :: rest =>
      if satisfies character then some 0
      else (position? satisfies rest).map (character.utf8Size + ·)

/-! ## Texts of ASCII -/

theorem isAscii_cons_iff {character : Char} {rest : List Char} :
    isAscii (character :: rest) = true ↔ character.toNat < 128 ∧ isAscii rest = true := by
  simp [isAscii]

theorem isAscii_append_iff {before after : List Char} :
    isAscii (before ++ after) = true ↔ isAscii before = true ∧ isAscii after = true := by
  simp [isAscii]

theorem utf8Size_eq_one {character : Char} (ascii : character.toNat < 128) :
    character.utf8Size = 1 :=
  Char.utf8Size_eq_one_iff.mpr (UInt32.le_iff_toNat_le.mpr (Nat.le_of_lt_succ ascii))

theorem bytes_eq_map {text : List Char} (ascii : isAscii text = true) :
    bytes text = text.map fun character => character.val.toUInt8 := by
  induction text with
  | nil => rfl
  | cons character rest inductionHypothesis =>
      obtain ⟨single, restAscii⟩ := isAscii_cons_iff.mp ascii
      rw [bytes, List.flatMap_cons,
        String.utf8EncodeChar_eq_singleton (utf8Size_eq_one single)]
      exact congrArg _ (inductionHypothesis restAscii)

theorem length_bytes {text : List Char} (ascii : isAscii text = true) :
    (bytes text).length = text.length := by
  rw [bytes_eq_map ascii, List.length_map]

theorem byteAt?_eq {text : List Char} (ascii : isAscii text = true) (position : Nat) :
    byteAt? position text = text[position]?.map fun character => character.val.toUInt8 := by
  rw [byteAt?, bytes_eq_map ascii, List.getElem?_map]

/-- Characters of ASCII are told apart by their bytes. -/
theorem toUInt8_inj
    {first second : Char}
    (firstAscii : first.toNat < 128)
    (secondAscii : second.toNat < 128) :
    first.val.toUInt8 = second.val.toUInt8 ↔ first = second := by
  refine ⟨fun same => Char.ext (UInt32.toNat_inj.mp ?_), fun same => by rw [same]⟩
  have sameBytes := congrArg UInt8.toNat same
  rw [UInt32.toNat_toUInt8, UInt32.toNat_toUInt8] at sameBytes
  rw [Char.toNat] at firstAscii secondAscii
  omega

theorem splitAtByte?_eq
    {text : List Char}
    {position : Nat}
    (ascii : isAscii text = true)
    (within : position ≤ text.length) :
    splitAtByte? position text = some (text.take position, text.drop position) := by
  induction text generalizing position with
  | nil =>
      cases Nat.le_zero.mp within
      rfl
  | cons character rest inductionHypothesis =>
      cases position with
      | zero => rfl
      | succ position =>
          obtain ⟨single, restAscii⟩ := isAscii_cons_iff.mp ascii
          simp [splitAtByte?, utf8Size_eq_one single,
            inductionHypothesis restAscii (Nat.le_of_succ_le_succ within)]

theorem isAscii_take
    {text : List Char}
    (ascii : isAscii text = true)
    (count : Nat) : isAscii (text.take count) = true :=
  List.all_eq_true.mpr fun character member =>
    List.all_eq_true.mp ascii character (List.mem_of_mem_take member)

theorem slice?_eq
    {text : List Char}
    {start stop : Nat}
    (ascii : isAscii text = true)
    (ordered : start ≤ stop)
    (within : stop ≤ text.length) :
    slice? start stop text = some ((text.take stop).drop start) := by
  have inBefore : start ≤ (text.take stop).length := by
    rwa [List.length_take_of_le within]
  rw [slice?, splitAtByte?_eq ascii within, Option.bind_eq_bind, Option.bind_some]
  dsimp only
  rw [splitAtByte?_eq (isAscii_take ascii stop) inBefore]
  rfl

theorem sliceFrom?_eq
    {text : List Char}
    {start : Nat}
    (ascii : isAscii text = true)
    (within : start ≤ text.length) : sliceFrom? start text = some (text.drop start) := by
  rw [sliceFrom?, splitAtByte?_eq ascii within]
  rfl

theorem position?_eq_none
    {satisfies : Char → Bool}
    {text : List Char}
    (never : ∀ character ∈ text, satisfies character = false) :
    position? satisfies text = none := by
  induction text with
  | nil => rfl
  | cons character rest inductionHypothesis =>
      obtain ⟨fails, restFails⟩ := List.forall_mem_cons.mp never
      simp [position?, fails, inductionHypothesis restFails]

/-- In a text of ASCII a position counts the characters before it. -/
theorem position?_append
    {satisfies : Char → Bool}
    {before : List Char}
    {found : Char}
    (ascii : isAscii before = true)
    (never : ∀ character ∈ before, satisfies character = false)
    (isFound : satisfies found = true)
    (after : List Char) :
    position? satisfies (before ++ found :: after) = some before.length := by
  induction before with
  | nil => simp [position?, isFound]
  | cons character rest inductionHypothesis =>
      obtain ⟨single, restAscii⟩ := isAscii_cons_iff.mp ascii
      obtain ⟨fails, restFails⟩ := List.forall_mem_cons.mp never
      simp [position?, fails, utf8Size_eq_one single, inductionHypothesis restAscii restFails,
        Nat.add_comm]

/-- The position of a separator is the length of what stands before it. -/
theorem position?_separator
    {text : List Char}
    (ascii : isAscii text = true)
    (separator : Char) :
    position? (· == separator) text =
      (cutAt separator text).map fun parts => parts.1.length := by
  have differs {before : List Char} (absent : separator ∉ before) :
      ∀ character ∈ before, (character == separator) = false :=
    fun _ member => beq_false_of_ne (ne_of_mem_of_not_mem member absent)
  cases cut : cutAt separator text with
  | none => exact position?_eq_none (differs (cutAt_eq_none_iff.mp cut))
  | some parts =>
      obtain ⟨rfl, absent⟩ := cutAt_eq_some_iff.mp cut
      exact position?_append (isAscii_append_iff.mp ascii).1 (differs absent) (beq_self_eq_true _) _

/-- The end of the characters at the start of a text that satisfy a condition. -/
theorem getD_position?_not
    {satisfies : Char → Bool}
    {text : List Char}
    (ascii : isAscii text = true) :
    (position? (fun character => !satisfies character) text).getD (bytes text).length =
      (text.takeWhile satisfies).length := by
  rw [length_bytes ascii]
  have satisfied : ∀ character ∈ text.takeWhile satisfies, (!satisfies character) = false :=
    fun _ member => by rw [List.mem_takeWhile_imp member]; rfl
  cases stop : text.dropWhile satisfies with
  | nil =>
      have all : text.takeWhile satisfies = text := by
        simpa [stop] using List.takeWhile_append_dropWhile (p := satisfies) (l := text)
      rw [all] at satisfied
      rw [position?_eq_none satisfied, Option.getD_none, all]
  | cons found after =>
      have parts : text.takeWhile satisfies ++ found :: after = text := by
        rw [← stop, List.takeWhile_append_dropWhile]
      have isFound : (!satisfies found) = true := by
        simpa [stop] using List.head_dropWhile_not (p := satisfies) (l := text) (by simp [stop])
      conv_lhs => rw [← parts]
      rw [← parts] at ascii
      rw [position?_append (isAscii_append_iff.mp ascii).1 satisfied isFound, Option.getD_some]

end Text
end PolicyDecision
