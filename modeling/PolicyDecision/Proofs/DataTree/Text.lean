import PolicyDecision.DataTree.JsonReader
import Mathlib.Data.List.Basic

/-!
# Texts of trees

A text format is faithful when what it writes for a plain tree is read as that tree
again. JSON text is. The reading of a part is followed through whatever text comes after
it, so that the parts of a list or a table can be put together.
-/

namespace PolicyDecision

/-! ## Plain trees -/

namespace DataTree

/-- A tree without numbers whose lists and tables nest to at most so many levels. No name
stands twice in a table. -/
inductive IsPlain : Nat → DataTree → Prop
  | null {levels : Nat} : IsPlain levels .null
  | boolean {levels : Nat} (truth : Bool) : IsPlain levels (.boolean truth)
  | string {levels : Nat} (text : String) : IsPlain levels (.string text)
  | list
      {levels : Nat}
      {items : List DataTree}
      (each : ∀ item ∈ items, IsPlain levels item) : IsPlain (levels + 1) (.list items)
  | table
      {levels : Nat}
      {entries : List (String × DataTree)}
      (distinct : (entries.map Prod.fst).Nodup)
      (each : ∀ entry ∈ entries, IsPlain levels entry.2) : IsPlain (levels + 1) (.table entries)

end DataTree

/-- A way to write trees as texts and to read them. -/
structure TextFormat where
  write : DataTree → String
  read? : String → Option DataTree

/-- Plain trees are read back from their texts, as deep as lists and tables may nest. -/
def TextFormat.Faithful (format : TextFormat) : Prop :=
  ∀ tree : DataTree, tree.IsPlain Json.nestingLimit → format.read? (format.write tree) = some tree

namespace Json

open Toml (Reader hexDigit?)

/-- What is written for some data is read as these data, whatever comes after. -/
def ReadsBack {α : Type} (read : Reader α) (written : List Char) (data : α) : Prop :=
  ∀ rest, read (written ++ rest) = some (data, rest)

/-! ## Characters -/

theorem hexDigit?_digitChar : ∀ digit < 16, hexDigit? digit.digitChar = some digit := by
  decide

/-- Hexadecimal digits are read from the first to the last. -/
theorem readHex_digitChar
    (digits : List Nat)
    (small : ∀ digit ∈ digits, digit < 16)
    (sofar : Nat)
    (rest : List Char) :
    readHex digits.length sofar (digits.map Nat.digitChar ++ rest) =
      some (digits.foldl (fun number digit => 16 * number + digit) sofar, rest) := by
  induction digits generalizing sofar with
  | nil => rfl
  | cons digit others inductionHypothesis =>
      have isDigit := hexDigit?_digitChar digit (small digit List.mem_cons_self)
      simp only [List.length_cons, List.map_cons, List.cons_append, readHex, isDigit,
        List.foldl_cons]
      exact inductionHypothesis (fun other member => small other (List.mem_cons_of_mem _ member)) _

/-- The last hexadecimal digit of a number filled with zeros. -/
theorem leftpad_toDigits_succ (width number : Nat) :
    (Nat.toDigits 16 number).leftpad (width + 2) '0' =
      (Nat.toDigits 16 (number / 16)).leftpad (width + 1) '0' ++ [(number % 16).digitChar] := by
  by_cases single : number < 16
  · rw [Nat.div_eq_of_lt single, Nat.mod_eq_of_lt single, Nat.toDigits_of_lt_base single,
      Nat.toDigits_zero]
    simp [List.leftpad, List.replicate_succ']
  · rw [Nat.toDigits_of_base_le (by decide) (Nat.le_of_not_lt single)]
    simp [List.leftpad]

/-- The four hexadecimal digits of a UTF-16 unit. -/
def unitDigits (unit : Nat) : List Nat :=
  [unit / 4096, unit / 256 % 16, unit / 16 % 16, unit % 16]

theorem escapedUnit_eq
    {unit : Nat}
    (small : unit < 0x10000) :
    escapedUnit unit = '\\' :: 'u' :: (unitDigits unit).map Nat.digitChar := by
  have firstDigit : unit / 16 / 16 / 16 < 16 := by omega
  rw [escapedUnit, leftpad_toDigits_succ, leftpad_toDigits_succ, leftpad_toDigits_succ,
    Nat.toDigits_of_lt_base firstDigit]
  simp [unitDigits, List.leftpad, Nat.div_div_eq_div_mul]

theorem readHex_unitDigits
    {unit : Nat}
    (small : unit < 0x10000) :
    ReadsBack (readHex 4 0) ((unitDigits unit).map Nat.digitChar) unit := by
  intro rest
  have digits : ∀ digit ∈ unitDigits unit, digit < 16 := by
    simp [unitDigits]
    omega
  have denoted :
      (unitDigits unit).foldl (fun number digit => 16 * number + digit) 0 = unit := by
    simp only [unitDigits, List.foldl_cons, List.foldl_nil]
    omega
  have read := readHex_digitChar (unitDigits unit) digits 0 rest
  rw [denoted] at read
  exact read

/-- A unit that stands alone is read as its character. -/
theorem readCharacter_single
    {unit : Nat}
    (small : unit < 0x10000)
    (notLeading : isLeading unit = false)
    (notTrailing : isTrailing unit = false) :
    ReadsBack readCharacter (escapedUnit unit) (Char.ofNat unit) := by
  intro rest
  rw [escapedUnit_eq small]
  simp only [List.cons_append, readCharacter, ↓reduceIte, readEscape, readUnits,
    readHex_unitDigits small rest, Option.bind_eq_bind, Option.bind_some, notLeading, notTrailing,
    Bool.false_eq_true, Option.pure_def]

/-- A pair of surrogates is read as one character. -/
theorem readCharacter_pair
    {leading trailing : Nat}
    (first : isLeading leading = true)
    (second : isTrailing trailing = true) :
    ReadsBack readCharacter (escapedUnit leading ++ escapedUnit trailing)
      (Char.ofNat (pairCode leading trailing)) := by
  intro rest
  have leadingSmall : leading < 0x10000 := by
    simp only [isLeading, Bool.and_eq_true, decide_eq_true_eq] at first
    omega
  have trailingSmall : trailing < 0x10000 := by
    simp only [isTrailing, Bool.and_eq_true, decide_eq_true_eq] at second
    omega
  rw [escapedUnit_eq leadingSmall, escapedUnit_eq trailingSmall]
  simp only [List.cons_append, List.append_assoc, readCharacter, ↓reduceIte, readEscape, readUnits,
    readHex_unitDigits leadingSmall _, readHex_unitDigits trailingSmall rest, Option.bind_eq_bind,
    Option.bind_some, first, second, Option.pure_def]

/-- A character is read from its UTF-16 units. -/
theorem readCharacter_units (character : Char) :
    ReadsBack readCharacter ((units character).flatMap escapedUnit) character := by
  have valid : character.toNat < 0xD800 ∨ 0xDFFF < character.toNat ∧ character.toNat < 0x110000 :=
    character.valid
  by_cases small : character.toNat < 0x10000
  · have single := readCharacter_single small
      (by simp only [isLeading, Bool.and_eq_false_iff, decide_eq_false_iff_not]; omega)
      (by simp only [isTrailing, Bool.and_eq_false_iff, decide_eq_false_iff_not]; omega)
    rw [Char.ofNat_toNat] at single
    rwa [units, if_pos small, List.flatMap_singleton]
  · -- The leading unit holds the upper ten bits and the trailing one the lower ten.
    generalize high : 0xD800 + (character.toNat - 0x10000) / 0x400 = leading
    generalize low : 0xDC00 + (character.toNat - 0x10000) % 0x400 = trailing
    have pair := @readCharacter_pair leading trailing
      (by simp only [isLeading, Bool.and_eq_true, decide_eq_true_eq]; omega)
      (by simp only [isTrailing, Bool.and_eq_true, decide_eq_true_eq]; omega)
    have code : pairCode leading trailing = character.toNat := by
      unfold pairCode
      omega
    rw [code, Char.ofNat_toNat] at pair
    rw [units, if_neg small, high, low, List.flatMap_cons, List.flatMap_singleton]
    exact pair

theorem readCharacter_escaped (character : Char) :
    ReadsBack readCharacter (escaped character) character := by
  unfold escaped
  split
  · rename_i special
    intro rest
    simp only [Bool.or_eq_true, decide_eq_true_eq] at special
    rcases special with rfl | rfl <;> rfl
  · rename_i notSpecial
    split
    · rename_i printable
      intro rest
      simp only [Bool.or_eq_true, decide_eq_true_eq, not_or] at notSpecial
      simp only [Bool.and_eq_true, decide_eq_true_eq] at printable
      rw [List.cons_append, readCharacter, if_neg notSpecial.2,
        if_neg (Nat.not_lt_of_le printable.1)]
      rfl
    · exact readCharacter_units character

theorem exists_units_cons (character : Char) :
    ∃ unit others, units character = unit :: others := by
  unfold units
  dsimp only
  split <;> exact ⟨_, _, rfl⟩

/-- No character within quotes looks like the closing quote. -/
theorem exists_escaped_cons (character : Char) :
    ∃ first more, escaped character = first :: more ∧ first ≠ '"' := by
  unfold escaped
  split
  · exact ⟨'\\', [character], rfl, by decide⟩
  · rename_i notSpecial
    split
    · exact ⟨character, [], rfl, by simp_all⟩
    · obtain ⟨unit, others, shape⟩ := exists_units_cons character
      rw [shape]
      exact ⟨'\\', _, rfl, by decide⟩

/-! ## Strings -/

theorem readContentWithin_flatMap_escaped
    (content bound rest : List Char)
    (bounded : content.length < bound.length) :
    readContentWithin bound (content.flatMap escaped ++ '"' :: rest) = some (content, rest) := by
  induction content generalizing bound with
  | nil =>
      obtain ⟨mark, others, rfl⟩ := List.exists_cons_of_length_pos bounded
      rfl
  | cons character others inductionHypothesis =>
      obtain ⟨mark, bound, rfl⟩ := List.exists_cons_of_length_pos (Nat.zero_lt_of_lt bounded)
      have othersRead := inductionHypothesis bound (Nat.lt_of_succ_lt_succ bounded)
      have characterRead := readCharacter_escaped character (others.flatMap escaped ++ '"' :: rest)
      -- The reader looks for the closing quote before it reads a character.
      obtain ⟨first, more, shape, noQuote⟩ := exists_escaped_cons character
      rw [shape] at characterRead
      rw [List.flatMap_cons, List.append_assoc, shape, List.cons_append, readContentWithin]
      · rw [← List.cons_append, characterRead]
        simp only [Option.bind_eq_bind, Option.bind_some, othersRead]
        rfl
      · rintro text ⟨rfl, -⟩
        exact noQuote rfl

theorem length_le_length_flatMap_escaped (content : List Char) :
    content.length ≤ (content.flatMap escaped).length := by
  induction content with
  | nil => exact Nat.le_refl _
  | cons character others inductionHypothesis =>
      obtain ⟨first, more, shape, -⟩ := exists_escaped_cons character
      rw [List.flatMap_cons, shape, List.length_append, List.length_cons, List.length_cons]
      omega

/-- The rest of a text in quotes is read as the text. -/
theorem readContent_escaped (text : String) :
    ReadsBack readContent (text.toList.flatMap escaped ++ ['"']) text := by
  intro rest
  have bounded : text.toList.length < (text.toList.flatMap escaped ++ '"' :: rest).length := by
    have shorter := length_le_length_flatMap_escaped text.toList
    rw [List.length_append, List.length_cons]
    omega
  rw [List.append_assoc, List.singleton_append, readContent,
    readContentWithin_flatMap_escaped _ _ _ bounded, Option.map_some]
  exact congrArg (fun content => some (content, rest)) String.ofList_toList

theorem toList_quoted (text : String) :
    (quoted text).toList = '"' :: (text.toList.flatMap escaped ++ ['"']) :=
  String.toList_ofList

/-! ## Lists and tables -/

/-- What is written starts with a character that is neither blank nor the closing mark. -/
def Opens (closing : Char) (written : List Char) : Prop :=
  ∃ first more, written = first :: more ∧ isBlank first = false ∧ first ≠ closing

theorem skipBlanks_cons
    {first : Char}
    (visible : isBlank first = false)
    (more : List Char) : skipBlanks (first :: more) = first :: more := by
  rw [skipBlanks, List.dropWhile_cons, if_neg (by simp [visible])]

section Items

variable {α : Type} {readItem : Reader α} {write : α → List Char} {closing : Char}

/-- Items with commas between them are read up to the closing mark. -/
theorem readItemsWithin_intercalate
    (visible : isBlank closing = false)
    (noComma : closing ≠ ',')
    {items : List α}
    (nonempty : items ≠ [])
    (each : ∀ item ∈ items, ReadsBack readItem (write item) item)
    (bound rest : List Char)
    (bounded : items.length ≤ bound.length) :
    readItemsWithin readItem closing bound
      ([','].intercalate (items.map write) ++ closing :: rest) = some (items, rest) := by
  induction items generalizing bound with
  | nil => exact absurd rfl nonempty
  | cons item others inductionHypothesis =>
      obtain ⟨mark, bound, rfl⟩ :=
        List.exists_cons_of_length_pos (Nat.lt_of_lt_of_le (Nat.succ_pos _) bounded)
      have itemRead := each item List.mem_cons_self
      cases others with
      | nil =>
          rw [List.map_cons, List.map_nil, List.intercalate_singleton, readItemsWithin,
            itemRead (closing :: rest)]
          simp [skipBlanks_cons visible]
      | cons next more =>
          have othersRead := inductionHypothesis (List.cons_ne_nil _ _)
            (fun other member => each other (List.mem_cons_of_mem _ member))
            bound (Nat.le_of_succ_le_succ bounded)
          rw [List.map_cons] at othersRead
          rw [List.map_cons, List.map_cons, List.intercalate_cons_cons, List.append_assoc,
            List.append_assoc, readItemsWithin, itemRead]
          simp only [Option.bind_eq_bind, Option.bind_some, List.singleton_append]
          rw [skipBlanks_cons rfl]
          simp only [othersRead]
          rfl

theorem exists_intercalate_cons (first : List Char) (others : List (List Char)) :
    ∃ more, [','].intercalate (first :: others) = first ++ more := by
  cases others with
  | nil => exact ⟨[], by simp [List.intercalate_singleton]⟩
  | cons next others =>
      refine ⟨[','] ++ [','].intercalate (next :: others), ?_⟩
      rw [List.intercalate_cons_cons, List.append_assoc]

theorem length_le_length_intercalate
    {items : List α}
    (opens : ∀ item ∈ items, Opens closing (write item)) :
    items.length ≤ ([','].intercalate (items.map write)).length := by
  induction items with
  | nil => exact Nat.le_refl _
  | cons item others inductionHypothesis =>
      obtain ⟨first, more, shape, -⟩ := opens item List.mem_cons_self
      cases others with
      | nil => simp [List.intercalate_singleton, shape]
      | cons next others =>
          have shorter := inductionHypothesis fun other member =>
            opens other (List.mem_cons_of_mem _ member)
          rw [List.map_cons] at shorter
          rw [List.map_cons, List.map_cons, List.intercalate_cons_cons, shape]
          simp only [List.length_append, List.length_cons] at shorter ⊢
          omega

/-- The items after an opening mark are read up to the closing one. -/
theorem readItems_intercalate
    (visible : isBlank closing = false)
    (noComma : closing ≠ ',')
    {items : List α}
    (opens : ∀ item ∈ items, Opens closing (write item))
    (each : ∀ item ∈ items, ReadsBack readItem (write item) item) :
    ReadsBack (readItems readItem closing) ([','].intercalate (items.map write) ++ [closing])
      items := by
  intro rest
  rw [List.append_assoc, List.singleton_append]
  cases items with
  | nil => simp [readItems, skipBlanks_cons visible, List.intercalate_nil]
  | cons item others =>
      have bounded := length_le_length_intercalate opens
      obtain ⟨first, more, shape, firstVisible, notClosing⟩ := opens item List.mem_cons_self
      obtain ⟨further, spread⟩ := exists_intercalate_cons (write item) (others.map write)
      rw [← List.map_cons, shape, List.cons_append] at spread
      have itemsRead := readItemsWithin_intercalate visible noComma (List.cons_ne_nil _ _) each
        (first :: (more ++ further ++ closing :: rest)) rest
        (by rw [← List.cons_append, ← spread, List.length_append]; omega)
      rw [spread, List.cons_append] at itemsRead ⊢
      rw [readItems, skipBlanks_cons firstVisible]
      simp only [if_neg notClosing, itemsRead]

end Items

/-! ## Trees -/

theorem jsonItems_eq_map (items : List DataTree) :
    DataTree.jsonItems items = items.map DataTree.json := by
  induction items with
  | nil => rfl
  | cons item others inductionHypothesis =>
      rw [DataTree.jsonItems, inductionHypothesis, List.map_cons]

/-- The text of an entry of a table. -/
def entryText (entry : String × DataTree) : String :=
  quoted entry.1 ++ ":" ++ entry.2.json

theorem jsonEntries_eq_map (entries : List (String × DataTree)) :
    DataTree.jsonEntries entries = entries.map entryText := by
  induction entries with
  | nil => rfl
  | cons entry others inductionHypothesis =>
      rw [DataTree.jsonEntries, inductionHypothesis, List.map_cons, entryText]

theorem toList_json_list (items : List DataTree) :
    (DataTree.list items).json.toList =
      '[' :: ([','].intercalate (items.map fun item => item.json.toList) ++ [']']) := by
  rw [DataTree.json, jsonItems_eq_map]
  simp [String.toList_intercalate, Function.comp_def]

theorem toList_json_table (entries : List (String × DataTree)) :
    (DataTree.table entries).json.toList =
      '\x7b' :: ([','].intercalate (entries.map fun entry => (entryText entry).toList) ++
        ['\x7d']) := by
  rw [DataTree.json, jsonEntries_eq_map]
  simp [String.toList_intercalate, Function.comp_def]

theorem opens_json
    {levels : Nat}
    {tree : DataTree}
    (plain : tree.IsPlain levels) : Opens ']' tree.json.toList := by
  cases plain with
  | null => exact ⟨'n', _, rfl, rfl, by decide⟩
  | boolean truth => cases truth <;> exact ⟨_, _, rfl, rfl, by decide⟩
  | string text => exact ⟨'"', _, toList_quoted text, rfl, by decide⟩
  | list each => exact ⟨'[', _, toList_json_list _, rfl, by decide⟩
  | table distinct each => exact ⟨'\x7b', _, toList_json_table _, rfl, by decide⟩

theorem toList_entryText (entry : String × DataTree) :
    (entryText entry).toList =
      '"' :: (entry.1.toList.flatMap escaped ++ ['"'] ++ ':' :: entry.2.json.toList) := by
  simp [entryText, toList_quoted]

theorem readEntry_entryText
    {readItem : Reader DataTree}
    {entry : String × DataTree}
    (itemRead : ReadsBack readItem entry.2.json.toList entry.2) :
    ReadsBack (readEntry readItem) (entryText entry).toList entry := by
  intro rest
  have nameRead := readContent_escaped entry.1 (':' :: (entry.2.json.toList ++ rest))
  rw [toList_entryText, List.cons_append, List.append_assoc, List.cons_append, readEntry,
    skipBlanks_cons rfl]
  simp only [nameRead, Option.bind_eq_bind, Option.bind_some]
  rw [skipBlanks_cons rfl]
  simp only [itemRead rest, Option.bind_some]
  rfl

theorem readTree_quote (levels : Nat) (text : List Char) :
    readTree levels ('"' :: text) =
      (readContent text).map fun (content, rest) => (.string content, rest) := by
  cases levels <;> rfl

/-- A plain tree is read from its text, as long as it nests no deeper than allowed. -/
theorem readTree_json
    {levels : Nat}
    {tree : DataTree}
    (plain : tree.IsPlain levels) : ReadsBack (readTree levels) tree.json.toList tree := by
  induction plain with
  | @null levels =>
      intro rest
      cases levels <;> rfl
  | @boolean levels truth =>
      intro rest
      cases levels <;> cases truth <;> rfl
  | @string levels text =>
      intro rest
      have contentRead := readContent_escaped text rest
      rw [DataTree.json, toList_quoted, List.cons_append]
      rw [readTree_quote, contentRead, Option.map_some]
  | list each inductionHypothesis =>
      intro rest
      have itemsRead := readItems_intercalate rfl (by decide)
        (fun item member => opens_json (each item member)) inductionHypothesis rest
      rw [toList_json_list, List.cons_append, readTree, skipBlanks_cons rfl]
      simp only [itemsRead, Option.map_some]
  | @table levels entries distinct each inductionHypothesis =>
      intro rest
      have opens (entry : String × DataTree) (_ : entry ∈ entries) :
          Opens '\x7d' (entryText entry).toList :=
        ⟨'"', _, toList_entryText entry, rfl, by decide⟩
      have entriesRead := readItems_intercalate rfl (by decide) opens
        (fun entry member => readEntry_entryText (inductionHypothesis entry member)) rest
      rw [toList_json_table, List.cons_append, readTree, skipBlanks_cons rfl]
      simp only [entriesRead, Option.map_some]

/-- JSON text as a format. -/
def format : TextFormat := ⟨DataTree.json, read?⟩

/-- Plain trees are read back from their JSON text. -/
theorem format_faithful : format.Faithful := by
  intro tree plain
  have treeRead := readTree_json plain []
  rw [List.append_nil] at treeRead
  change read? tree.json = some tree
  rw [read?, treeRead]
  rfl

end Json
end PolicyDecision
