import PolicyDecision.Codec.Result
import PolicyDecision.Proofs.DataTree.Text
import PolicyDecision.Proofs.SortedMap
import PolicyDecision.Proofs.Value.CanonicalText
import Mathlib.Logic.Equiv.Defs

/-!
# Lossless written forms

Data are written as trees and read from them. A written form is lossless when reading
undoes writing as long as all values in the data have lexical forms, and when all values
in what is read were denoted by texts. Lists, sorted maps and records of data with
lossless forms have lossless forms again. A record is put together field by field, since
what one field writes is not seen by the reading of another.
-/

namespace PolicyDecision

/-! ## Entries of a record -/

namespace Record

theorem field?_append (first second : List (String × DataTree)) (name : String) :
    field? ⟨first ++ second⟩ name = (field? ⟨first⟩ name).or (field? ⟨second⟩ name) := by
  unfold field? DataTree.entry?
  rw [List.find?_append, Option.map_or]

theorem field?_eq_none
    {entries : List (String × DataTree)} {name : String}
    (absent : ∀ entry ∈ entries, entry.1 ≠ name) : field? ⟨entries⟩ name = none :=
  SortedMap.lookup_eq_none absent

theorem field?_singleton (name : String) (tree : DataTree) :
    field? ⟨[(name, tree)]⟩ name = some tree :=
  SortedMap.lookup_cons_self name tree []

theorem field?_optionalEntry (name : String) (text : Option String) :
    field? ⟨DataTree.optionalEntry name text⟩ name = text.map DataTree.string := by
  cases text with
  | none => rfl
  | some text => exact field?_singleton name _

end Record

/-! ## Written forms -/

/-- Some text denotes the value. -/
def Value.IsDenoted (value : Value) : Prop :=
  ∃ datatype lexical, Value.parse datatype lexical = .ok value

/-- Reading undoes writing where all values have lexical forms, and whatever is read has
values that were denoted by texts. Written trees are plain. -/
structure Lossless
    {α : Type}
    (encode : α → DataTree)
    (decode : Decoder α)
    (values : α → List Value)
    (levels : Nat) : Prop where
  decode_encode : ∀ data, (∀ value ∈ values data, value.IsLexical) → decode (encode data) = .ok data
  denoted : ∀ tree data, decode tree = .ok data → ∀ value ∈ values data, value.IsDenoted
  isPlain : ∀ data, (encode data).IsPlain levels

namespace Lossless

variable {α κ : Type} {encode : α → DataTree} {decode : Decoder α} {values : α → List Value}
variable {levels : Nat}

theorem string : Lossless DataTree.string Decoder.string (fun _ => []) levels where
  decode_encode _ _ := rfl
  denoted := by simp
  isPlain := .string

theorem boolean : Lossless DataTree.boolean Decoder.boolean (fun _ => []) levels where
  decode_encode _ _ := rfl
  denoted := by simp
  isPlain := .boolean

/-- Whatever is found by its name can be written as its name. -/
theorem named
    {name : α → String} {find? : String → Option α}
    (found : ∀ data, find? (name data) = some data) :
    Lossless (fun data => .string (name data)) (.named find?) (fun _ => []) levels where
  decode_encode data _ := by simp [Decoder.named, found]
  denoted := by simp
  isPlain data := .string (name data)

/-! ### Lists -/

theorem denoted_items
    (lossless : Lossless encode decode values levels)
    {trees : List DataTree} {data : List α}
    (decoded : Decoder.items decode trees = .ok data) :
    ∀ value ∈ data.flatMap values, value.IsDenoted := by
  induction trees generalizing data with
  | nil =>
      cases decoded
      simp
  | cons tree rest inductionHypothesis =>
      obtain ⟨first, firstDecoded, decoded⟩ := exists_of_bind_eq_ok decoded
      obtain ⟨others, othersDecoded, decoded⟩ := exists_of_bind_eq_ok decoded
      cases decoded
      intro value member
      rw [List.flatMap_cons, List.mem_append] at member
      rcases member with ofFirst | ofOthers
      · exact lossless.denoted tree first firstDecoded value ofFirst
      · exact inductionHypothesis othersDecoded value ofOthers

theorem list (lossless : Lossless encode decode values levels) :
    Lossless (DataTree.ofList encode) (Decoder.list decode) (fun data => data.flatMap values)
      (levels + 1) where
  decode_encode data lexical := by
    refine Decoder.items_map data fun item member => lossless.decode_encode item ?_
    exact fun value held => lexical value (List.mem_flatMap.mpr ⟨item, member, held⟩)
  denoted tree data decoded := by
    unfold Decoder.list at decoded
    split at decoded
    · exact lossless.denoted_items decoded
    · cases decoded
  isPlain data := by
    refine .list fun tree member => ?_
    obtain ⟨item, -, rfl⟩ := List.mem_map.mp member
    exact lossless.isPlain item

/-! ### Sorted maps -/

section Table

variable {name : κ → String} {find? : String → Option κ}

theorem decodeEntries_map
    (found : ∀ key, find? (name key) = some key)
    (entries : List (κ × α))
    (reads : ∀ entry ∈ entries, decode (encode entry.2) = .ok entry.2) :
    SortedMap.decodeEntries find? decode
      (entries.map fun entry => (name entry.1, encode entry.2)) = .ok entries := by
  induction entries with
  | nil => rfl
  | cons first rest inductionHypothesis =>
      have restReads := inductionHypothesis fun entry member =>
        reads entry (List.mem_cons_of_mem _ member)
      simp only [List.map_cons, SortedMap.decodeEntries, found, reads first List.mem_cons_self,
        restReads]
      rfl

theorem denoted_decodeEntries
    (lossless : Lossless encode decode values levels)
    {trees : List (String × DataTree)} {entries : List (κ × α)}
    (decoded : SortedMap.decodeEntries find? decode trees = .ok entries) :
    ∀ entry ∈ entries, ∀ value ∈ values entry.2, value.IsDenoted := by
  induction trees generalizing entries with
  | nil =>
      cases decoded
      simp
  | cons tree rest inductionHypothesis =>
      unfold SortedMap.decodeEntries at decoded
      split at decoded
      · cases decoded
      · obtain ⟨first, firstDecoded, decoded⟩ := exists_of_bind_eq_ok decoded
        obtain ⟨others, othersDecoded, decoded⟩ := exists_of_bind_eq_ok decoded
        cases decoded
        intro entry member
        rcases List.mem_cons.mp member with rfl | later
        · exact lossless.denoted _ first firstDecoded
        · exact inductionHypothesis othersDecoded entry later

variable
  [LT κ] [DecidableLT κ] [DecidableEq κ]
  [Trans (α := κ) (β := κ) (γ := κ) (· < ·) (· < ·) (· < ·)]
  [Std.Irrefl (α := κ) (· < ·)]
  [Std.Trichotomous (α := κ) (· < ·)]

/-- The values of a map of keys that are found by their names. -/
theorem table
    (found : ∀ key, find? (name key) = some key)
    (lossless : Lossless encode decode values levels) :
    Lossless (SortedMap.encodeEntries name encode) (SortedMap.decodeTable find? decode)
      (fun map => map.values.flatMap values) (levels + 1) where
  decode_encode map lexical := by
    have reads (entry : κ × α) (member : entry ∈ map.entries) :
        decode (encode entry.2) = .ok entry.2 := by
      refine lossless.decode_encode entry.2 fun value held => lexical value ?_
      exact List.mem_flatMap.mpr ⟨entry.2, List.mem_map_of_mem member, held⟩
    simp only [SortedMap.encodeEntries, SortedMap.decodeTable, decodeEntries_map found _ reads]
    exact congrArg Except.ok map.ofList_entries
  denoted tree map decoded := by
    unfold SortedMap.decodeTable at decoded
    split at decoded
    · obtain ⟨entries, entriesDecoded, rfl⟩ := exists_of_map_eq_ok decoded
      intro value member
      obtain ⟨data, dataMember, held⟩ := List.mem_flatMap.mp member
      obtain ⟨entry, entryMember, rfl⟩ := SortedMap.mem_of_mem_values_ofList dataMember
      exact lossless.denoted_decodeEntries entriesDecoded entry entryMember value held
    · cases decoded
  isPlain map := by
    refine .table ?_ fun written member => ?_
    · rw [List.map_map]
      refine List.pairwise_map.mpr (map.increasing.imp fun {first second} below same => ?_)
      have sameKey : first.1 = second.1 := by
        rw [← Option.some_inj, ← found, ← found]
        exact congrArg find? same
      exact SortedMap.ne_of_lt below sameKey
    · obtain ⟨entry, -, rfl⟩ := List.mem_map.mp member
      exact lossless.isPlain entry.2

end Table
end Lossless

/-! ## Records -/

/-- The fields of a record with the given names, or some of them. They are read from the
entries at their own names only, so fields of other names may stand beside them. -/
structure Fields (names : List String) (α : Type) (levels : Nat) where
  encode : α → List (String × DataTree)
  decode : Record → Except DecodeFault α
  values : α → List Value
  named : ∀ data, ∀ entry ∈ encode data, entry.1 ∈ names
  distinct : names.Nodup → ∀ data, ((encode data).map Prod.fst).Nodup
  isPlain : ∀ data, ∀ entry ∈ encode data, entry.2.IsPlain levels
  decode_encode : names.Nodup → ∀ (record : Record) data,
    (∀ value ∈ values data, value.IsLexical) →
    (∀ name ∈ names, record.field? name = Record.field? ⟨encode data⟩ name) →
      decode record = .ok data
  denoted : ∀ record data, decode record = .ok data → ∀ value ∈ values data, value.IsDenoted

namespace Fields

variable {α β : Type} {encode : α → DataTree} {decode : Decoder α} {values : α → List Value}
variable {levels : Nat} {names others : List String}

/-- A field that is always written and must be there. -/
def required (name : String) (lossless : Lossless encode decode values levels) :
    Fields [name] α levels where
  encode data := [(name, encode data)]
  decode record := record.required name decode
  values := values
  named := by simp
  distinct := by simp
  isPlain data := by simpa using lossless.isPlain data
  decode_encode _ record data lexical agrees := by
    have found := agrees name (List.mem_singleton_self name)
    rw [Record.field?_singleton] at found
    rw [Record.required, found]
    exact lossless.decode_encode data lexical
  denoted record data decoded := by
    unfold Record.required at decoded
    split at decoded
    · exact lossless.denoted _ data decoded
    · cases decoded

/-- A field that is always written and has a default without values. -/
def withDefault
    (name : String)
    (default : α)
    (noValues : values default = [])
    (lossless : Lossless encode decode values levels) : Fields [name] α levels where
  encode data := [(name, encode data)]
  decode record := record.withDefault name default decode
  values := values
  named := by simp
  distinct := by simp
  isPlain data := by simpa using lossless.isPlain data
  decode_encode _ record data lexical agrees := by
    have found := agrees name (List.mem_singleton_self name)
    rw [Record.field?_singleton] at found
    rw [Record.withDefault, found]
    exact lossless.decode_encode data lexical
  denoted record data decoded := by
    unfold Record.withDefault at decoded
    split at decoded
    · exact lossless.denoted _ data decoded
    · cases decoded
      simp [noValues]

/-- A text that is left out when there is none. -/
def optional (name : String) (levels : Nat) : Fields [name] (Option String) levels where
  encode := DataTree.optionalEntry name
  decode record := record.nullable name Decoder.string
  values _ := []
  named text := by cases text <;> simp [DataTree.optionalEntry]
  distinct _ text := by cases text <;> simp [DataTree.optionalEntry]
  isPlain text := by
    cases text with
    | none => simp [DataTree.optionalEntry]
    | some text => simpa [DataTree.optionalEntry] using DataTree.IsPlain.string text
  decode_encode _ record text _ agrees := by
    have found := agrees name (List.mem_singleton_self name)
    rw [Record.field?_optionalEntry] at found
    rw [Record.nullable, found]
    cases text <;> rfl
  denoted := by simp

/-- Fields beside others. -/
def and (first : Fields names α levels) (second : Fields others β levels) :
    Fields (names ++ others) (α × β) levels where
  encode data := first.encode data.1 ++ second.encode data.2
  decode record := do
    let left ← first.decode record
    let right ← second.decode record
    return (left, right)
  values data := first.values data.1 ++ second.values data.2
  named data entry member := by
    rcases List.mem_append.mp member with ofFirst | ofSecond
    · exact List.mem_append_left _ (first.named data.1 entry ofFirst)
    · exact List.mem_append_right _ (second.named data.2 entry ofSecond)
  distinct unique data := by
    obtain ⟨firstUnique, secondUnique, apart⟩ := List.nodup_append.mp unique
    rw [List.map_append]
    refine List.nodup_append.mpr
      ⟨first.distinct firstUnique data.1, second.distinct secondUnique data.2, ?_⟩
    intro name ofFirst other ofSecond
    obtain ⟨entry, entryMember, rfl⟩ := List.mem_map.mp ofFirst
    obtain ⟨other, otherMember, rfl⟩ := List.mem_map.mp ofSecond
    exact apart _ (first.named data.1 entry entryMember) _ (second.named data.2 other otherMember)
  isPlain data entry member := by
    rcases List.mem_append.mp member with ofFirst | ofSecond
    · exact first.isPlain data.1 entry ofFirst
    · exact second.isPlain data.2 entry ofSecond
  decode_encode unique record data lexical agrees := by
    obtain ⟨firstUnique, secondUnique, apart⟩ := List.nodup_append.mp unique
    -- The names are apart, so each half finds at its names what it wrote there itself.
    have left : first.decode record = .ok data.1 := by
      refine first.decode_encode firstUnique record data.1
        (fun value held => lexical value (List.mem_append_left _ held)) fun name member => ?_
      have absent : Record.field? ⟨second.encode data.2⟩ name = none :=
        Record.field?_eq_none fun entry entryMember =>
          (apart name member _ (second.named data.2 entry entryMember)).symm
      rw [agrees name (List.mem_append_left _ member), Record.field?_append, absent,
        Option.or_none]
    have right : second.decode record = .ok data.2 := by
      refine second.decode_encode secondUnique record data.2
        (fun value held => lexical value (List.mem_append_right _ held)) fun name member => ?_
      have absent : Record.field? ⟨first.encode data.1⟩ name = none :=
        Record.field?_eq_none fun entry entryMember =>
          apart _ (first.named data.1 entry entryMember) name member
      rw [agrees name (List.mem_append_right _ member), Record.field?_append, absent,
        Option.none_or]
    simp only [left, right]
    rfl
  denoted record data decoded := by
    obtain ⟨left, leftDecoded, decoded⟩ := exists_of_bind_eq_ok decoded
    obtain ⟨right, rightDecoded, decoded⟩ := exists_of_bind_eq_ok decoded
    cases decoded
    intro value member
    rcases List.mem_append.mp member with ofFirst | ofSecond
    · exact first.denoted record left leftDecoded value ofFirst
    · exact second.denoted record right rightDecoded value ofSecond

/-- What is made of fields is read from the first of them and then from the others. -/
theorem map_decode_and
    {γ : Type}
    (first : Fields names α levels)
    (second : Fields others β levels)
    (make : α × β → γ)
    (record : Record) :
    make <$> (first.and second).decode record =
      first.decode record >>= fun left =>
        (fun right => make (left, right)) <$> second.decode record := by
  simp [Fields.and]

/-- A record that consists of the given fields. -/
theorem lossless
    (fields : Fields names α levels)
    (unique : names.Nodup)
    (equivalence : α ≃ β)
    {encode : β → DataTree}
    {decode : Decoder β}
    {values : β → List Value}
    (encode_eq : ∀ data, encode data = .table (fields.encode (equivalence.symm data)))
    (decode_eq : ∀ tree, decode tree =
      Record.ofTree names tree >>= fun record => equivalence <$> fields.decode record)
    (values_eq : ∀ data, values data = fields.values (equivalence.symm data)) :
    Lossless encode decode values (levels + 1) where
  decode_encode data lexical := by
    have fieldsDecoded : fields.decode ⟨fields.encode (equivalence.symm data)⟩ =
        .ok (equivalence.symm data) :=
      fields.decode_encode unique _ _ (values_eq data ▸ lexical) fun _ _ => rfl
    rw [decode_eq, encode_eq, Record.ofTree, ok_bind, fieldsDecoded]
    exact congrArg Except.ok (equivalence.apply_symm_apply data)
  denoted tree data decoded := by
    rw [decode_eq] at decoded
    obtain ⟨record, -, decoded⟩ := exists_of_bind_eq_ok decoded
    obtain ⟨parts, partsDecoded, rfl⟩ := exists_of_map_eq_ok decoded
    rw [values_eq, equivalence.symm_apply_apply]
    exact fields.denoted record parts partsDecoded
  isPlain data := by
    rw [encode_eq]
    exact .table (fields.distinct unique _) (fields.isPlain _)

end Fields
end PolicyDecision
