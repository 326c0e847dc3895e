import PolicyDecision.DataTree.Basic
import PolicyDecision.Value

/-!
# Decoding of data trees

The reading of typed data from trees. A record is a table of named fields or a
list of its fields in order; fields that it does not know are ignored. A variant
with data is a table with the variant's name as its only entry.
-/

namespace PolicyDecision

/-- Why a tree does not hold the data that it should: its shape is wrong, or a
text in it is not a lexical form of its datatype. -/
inductive DecodeFault
  | shape
  | lexical (fault : ConversionFault)
  deriving DecidableEq, Repr

/-- A reading of typed data from a tree. -/
abbrev Decoder (α : Type) := DataTree → Except DecodeFault α

namespace Decoder

/-- A text. -/
def string : Decoder String
  | .string text => .ok text
  | _ => .error .shape

/-- A truth value. -/
def boolean : Decoder Bool
  | .boolean truth => .ok truth
  | _ => .error .shape

/-- A text that names something, or the only entry of a table with nothing in it. -/
def named {α : Type} (find? : String → Option α) : Decoder α
  | .string text | .table [(text, .null)] =>
      match find? text with
      | some found => .ok found
      | none => .error .shape
  | _ => .error .shape

/-- The items of a list, up to the first that cannot be read. -/
def items {α : Type} (decode : Decoder α) : List DataTree → Except DecodeFault (List α)
  | [] => .ok []
  | item :: rest => do
      let first ← decode item
      let others ← items decode rest
      return first :: others

/-- A list. -/
def list {α : Type} (decode : Decoder α) : Decoder (List α)
  | .list trees => items decode trees
  | _ => .error .shape

/-- Reading the items of a list that were all written from data gives the data
back. -/
theorem items_map
    {α : Type} {decode : Decoder α} {encode : α → DataTree} (data : List α)
    (reads : ∀ item ∈ data, decode (encode item) = .ok item) :
    items decode (data.map encode) = .ok data := by
  induction data with
  | nil => rfl
  | cons first rest inductionHypothesis =>
      have restReads := inductionHypothesis fun item member =>
        reads item (List.mem_cons_of_mem _ member)
      simp only [List.map_cons, items, reads first List.mem_cons_self, restReads]
      rfl

end Decoder

/-- The named fields of a record. -/
structure Record where
  fields : List (String × DataTree)

namespace Record

/-- The record that a tree holds, given the names of its fields in order. -/
def ofTree (names : List String) : Decoder Record
  | .table entries => .ok ⟨entries⟩
  | .list items => .ok ⟨names.zip items⟩
  | _ => .error .shape

/-- The tree at a field. -/
def field? (record : Record) (name : String) : Option DataTree :=
  DataTree.entry? record.fields name

/-- The data at a field that must be there. -/
def required {α : Type} (record : Record) (name : String) (decode : Decoder α) :
    Except DecodeFault α :=
  match record.field? name with
  | some tree => decode tree
  | none => .error .shape

/-- The data at a field, or the default without it. -/
def withDefault {α : Type} (record : Record) (name : String) (default : α) (decode : Decoder α) :
    Except DecodeFault α :=
  match record.field? name with
  | some tree => decode tree
  | none => .ok default

/-- The data at a field that may be null or absent. -/
def nullable {α : Type} (record : Record) (name : String) (decode : Decoder α) :
    Except DecodeFault (Option α) :=
  match record.field? name with
  | none | some .null => .ok none
  | some tree => (decode tree).map some

end Record

namespace DataTree

/-- The name and the data of a variant. -/
def variant : Decoder (String × DataTree)
  | .table [(name, payload)] => .ok (name, payload)
  | _ => .error .shape

/-- The tree of a variant with data. -/
def ofVariant (name : String) (payload : DataTree) : DataTree := .table [(name, payload)]

/-- The entry of an optional field, left out when there is nothing to write. -/
def optionalEntry (name : String) (text : Option String) : List (String × DataTree) :=
  match text with
  | some text => [(name, .string text)]
  | none => []

/-- A list of data as a tree. -/
def ofList {α : Type} (encode : α → DataTree) (data : List α) : DataTree :=
  .list (data.map encode)

end DataTree
end PolicyDecision
