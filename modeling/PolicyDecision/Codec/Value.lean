import PolicyDecision.DataTree.Decoding
import PolicyDecision.Decision
import PolicyDecision.Outcome

/-!
# Written form of values and statuses

A value is written with the full identifier of its datatype and its canonical
lexical form. Enumerations are written by name, and an outcome as a variant.
-/

namespace PolicyDecision

namespace StatusCode

/-- The code with a name. -/
def ofName? (name : String) : Option StatusCode := all.find? fun code => code.name = name

/-- Every code is found by its name. -/
@[simp] theorem ofName?_name (code : StatusCode) : ofName? code.name = some code := by
  cases code <;> decide

/-- The tree of a code. -/
def encode (code : StatusCode) : DataTree := .string code.name

/-- The code that a tree holds. -/
def decode : Decoder StatusCode := .named ofName?

end StatusCode

namespace Status

/-- The tree of a status. -/
def encode (status : Status) : DataTree :=
  .table (("code", status.code.encode) :: DataTree.optionalEntry "message" status.message)

/-- The status that a tree holds. -/
def decode : Decoder Status := fun tree => do
  let record ← Record.ofTree ["code", "message"] tree
  let code ← record.required "code" StatusCode.decode
  let message ← record.nullable "message" Decoder.string
  return ⟨code, message⟩

end Status

namespace Decision

/-- The tree of a decision. -/
def encode (decision : Decision) : DataTree := .string decision.name

/-- The decision that a tree holds. -/
def decode : Decoder Decision := .named ofName?

end Decision

namespace Datatype

/-- The tree of a datatype. -/
def encode (datatype : Datatype) : DataTree := .string datatype.id

/-- The datatype that a tree holds. -/
def decode : Decoder Datatype := .named ofId?

end Datatype

namespace Value

/-- The tree of a value. -/
def encode (value : Value) : DataTree :=
  .table [("DataType", value.datatype.encode), ("Value", .string value.text)]

/-- The value that a tree holds. -/
def decode : Decoder Value := fun tree => do
  let record ← Record.ofTree ["DataType", "Value"] tree
  let datatype ← record.required "DataType" Datatype.decode
  let lexical ← record.required "Value" Decoder.string
  match parse datatype lexical with
  | .ok value => return value
  | .error fault => throw (.lexical fault)

end Value

namespace Bag

/-- The tree of a bag. -/
def encode (bag : Bag) : DataTree := .ofList Value.encode bag.values

/-- The bag that a tree holds. -/
def decode : Decoder Bag := fun tree => (Decoder.list Value.decode tree).map Bag.mk

end Bag

namespace Outcome

/-- The tree of an outcome. -/
def encode : Outcome → DataTree
  | .single value => .ofVariant "Single" value.encode
  | .bag values => .ofVariant "Bag" values.encode
  | .failed status => .ofVariant "Error" status.encode

/-- The outcome that a tree holds. -/
def decode : Decoder Outcome := fun tree => do
  let (name, payload) ← DataTree.variant tree
  if name = "Single" then return .single (← Value.decode payload)
  else if name = "Bag" then return .bag (← Bag.decode payload)
  else if name = "Error" then return .failed (← Status.decode payload)
  else throw .shape

end Outcome
end PolicyDecision
