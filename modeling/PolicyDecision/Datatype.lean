import PolicyDecision.Text.Digits

/-!
# Datatypes

The nine datatypes of attribute values, with their short names and their full
identifiers.
-/

namespace PolicyDecision

/-- A datatype of attribute values. -/
inductive Datatype
  | string
  | boolean
  | integer
  | double
  | date
  | dateTime
  | dayTimeDuration
  | yearMonthDuration
  | anyUri
  deriving DecidableEq, Repr

namespace Datatype

/-- All datatypes in their order. -/
def all : List Datatype :=
  [.string, .boolean, .integer, .double, .date, .dateTime, .dayTimeDuration,
   .yearMonthDuration, .anyUri]

/-- Every datatype is listed. -/
theorem mem_all (datatype : Datatype) : datatype ∈ all := by
  cases datatype <;> decide

/-- The short name, used in function names and messages. -/
def name : Datatype → String
  | .string => "string"
  | .boolean => "boolean"
  | .integer => "integer"
  | .double => "double"
  | .date => "date"
  | .dateTime => "dateTime"
  | .dayTimeDuration => "dayTimeDuration"
  | .yearMonthDuration => "yearMonthDuration"
  | .anyUri => "anyURI"

/-- The full identifier. -/
def id (datatype : Datatype) : String :=
  "http://www.w3.org/2001/XMLSchema#" ++ datatype.name

/-- The datatype with exactly this full identifier. -/
def ofId? (id : String) : Option Datatype :=
  all.find? fun datatype => datatype.id = id

/-- Every datatype is found by its full identifier. -/
@[simp] theorem ofId?_id (datatype : Datatype) : ofId? datatype.id = some datatype := by
  cases datatype <;> decide

/-- The datatype with a short name, or with any identifier that ends in a short
name after its last hash sign. -/
def lookup? (id : String) : Option Datatype :=
  let short := String.ofList (Text.afterLast '#' id.toList)
  all.find? fun datatype => datatype.name = short

end Datatype
end PolicyDecision
