import PolicyDecision.Codec.Fault
import PolicyDecision.Codec.Policy
import PolicyDecision.Codec.Result
import PolicyDecision.Enforcement.Router
import PolicyDecision.Enforcement.View
import PolicyDecision.Function.Registry

/-!
# Descriptions

What can be asked of a value, a function, a policy or a view, gathered in one
tree. A description is for the eye: unlike a written form it is never read back.
-/

namespace PolicyDecision

namespace DataTree

/-- A count as a number. -/
def ofNat (number : Nat) : DataTree := .number (toString number)

/-- An integer as a number. -/
def ofInt (number : Int) : DataTree := .number (toString number)

/-- Data that may be absent, with null in its place. -/
def ofOption {α : Type} (encode : α → DataTree) : Option α → DataTree
  | some data => encode data
  | none => .null

/-- Data or the report of the fault in its place. -/
def ofFaulty {α : Type} (encode : α → DataTree) : Except Fault α → DataTree
  | .ok data => encode data
  | .error fault => fault.encode

/-- Data or the report of the status in its place. -/
def ofStatusOr {α : Type} (encode : α → DataTree) : Except Status α → DataTree
  | .ok data => encode data
  | .error status => status.encodeError

/-- Texts as a list. -/
def ofTexts (texts : List String) : DataTree := .ofList DataTree.string texts

/-- The outcome of a comparison by name. -/
def ofOrdering : Ordering → DataTree
  | .lt => .string "less"
  | .eq => .string "equal"
  | .gt => .string "greater"

end DataTree

/-- An integer as a text, since it may be too large for a number elsewhere. -/
def Integer.encode (number : Integer) : DataTree := .string number.text

/-- The names and the written form of a datatype. -/
def Datatype.describe (datatype : Datatype) : DataTree :=
  .table
    [("name", .string datatype.name), ("id", .string datatype.id),
     ("text", .string datatype.name), ("json", datatype.encode)]

/-- The written form of a value, its type, and what it is as plain data. -/
def Value.describe (value : Value) : DataTree :=
  .table
    [("json", value.encode), ("type", .string value.datatype.name), ("text", .string value.text),
     ("bool", .ofOption DataTree.boolean value.truth?),
     ("integer", .ofOption Integer.encode value.integer?),
     ("str", .ofOption DataTree.string value.text?)]

/-- A duration, its negation and its whole and broken seconds. -/
def DayTimeDuration.describe (duration : DayTimeDuration) : DataTree :=
  .table
    [("text", .string duration.text), ("negated", .string duration.negate.text),
     ("zero", .boolean duration.isZero), ("seconds", .string (toString duration.wholeSeconds)),
     ("subsec_nanos", .ofInt duration.subsecondNanoseconds)]

/-- A duration and its negation, as texts and in months. -/
def YearMonthDuration.describe (duration : YearMonthDuration) : DataTree :=
  .table
    [("text", .string duration.text), ("months", duration.months.encode),
     ("negated_months", duration.negate.months.encode), ("negated", .string duration.negate.text)]

/-- The size and the emptiness of a bag. -/
def Bag.describeSize (bag : Bag) : List (String × DataTree) :=
  [("len", .ofNat bag.size), ("empty", .boolean bag.isEmpty)]

/-- The parts and the names of a status. -/
def Status.describe (status : Status) : DataTree :=
  .table
    [("json", status.encode), ("text", .string status.text),
     ("message", .string status.messageText), ("ok", .boolean status.isOk),
     ("name", .string status.code.name), ("urn", .string status.code.urn)]

/-- A decision beside another one. -/
def Decision.describeBeside (decision other : Decision) : DataTree :=
  .table
    [("json", decision.encode), ("text", .string decision.text),
     ("indeterminate", .boolean decision.isIndeterminate),
     ("as_indeterminate", decision.asIndeterminate.encode),
     ("order", .ofOrdering (compare decision.rank other.rank))]

/-- An outcome and what it holds. -/
def Outcome.describe (outcome : Outcome) : DataTree :=
  .table
    [("result", outcome.encode), ("ok", .boolean outcome.isOk),
     ("status", outcome.status.encode),
     ("single", .ofOption (fun value => .string value.text) outcome.single?),
     ("bag_len", .ofOption (fun bag => .ofNat bag.size) outcome.bag?)]

/-- The identifiers and the signature of a function. -/
def Function.describe (function : Function) : DataTree :=
  .table
    [("id", .string function.id), ("short_id", .string function.shortId),
     ("name", .string function.name), ("result_type", .string function.resultDatatype.name),
     ("argument_type", .string function.argumentDatatype.name),
     ("returns_bag", .boolean function.returnsBag)]

/-- The name, the written form and the identifiers of an algorithm. -/
def CombiningAlgorithm.describe (algorithm : CombiningAlgorithm) : DataTree :=
  .table
    [("name", .string algorithm.name), ("text", .string algorithm.name),
     ("json", algorithm.encode), ("rule_id", .ofOption DataTree.string algorithm.ruleId?),
     ("policy_id", .string algorithm.policyId)]

/-- A combined result and the evaluations that it took. -/
def Combination.describe (combination : Combination) : DataTree :=
  .table
    [("result", combination.result.encode),
     ("evaluations", .ofList DataTree.ofNat combination.evaluations)]

/-- What a definition is and what it refers to. -/
def Definition.describe (definition : Definition) : DataTree :=
  .table
    [("identifier", definition.identifier.encode),
     ("is_policy_set", .boolean definition.isPolicySet),
     ("referenced_ids", .ofTexts definition.referencedIds)]

/-- Obligations by identifier. -/
def describeObligations (obligations : SortedMap String Obligation) : DataTree :=
  obligations.encodeEntries id Obligation.encode

/-- What permissions hold for a decision on an action. -/
def PermissionsResult.describe (result : PermissionsResult) (decision : Decision)
    (action : String) : DataTree :=
  .table
    [("actions", .ofTexts (result.actions decision)),
     ("obligations", describeObligations (result.obligationsOf decision action)),
     ("policies", .ofTexts (result.policiesOf decision action)),
     ("advice", .ofList Advice.encode (result.adviceOf decision action))]

/-- A result as the enforcement point reads it. -/
def EnforcementView.describe (view : EnforcementView) : DataTree :=
  .table
    [("decision", view.result.decision.encode), ("status", view.result.status.encode),
     ("allowed", .ofFaulty DataTree.boolean view.allowed),
     ("obligations", describeObligations view.obligations),
     ("advice", .ofList Advice.encode view.result.advice),
     ("identifiers", .ofList PolicyIdentifier.encode view.identifiers),
     ("result", view.result.encode)]

/-- A call of a handler by the handler's name. -/
def HandlerCall.describe (call : HandlerCall) : DataTree :=
  .table
    [("handler", .string call.handler.name),
     ("obligations", .ofList Obligation.encode call.obligations)]

end PolicyDecision
