import PolicyDecision.Function.BagOperation
import PolicyDecision.Function.Comparison
import PolicyDecision.Function.DateArithmetic
import PolicyDecision.Function.Logical
import PolicyDecision.Function.Normalization
import PolicyDecision.Function.SetOperation

/-!
# Functions

The standard functions with their identifiers, signatures and application. A
failed application has the function's short identifier in front of its message.
-/

namespace PolicyDecision

/-- A standard function. -/
inductive Function
  | logical (function : LogicalFunction)
  | equal (datatype : Datatype)
  | compare (datatype : Datatype) (comparison : Comparison)
  | bag (datatype : Datatype) (function : BagFunction)
  | set (datatype : Datatype) (function : SetFunction)
  | date (function : DateFunction)
  | normalize (function : NormalizationFunction)
  deriving DecidableEq, Repr

namespace Function

/-- The name, such as `string-is-in`. -/
def name : Function → String
  | .logical function => function.name
  | .equal datatype => datatype.name ++ "-equal"
  | .compare datatype comparison => datatype.name ++ "-" ++ comparison.name
  | .bag datatype function => datatype.name ++ "-" ++ function.name
  | .set datatype function => datatype.name ++ "-" ++ function.name
  | .date function => function.name
  | .normalize function => function.name

/-- The datatype is one of durations. -/
def isDurationDatatype (datatype : Datatype) : Bool :=
  datatype == .dayTimeDuration || datatype == .yearMonthDuration

/-- The function was added with version 3.0: those of durations and of date
arithmetic. -/
def isRecent : Function → Bool
  | .equal datatype => isDurationDatatype datatype
  | .bag datatype _ => isDurationDatatype datatype
  | .set datatype _ => isDurationDatatype datatype
  | .date _ => true
  | .logical _ | .compare _ _ | .normalize _ => false

/-- The identifier from the word `function` on. -/
def shortId (function : Function) : String := "function:" ++ function.name

/-- The full identifier. -/
def id (function : Function) : String :=
  "urn:oasis:names:tc:xacml:" ++ (if function.isRecent then "3.0:" else "1.0:") ++
    function.shortId

/-- The datatype of the result or, for a bag, of its members. -/
def resultDatatype : Function → Datatype
  | .logical _ | .equal _ | .compare _ _ => .boolean
  | .bag _ .size => .integer
  | .bag _ .isIn => .boolean
  | .bag datatype _ => datatype
  | .set datatype function => if function.returnsBag then datatype else .boolean
  | .date function => function.operandDatatype
  | .normalize _ => .string

/-- The datatype of the first argument. -/
def argumentDatatype : Function → Datatype
  | .logical .nOf => .integer
  | .logical _ => .boolean
  | .equal datatype => datatype
  | .compare datatype _ => datatype
  | .bag datatype _ => datatype
  | .set datatype _ => datatype
  | .date function => function.operandDatatype
  | .normalize _ => .string

/-- The function yields a bag. -/
def returnsBag : Function → Bool
  | .bag _ .bag => true
  | .set _ function => function.returnsBag
  | _ => false

/-- The outcome of a function before its failures are given its name. -/
def compute (function : Function) (arguments : List Argument) : Except Status Outcome :=
  match function with
  | .logical function => function.apply arguments
  | .equal datatype => applyEquality datatype arguments
  | .compare datatype comparison => comparison.apply datatype arguments
  | .bag datatype function => function.apply datatype arguments
  | .set datatype function => function.apply datatype arguments
  | .date function => function.apply arguments
  | .normalize function => function.apply arguments

/-- The outcome of a function applied to arguments. -/
def apply (function : Function) (arguments : List Argument) : Outcome :=
  match function.compute arguments with
  | .ok outcome => outcome
  | .error status => .failed (status.prefixed function.shortId)

/-- The functions that every datatype has. -/
def ofDatatype (datatype : Datatype) : List Function :=
  .equal datatype :: (BagFunction.all.map (.bag datatype) ++ SetFunction.all.map (.set datatype))

/-- The standard functions. -/
def standard : List Function :=
  LogicalFunction.all.map .logical ++
    Datatype.all.flatMap ofDatatype ++
    Comparison.orderedDatatypes.flatMap (fun datatype => Comparison.all.map (.compare datatype)) ++
    DateFunction.all.map .date ++
    NormalizationFunction.all.map .normalize

end Function
end PolicyDecision
