/-!
# Statuses

Every outcome of an evaluation carries a status: a code and an optional message.
The messages of functions read `<component> <reason>`; two messages are joined
when results of one kind are merged.
-/

namespace PolicyDecision

/-- What went wrong, if anything. -/
inductive StatusCode
  | ok
  | missingAttribute
  | syntaxError
  | processingError
  deriving DecidableEq, Repr

namespace StatusCode

/-- All codes. -/
def all : List StatusCode := [.ok, .missingAttribute, .syntaxError, .processingError]

/-- The name of a code in hyphenated lower case. -/
def name : StatusCode → String
  | .ok => "ok"
  | .missingAttribute => "missing-attribute"
  | .syntaxError => "syntax-error"
  | .processingError => "processing-error"

/-- The universal name of a code. -/
def urn (code : StatusCode) : String :=
  "urn:oasis:names:tc:xacml:1.0:status:" ++ code.name

end StatusCode

/-- A code with an optional message. -/
structure Status where
  code : StatusCode
  message : Option String
  deriving DecidableEq, Repr

namespace Status

/-- The status of a success, without a message. -/
def ok : Status := ⟨.ok, none⟩

/-- A status with a message. -/
def withMessage (code : StatusCode) (message : String) : Status := ⟨code, some message⟩

/-- A status that reports a failure of processing. -/
def processingError (message : String) : Status := withMessage .processingError message

/-- A status that reports text of the wrong form. -/
def syntaxError (message : String) : Status := withMessage .syntaxError message

/-- A status that reports an attribute that is not there. -/
def missingAttribute (message : String) : Status := withMessage .missingAttribute message

/-- The code is that of a success. -/
def isOk (status : Status) : Bool := status.code == .ok

@[simp] theorem isOk_ok : ok.isOk = true := rfl

@[simp] theorem isOk_processingError (message : String) :
    (processingError message).isOk = false := rfl

/-- The message, which is empty when none was given. -/
def messageText (status : Status) : String := status.message.getD ""

/-- The status with a component named in front of its message. -/
def prefixed (status : Status) (component : String) : Status :=
  ⟨status.code, some (component ++ " " ++ status.messageText)⟩

@[simp] theorem isOk_prefixed (status : Status) (component : String) :
    (status.prefixed component).isOk = status.isOk := rfl

/-- This status with the message of another one joined on, unless the two
messages agree. -/
def concat (status other : Status) : Status :=
  match status.message, other.message with
  | some first, some second =>
      if first = second then ⟨status.code, some first⟩
      else ⟨status.code, some (first ++ "; " ++ second)⟩
  | some first, none => ⟨status.code, some first⟩
  | none, second => ⟨status.code, second⟩

@[simp] theorem code_concat (status other : Status) : (status.concat other).code = status.code := by
  unfold concat
  split
  · split <;> rfl
  · rfl
  · rfl

/-- The code's name, followed by the message if there is one. -/
def text (status : Status) : String :=
  match status.message with
  | some message => status.code.name ++ ": " ++ message
  | none => status.code.name

end Status
end PolicyDecision
