import PolicyDecision.Function.Argument
import PolicyDecision.Text.LowerCase

/-!
# String normalization

Removal of space at both ends of a string and its lower-case form. For the
former, space is every character up to and including the blank of ASCII.
-/

namespace PolicyDecision

/-- A function that normalizes a string. -/
inductive NormalizationFunction
  | space
  | lowerCase
  deriving DecidableEq, Repr

namespace NormalizationFunction

/-- All normalizations. -/
def all : List NormalizationFunction := [.space, .lowerCase]

/-- The name of a normalization. -/
def name : NormalizationFunction → String
  | .space => "string-normalize-space"
  | .lowerCase => "string-normalize-to-lower-case"

/-- The normal form of a text. -/
def normalize (function : NormalizationFunction) (text : List Char) : List Char :=
  match function with
  | .space => Text.trimWhere (fun character => character.toNat ≤ 0x20) text
  | .lowerCase => Text.lowerCase text

/-- The outcome of a normalization. -/
def apply (function : NormalizationFunction) (arguments : List Argument) :
    Except Status Outcome := do
  let argument ← Argument.one arguments
  let text ← argument.string
  return .single (.string (String.ofList (function.normalize text.toList)))

end NormalizationFunction
end PolicyDecision
