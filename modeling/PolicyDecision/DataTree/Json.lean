import PolicyDecision.DataTree.Basic

/-!
# JSON text

Data trees as JSON text without blanks. Only printable ASCII stands for itself;
every other character is written by its UTF-16 units, so that the text does not
depend on an encoding.
-/

namespace PolicyDecision
namespace Json

/-- A UTF-16 unit by its four hexadecimal digits. -/
def escapedUnit (unit : Nat) : List Char :=
  '\\' :: 'u' :: (Nat.toDigits 16 unit).leftpad 4 '0'

/-- The UTF-16 units of a character: a character past the basic plane takes a
pair of surrogates. -/
def units (character : Char) : List Nat :=
  let code := character.toNat
  if code < 0x10000 then [code]
  else [0xD800 + (code - 0x10000) / 0x400, 0xDC00 + (code - 0x10000) % 0x400]

/-- A character within quotes. -/
def escaped (character : Char) : List Char :=
  if character = '"' || character = '\\' then ['\\', character]
  else if 0x20 ≤ character.toNat && character.toNat < 0x7F then [character]
  else (units character).flatMap escapedUnit

/-- A text in quotes. -/
def quoted (text : String) : String :=
  String.ofList ('"' :: (text.toList.flatMap escaped ++ ['"']))

end Json

namespace DataTree

mutual

/-- The JSON text of a tree. -/
def json : DataTree → String
  | .null => "null"
  | .boolean truth => if truth then "true" else "false"
  | .number text => text
  | .string text => Json.quoted text
  | .list items => "[" ++ ",".intercalate (jsonItems items) ++ "]"
  | .table entries => "\x7b" ++ ",".intercalate (jsonEntries entries) ++ "\x7d"

/-- The JSON texts of the items of a list. -/
def jsonItems : List DataTree → List String
  | [] => []
  | item :: rest => json item :: jsonItems rest

/-- The JSON texts of the entries of a table. -/
def jsonEntries : List (String × DataTree) → List String
  | [] => []
  | (name, item) :: rest => (Json.quoted name ++ ":" ++ json item) :: jsonEntries rest

end

end DataTree
end PolicyDecision
