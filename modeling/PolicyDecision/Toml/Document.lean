import PolicyDecision.Toml.Moment
import PolicyDecision.Toml.Scalar
import PolicyDecision.Toml.Table

/-!
# TOML documents

The data that a TOML document holds. A document is a sequence of lines: settings
of keys, headers of tables and of elements of arrays of tables, comments and empty
lines.
-/

namespace PolicyDecision
namespace Toml

/-- A character of a key without quotes. -/
def isBareKeyCharacter (character : Char) : Bool :=
  character.isAlphanum || character = '-' || character = '_'

/-- One part of a key. -/
def readKeyPart : Reader String
  | '"' :: rest => (readBasic rest).map fun (content, after) => (String.ofList content, after)
  | '\'' :: rest => (readLiteral rest).map fun (content, after) => (String.ofList content, after)
  | text =>
      let bare := text.takeWhile isBareKeyCharacter
      if bare.isEmpty then none
      else some (String.ofList bare, text.dropWhile isBareKeyCharacter)

/-- The parts of a key between dots, at most as many as given. -/
def readKeyWithin : Nat → Reader (List String)
  | 0, _ => none
  | bound + 1, text => do
      let (part, rest) ← readKeyPart (skipSpace text)
      match skipSpace rest with
      | '.' :: more => do
          let (parts, rest) ← readKeyWithin bound more
          return (part :: parts, rest)
      | after => return ([part], after)

/-- Arrays, inline tables and the parts of keys are nested to fewer levels than
this. -/
def nestingLimit : Nat := 80

/-- The parts of a key, with the space around it passed. -/
def readKey : Reader (List String) := readKeyWithin (nestingLimit - 1)

/-- The rest of an array after an item's comma or after its opening bracket, given
how items are read, with no more of them than there are characters to bound them. -/
def readItemsWithin (readItem : Reader DataTree) : List Char → Reader (List DataTree)
  | [], _ => none
  | _ :: bound, text =>
      match skipTrivia text with
      | ']' :: rest => some ([], rest)
      | start => do
          let (item, rest) ← readItem start
          match skipTrivia rest with
          | ',' :: more => do
              let (items, rest) ← readItemsWithin readItem bound more
              return (item :: items, rest)
          | ']' :: rest => return ([item], rest)
          | _ => none

/-- A key with its value, given how values are read. -/
def readSetting (readValue : Reader DataTree) : Reader (List String × DataTree) := fun text => do
  let (key, rest) ← readKey text
  match rest with
  | '=' :: more =>
      let (value, rest) ← readValue (skipSpace more)
      return ((key, value), rest)
  | _ => none

/-- The entries with a setting put in. -/
def assignSetting (entries : Entries) (setting : List String × DataTree) : Option Entries := do
  let key ← setting.1.getLast?
  entries.assign setting.1.dropLast key setting.2

/-- The rest of an inline table after a setting's comma or after its opening
brace, given how values are read, with no more settings than there are characters
to bound them. -/
def readSettingsWithin (readValue : Reader DataTree) : List Char → Entries → Reader Entries
  | [], _, _ => none
  | _ :: bound, entries, text => do
      let (setting, rest) ← readSetting readValue text
      let extended ← assignSetting entries setting
      match skipSpace rest with
      | ',' :: more => readSettingsWithin readValue bound extended more
      | '}' :: rest => return (extended, rest)
      | _ => none

/-- A string, a date or time, a number or a truth value. -/
def readScalar : Reader DataTree
  | '"' :: rest => (readString ('"' :: rest)).map fun (content, after) =>
      (.string (String.ofList content), after)
  | '\'' :: rest => (readString ('\'' :: rest)).map fun (content, after) =>
      (.string (String.ofList content), after)
  | text => (readMoment text).orElse fun _ => readWord text

/-- A value with arrays and inline tables nested to at most the given depth. -/
def readValueWithin : Nat → Reader DataTree
  | 0, text =>
      match text with
      | '[' :: _ | '{' :: _ => none
      | _ => readScalar text
  | depth + 1, text =>
      match text with
      | '[' :: rest => do
          let (items, rest) ← readItemsWithin (readValueWithin depth) rest rest
          return (.list items, rest)
      | '{' :: rest =>
          match skipSpace rest with
          | '}' :: rest => some (.table [], rest)
          | start => do
              let (entries, rest) ←
                readSettingsWithin (readValueWithin depth) start [] start
              return (.table (Item.entryTrees entries), rest)
      | _ => readScalar text

/-- A value. -/
def readValue : Reader DataTree := readValueWithin (nestingLimit - 1)

/-- The parts of a header up to its closing brackets. -/
def readHeader (closing : List Char) : Reader (List String) := fun text => do
  let (key, rest) ← readKey text
  if closing.isPrefixOf rest then return (key, rest.drop closing.length) else none

/-- The document with the start of a line taken in, and the text after it. -/
def readLine (assembly : Assembly) : List Char → Option (Assembly × List Char)
  | '[' :: '[' :: rest => do
      let (header, rest) ← readHeader [']', ']'] rest
      return (← assembly.openElement header, rest)
  | '[' :: rest => do
      let (header, rest) ← readHeader [']'] rest
      return (← assembly.openTable header, rest)
  | text =>
      match text with
      | [] | '#' :: _ | '\n' :: _ | '\r' :: _ => some (assembly, text)
      | _ => do
          let ((path, value), rest) ← readSetting readValue text
          let key ← path.getLast?
          return (← assembly.assign path.dropLast key value, rest)

/-- The document with all lines taken in. Each line but the last passes a line
end, so the length of the text bounds their number. -/
def readLinesWithin : Nat → Assembly → List Char → Option Assembly
  | 0, _, _ => none
  | bound + 1, assembly, text => do
      let (extended, rest) ← readLine assembly (skipSpace text)
      match ← finishLine? rest with
      | [] => return extended
      | more => readLinesWithin bound extended more

/-- The data of a document, or nothing when it is malformed. A byte order mark at
its start is passed over. -/
def parse (document : String) : Option DataTree := do
  let text :=
    match document.toList with
    | '\ufeff' :: rest => rest
    | text => text
  let assembly ← readLinesWithin (text.length + 1) .empty text
  let entries ← assembly.close
  return .table (Item.entryTrees entries)

end Toml
end PolicyDecision
