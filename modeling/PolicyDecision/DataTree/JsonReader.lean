import PolicyDecision.DataTree.Json
import PolicyDecision.Toml.Scalar

/-!
# Reading of JSON text

The data tree that a JSON text holds. Lists and tables nest to a bounded depth, and
a number keeps its text. Each reading gives what it read and the text after it, or
nothing when the text does not start with what it should.
-/

namespace PolicyDecision
namespace Json

open Toml (Reader hexDigit?)

/-! ## Strings -/

/-- The number that a count of hexadecimal digits denotes, after digits worth
`sofar`. -/
def readHex : Nat → Nat → Reader Nat
  | 0, sofar, text => some (sofar, text)
  | digits + 1, sofar, character :: rest =>
      match hexDigit? character with
      | some digit => readHex digits (16 * sofar + digit) rest
      | none => none
  | _ + 1, _, [] => none

/-- A UTF-16 unit that needs another one after it. -/
def isLeading (unit : Nat) : Bool := 0xD800 ≤ unit && unit < 0xDC00

/-- A UTF-16 unit that needs another one before it. -/
def isTrailing (unit : Nat) : Bool := 0xDC00 ≤ unit && unit < 0xE000

/-- The code point of a pair of surrogates. -/
def pairCode (leading trailing : Nat) : Nat :=
  0x10000 + 0x400 * (leading - 0xD800) + (trailing - 0xDC00)

/-- The character of one UTF-16 unit or of two, after the mark of the first. -/
def readUnits : Reader Char := fun text => do
  let (unit, rest) ← readHex 4 0 text
  if isLeading unit then
    match rest with
    | '\\' :: 'u' :: more =>
        let (trailing, rest) ← readHex 4 0 more
        if isTrailing trailing then return (Char.ofNat (pairCode unit trailing), rest) else none
    | _ => none
  else if isTrailing unit then none
  else return (Char.ofNat unit, rest)

/-- The character of an escape sequence after its backslash. -/
def readEscape : Reader Char
  | 'u' :: rest => readUnits rest
  | 'b' :: rest => some ('\x08', rest)
  | 't' :: rest => some ('\t', rest)
  | 'n' :: rest => some ('\n', rest)
  | 'f' :: rest => some ('\x0c', rest)
  | 'r' :: rest => some ('\r', rest)
  | '"' :: rest => some ('"', rest)
  | '\\' :: rest => some ('\\', rest)
  | '/' :: rest => some ('/', rest)
  | _ => none

/-- The next character of a string. -/
def readCharacter : Reader Char
  | [] => none
  | character :: rest =>
      if character = '\\' then readEscape rest
      else if character.toNat < 0x20 then none
      else some (character, rest)

/-- The rest of a string, in no more steps than there are characters to bound
them. -/
def readContentWithin : List Char → Reader (List Char)
  | [], _ => none
  | _ :: _, '"' :: rest => some ([], rest)
  | _ :: bound, text => do
      let (character, rest) ← readCharacter text
      let (content, rest) ← readContentWithin bound rest
      return (character :: content, rest)

/-- The rest of a string after its opening quote. -/
def readContent : Reader String := fun text =>
  (readContentWithin text text).map fun (content, rest) => (String.ofList content, rest)

/-! ## Numbers -/

/-- The text after one digit or more. -/
def afterDigits? (text : List Char) : Option (List Char) :=
  if (text.head?).any Char.isDigit then some (text.dropWhile Char.isDigit) else none

/-- The text after the whole part of a number, which has no leading zeros. -/
def afterWhole? : List Char → Option (List Char)
  | '0' :: rest => some rest
  | text => afterDigits? text

/-- The text after a fraction, if there is one. -/
def afterFraction? : List Char → Option (List Char)
  | '.' :: rest => afterDigits? rest
  | text => some text

/-- The text after an exponent, if there is one. -/
def afterExponent? : List Char → Option (List Char)
  | 'e' :: rest | 'E' :: rest =>
      match rest with
      | '+' :: digits | '-' :: digits => afterDigits? digits
      | digits => afterDigits? digits
  | text => some text

/-- The text after a number. -/
def afterNumber? (text : List Char) : Option (List Char) :=
  let unsigned :=
    match text with
    | '-' :: rest => rest
    | _ => text
  ((afterWhole? unsigned).bind afterFraction?).bind afterExponent?

/-- A number. -/
def readNumber : Reader DataTree := fun text =>
  (afterNumber? text).map fun rest =>
    (.number (String.ofList (text.take (text.length - rest.length))), rest)

/-! ## Trees -/

/-- A blank between the parts of a text. -/
def isBlank (character : Char) : Bool :=
  character = ' ' || character = '\t' || character = '\n' || character = '\r'

/-- The text after its leading blanks. -/
def skipBlanks (text : List Char) : List Char := text.dropWhile isBlank

/-- The items up to a closing mark, at least one and with commas between them, given
how an item is read. There are no more of them than characters to bound them. -/
def readItemsWithin {α : Type} (readItem : Reader α) (closing : Char) :
    List Char → Reader (List α)
  | [], _ => none
  | _ :: bound, text => do
      let (item, rest) ← readItem text
      match skipBlanks rest with
      | ',' :: more =>
          let (items, rest) ← readItemsWithin readItem closing bound more
          return (item :: items, rest)
      | mark :: rest => if mark = closing then return ([item], rest) else none
      | [] => none

/-- The items after an opening mark up to the closing one. -/
def readItems {α : Type} (readItem : Reader α) (closing : Char) : Reader (List α) := fun text =>
  match skipBlanks text with
  | [] => none
  | first :: rest =>
      if first = closing then some ([], rest)
      else readItemsWithin readItem closing (first :: rest) (first :: rest)

/-- A name and what stands for it after a colon, given how that is read. -/
def readEntry {α : Type} (readItem : Reader α) : Reader (String × α) := fun text =>
  match skipBlanks text with
  | '"' :: rest => do
      let (name, rest) ← readContent rest
      match skipBlanks rest with
      | ':' :: rest =>
          let (item, rest) ← readItem rest
          return ((name, item), rest)
      | _ => none
  | _ => none

/-- A string, a number, a truth value or null. -/
def readScalar : Reader DataTree
  | '"' :: rest => (readContent rest).map fun (content, rest) => (.string content, rest)
  | 'n' :: 'u' :: 'l' :: 'l' :: rest => some (.null, rest)
  | 't' :: 'r' :: 'u' :: 'e' :: rest => some (.boolean true, rest)
  | 'f' :: 'a' :: 'l' :: 's' :: 'e' :: rest => some (.boolean false, rest)
  | text => readNumber text

/-- A tree whose lists and tables nest to at most the given depth. -/
def readTree : Nat → Reader DataTree
  | 0, text =>
      match skipBlanks text with
      | '[' :: _ | '\x7b' :: _ => none
      | start => readScalar start
  | depth + 1, text =>
      match skipBlanks text with
      | '[' :: rest =>
          (readItems (readTree depth) ']' rest).map fun (items, rest) => (.list items, rest)
      | '\x7b' :: rest =>
          (readItems (readEntry (readTree depth)) '\x7d' rest).map fun (entries, rest) =>
            (.table entries, rest)
      | start => readScalar start

/-- Lists and tables nest to no more levels than this. -/
def nestingLimit : Nat := 127

/-- The tree that a text holds, with nothing but blanks around it. -/
def read? (text : String) : Option DataTree := do
  let (tree, rest) ← readTree nestingLimit text.toList
  if (skipBlanks rest).isEmpty then return tree else none

end Json
end PolicyDecision
