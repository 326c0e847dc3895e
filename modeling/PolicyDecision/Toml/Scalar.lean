import PolicyDecision.DataTree.Basic
import PolicyDecision.Number.Integer
import PolicyDecision.Number.NearestDouble

/-!
# Scalars of TOML documents

White space, comments, line ends, strings, numbers and truth values as they
stand in a TOML document. Each reading gives what it read and the text after it,
or nothing when the text does not start with what it should.
-/

namespace PolicyDecision
namespace Toml

/-- A reading of the start of a text. -/
abbrev Reader (α : Type) := List Char → Option (α × List Char)

/-- A space or a tab. -/
def isSpace (character : Char) : Bool := character = ' ' || character = '\t'

/-- A character other than a control character, or a tab. -/
def isPrintable (character : Char) : Bool :=
  character = '\t' || (0x20 ≤ character.toNat && character.toNat ≠ 0x7F)

/-- The text after its leading spaces and tabs. -/
def skipSpace (text : List Char) : List Char := text.dropWhile isSpace

/-- The text after a comment at its start, if there is one. -/
def skipComment : List Char → List Char
  | '#' :: rest => rest.dropWhile isPrintable
  | text => text

/-- The text after a line end at its start. -/
def afterLineEnd? : List Char → Option (List Char)
  | '\n' :: rest => some rest
  | '\r' :: '\n' :: rest => some rest
  | _ => none

/-- The text after leading space, comments and line ends, in no more steps than
there are characters to bound them. Every step but the last passes a line end, so
the text bounds its own steps. -/
def skipTriviaWithin : List Char → List Char → List Char
  | [], text => text
  | _ :: bound, text =>
      let afterComment := skipComment (skipSpace text)
      match afterLineEnd? afterComment with
      | some rest => skipTriviaWithin bound rest
      | none => afterComment

/-- The text after leading space, comments and line ends. -/
def skipTrivia (text : List Char) : List Char := skipTriviaWithin text text

/-- The text after the end of a line: space, a comment, and a line end or the end
of the document. -/
def finishLine? (text : List Char) : Option (List Char) :=
  match skipComment (skipSpace text) with
  | [] => some []
  | rest => afterLineEnd? rest

/-- The value of a hexadecimal digit. -/
def hexDigit? (character : Char) : Option Nat :=
  if character.isDigit then some (character.toNat - '0'.toNat)
  else if 'a' ≤ character ∧ character ≤ 'f' then some (character.toNat - 'a'.toNat + 10)
  else if 'A' ≤ character ∧ character ≤ 'F' then some (character.toNat - 'A'.toNat + 10)
  else none

/-- The character whose code point is written by a number of hexadecimal digits,
after digits worth `sofar`. -/
def readCodePoint : Nat → Nat → Reader Char
  | 0, sofar, text =>
      if sofar.isValidChar then some (Char.ofNat sofar, text) else none
  | digits + 1, sofar, character :: rest =>
      match hexDigit? character with
      | some digit => readCodePoint digits (16 * sofar + digit) rest
      | none => none
  | _ + 1, _, [] => none

/-- The character of an escape sequence after its backslash. -/
def readEscape : Reader Char
  | 'b' :: rest => some ('\x08', rest)
  | 't' :: rest => some ('\t', rest)
  | 'n' :: rest => some ('\n', rest)
  | 'f' :: rest => some ('\x0c', rest)
  | 'r' :: rest => some ('\r', rest)
  | '"' :: rest => some ('"', rest)
  | '\\' :: rest => some ('\\', rest)
  | 'u' :: rest => readCodePoint 4 0 rest
  | 'U' :: rest => readCodePoint 8 0 rest
  | _ => none

/-- The rest of a string in double quotes, in no more steps than there are
characters to bound them. -/
def readBasicWithin : List Char → Reader (List Char)
  | [], _ => none
  | _ :: _, [] => none
  | _ :: bound, character :: rest =>
      if character = '"' then some ([], rest)
      else if character = '\\' then do
        let (escaped, rest) ← readEscape rest
        let (content, rest) ← readBasicWithin bound rest
        return (escaped :: content, rest)
      else if isPrintable character then do
        let (content, rest) ← readBasicWithin bound rest
        return (character :: content, rest)
      else none

/-- The rest of a string in double quotes. -/
def readBasic : Reader (List Char) := fun text => readBasicWithin text text

/-- The rest of a string in single quotes, which has no escapes. -/
def readLiteral : Reader (List Char)
  | [] => none
  | character :: rest =>
      if character = '\'' then some ([], rest)
      else if isPrintable character then do
        let (content, rest) ← readLiteral rest
        return (character :: content, rest)
      else none

/-- The content and the rest at the closing quotes of a string over several
lines. Up to two quotes right before the closing ones belong to the content. -/
def closeMultiline? (quote : Char) : Reader (List Char)
  | first :: second :: third :: rest =>
      if first = quote ∧ second = quote ∧ third = quote then
        let extra := (rest.takeWhile (· = quote)).take 2
        some (extra, rest.drop extra.length)
      else none
  | _ => none

/-- The text after leading space and line ends, in no more steps than there are
characters to bound them. -/
def skipBlankWithin : List Char → List Char → List Char
  | [], text => text
  | _ :: bound, text =>
      match afterLineEnd? (skipSpace text) with
      | some rest => skipBlankWithin bound rest
      | none => skipSpace text

/-- The text after white space that includes a line end, as after a backslash at
the end of a line. -/
def afterLineContinuation? (text : List Char) : Option (List Char) :=
  (afterLineEnd? (skipSpace text)).map fun rest => skipBlankWithin rest rest

/-- The rest of a string over several lines, in no more steps than there are
characters to bound them. Escapes are read in strings of double quotes only. -/
def readMultilineWithin (quote : Char) : List Char → Reader (List Char)
  | [], _ => none
  | _ :: bound, text =>
      match closeMultiline? quote text with
      | some closed => some closed
      | none =>
          match afterLineEnd? text with
          | some rest => do
              let (content, rest) ← readMultilineWithin quote bound rest
              return ('\n' :: content, rest)
          | none =>
              match text with
              | [] => none
              | character :: rest =>
                  if character = '\\' ∧ quote = '"' then
                    match afterLineContinuation? rest with
                    | some rest => readMultilineWithin quote bound rest
                    | none => do
                        let (escaped, rest) ← readEscape rest
                        let (content, rest) ← readMultilineWithin quote bound rest
                        return (escaped :: content, rest)
                  else if isPrintable character then do
                    let (content, rest) ← readMultilineWithin quote bound rest
                    return (character :: content, rest)
                  else none

/-- The rest of a string over several lines. A line end right after the opening
quotes is dropped. -/
def readMultiline (quote : Char) : Reader (List Char) := fun text =>
  let content := (afterLineEnd? text).getD text
  readMultilineWithin quote content content

/-- A string of any kind. -/
def readString : Reader (List Char)
  | '"' :: '"' :: '"' :: rest => readMultiline '"' rest
  | '\'' :: '\'' :: '\'' :: rest => readMultiline '\'' rest
  | '"' :: rest => readBasic rest
  | '\'' :: rest => readLiteral rest
  | _ => none

/-- The digits of a number without the underscores, each of which stands between
two digits. -/
def groupedDigits? (isDigit : Char → Bool) : List Char → Option (List Char)
  | [] => none
  | [last] => if isDigit last then some [last] else none
  | first :: '_' :: rest =>
      if isDigit first then (groupedDigits? isDigit rest).map (first :: ·) else none
  | first :: second :: rest =>
      if isDigit first then (groupedDigits? isDigit (second :: rest)).map (first :: ·) else none

/-- Decimal digits without a needless leading zero. -/
def decimalDigits? (text : List Char) : Option (List Char) :=
  match groupedDigits? Char.isDigit text with
  | some ('0' :: _ :: _) => none
  | other => other

/-- The value of digits in a base that are given without their mark. -/
def digitsIn? (base : Nat) (text : List Char) : Option Nat :=
  let isDigit (character : Char) : Bool :=
    match hexDigit? character with
    | some digit => digit < base
    | none => false
  (groupedDigits? isDigit text).map fun digits =>
    digits.foldl (fun value digit => base * value + (hexDigit? digit).getD 0) 0

/-- The sign of a number and the text after it. -/
def signOf : List Char → List Char × List Char
  | '-' :: rest => (['-'], rest)
  | '+' :: rest => (['+'], rest)
  | text => ([], text)

/-- The text is an integer within 64 bits. -/
def isInteger (text : List Char) : Bool :=
  match text with
  | '0' :: 'x' :: digits => (digitsIn? 16 digits).any (· ≤ 9223372036854775807)
  | '0' :: 'o' :: digits => (digitsIn? 8 digits).any (· ≤ 9223372036854775807)
  | '0' :: 'b' :: digits => (digitsIn? 2 digits).any (· ≤ 9223372036854775807)
  | _ =>
      let (sign, unsigned) := signOf text
      match decimalDigits? unsigned with
      | some digits => (Integer.read (sign ++ digits)).toOption.isSome
      | none => false

/-- The text is a power of ten after its letter, or empty without one. -/
def isExponent : List Char → Bool
  | [] => true
  | letter :: rest =>
      (letter = 'e' || letter = 'E') && (groupedDigits? Char.isDigit (signOf rest).2).isSome

/-- A digit or an underscore. -/
def isGroupedDigit (character : Char) : Bool := character.isDigit || character = '_'

/-- The text has the form of a number with a fraction or a power of ten. -/
def hasFloatForm (unsigned : List Char) : Bool :=
  let whole := unsigned.takeWhile isGroupedDigit
  (decimalDigits? whole).isSome &&
    match unsigned.dropWhile isGroupedDigit with
    | '.' :: rest =>
        (groupedDigits? Char.isDigit (rest.takeWhile isGroupedDigit)).isSome &&
          isExponent (rest.dropWhile isGroupedDigit)
    | [] => false
    | rest => isExponent rest

/-- The text is a floating-point number. Digits that denote a number above all
doubles are refused; below all doubles they denote negative infinity. -/
def isFloat (text : List Char) : Bool :=
  let unsigned := (signOf text).2
  unsigned = ['i', 'n', 'f'] || unsigned = ['n', 'a', 'n'] ||
    (hasFloatForm unsigned &&
      match Double.read (text.filter (· ≠ '_')) with
      | .ok (.signed negative rank) => negative || rank.val < infinityRank
      | _ => false)

/-- A character of a number or a truth value. -/
def isWordCharacter (character : Char) : Bool :=
  character.isAlphanum || character = '+' || character = '-' || character = '_' ||
    character = '.'

/-- A number or a truth value. -/
def readWord : Reader DataTree := fun text =>
  let word := text.takeWhile isWordCharacter
  let rest := text.dropWhile isWordCharacter
  if word = ['t', 'r', 'u', 'e'] then some (.boolean true, rest)
  else if word = ['f', 'a', 'l', 's', 'e'] then some (.boolean false, rest)
  else if isInteger word || isFloat word then some (.number (String.ofList word), rest)
  else none

end Toml
end PolicyDecision
