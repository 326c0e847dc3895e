/-!
# Blank characters

The blank characters are those with the Unicode property `White_Space`. Lexical
forms of booleans and numbers may be surrounded by them, and an identifier that
names a resource may not contain any.
-/

namespace PolicyDecision
namespace Text

/-- The ranges of code points with the Unicode property `White_Space`. -/
def blankRanges : List (Nat × Nat) :=
  [(0x09, 0x0D), (0x20, 0x20), (0x85, 0x85), (0xA0, 0xA0), (0x1680, 0x1680),
   (0x2000, 0x200A), (0x2028, 0x2029), (0x202F, 0x202F), (0x205F, 0x205F),
   (0x3000, 0x3000)]

/-- A code point lies in one of the listed inclusive ranges. -/
def inRanges (ranges : List (Nat × Nat)) (codePoint : Nat) : Bool :=
  ranges.any fun range => range.1 ≤ codePoint && codePoint ≤ range.2

/-- A character with the Unicode property `White_Space`. -/
def isBlank (character : Char) : Bool :=
  inRanges blankRanges character.toNat

/-- Every blank of the ASCII range known to `Char.isWhitespace` is blank here. -/
theorem isBlank_of_isWhitespace
    (character : Char)
    (whitespace : character.isWhitespace = true) :
    isBlank character = true := by
  simp only [Char.isWhitespace, Bool.or_eq_true, decide_eq_true_eq] at whitespace
  rcases whitespace with ((rfl | rfl) | rfl) | rfl <;> decide

/-- The text without the longest run of droppable characters at either end. -/
def trimWhere (droppable : Char → Bool) (text : List Char) : List Char :=
  ((text.dropWhile droppable).reverse.dropWhile droppable).reverse

@[simp] theorem trimWhere_nil (droppable : Char → Bool) :
    trimWhere droppable [] = [] := rfl

/-- The text without blanks at either end. -/
def trim (text : List Char) : List Char :=
  trimWhere isBlank text

@[simp] theorem trim_nil : trim [] = [] := rfl

end Text
end PolicyDecision
