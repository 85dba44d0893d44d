/-!
# Blank characters

A name counts as empty when nothing is left of it after blanks are trimmed.
Blanks are the characters with the Unicode property `White_Space`; zero-width
characters are not among them.
-/

namespace MeterLine

/-- Code points with the property `White_Space`, as inclusive ranges. -/
def blankRanges : List (Nat × Nat) :=
  [(0x09, 0x0D), (0x20, 0x20), (0x85, 0x85), (0xA0, 0xA0), (0x1680, 0x1680),
    (0x2000, 0x200A), (0x2028, 0x2029), (0x202F, 0x202F), (0x205F, 0x205F),
    (0x3000, 0x3000)]

def isBlankChar (character : Char) : Bool :=
  blankRanges.any fun range =>
    range.1 ≤ character.toNat && character.toNat ≤ range.2

def isBlank (text : String) : Bool :=
  text.toList.all isBlankChar

theorem isBlankChar_of_isWhitespace {character : Char}
    (whitespace : character.isWhitespace = true) :
    isBlankChar character = true := by
  simp only [Char.isWhitespace, Bool.or_eq_true, decide_eq_true_eq] at whitespace
  rcases whitespace with ((rfl | rfl) | rfl) | rfl <;> decide

end MeterLine
