/-!
# Blank characters

The blank characters are those with the Unicode property `White_Space`.  They
separate tokens, and they are what trimming removes from both ends of a text.
-/

namespace PapyrusScript.Text

/-- The code points with the property `White_Space`, as inclusive ranges. -/
def blankRanges : List (Nat × Nat) :=
  [(0x9, 0xD), (0x20, 0x20), (0x85, 0x85), (0xA0, 0xA0), (0x1680, 0x1680),
    (0x2000, 0x200A), (0x2028, 0x2029), (0x202F, 0x202F), (0x205F, 0x205F),
    (0x3000, 0x3000)]

/-- Whether a character has the property `White_Space`. -/
def isBlank (letter : Char) : Bool :=
  blankRanges.any fun range =>
    range.1 ≤ letter.toNat && letter.toNat ≤ range.2

/-- A text without the blanks at both ends. -/
def trim (text : List Char) : List Char :=
  ((text.dropWhile isBlank).reverse.dropWhile isBlank).reverse

end PapyrusScript.Text
