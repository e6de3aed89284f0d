import RobotsExclusion.Text.Ranges

/-!
# Blanks

The characters that pad a name without belonging to it: the `White_Space`
property, which besides the ASCII blanks holds the no-break space, the typographic
spaces and the line and paragraph separators.
-/

namespace RobotsExclusion.Text

/-- The `White_Space` characters. -/
def blankRanges : List (Nat × Nat) :=
  [(0x9, 0xD), (0x20, 0x20), (0x85, 0x85), (0xA0, 0xA0), (0x1680, 0x1680),
   (0x2000, 0x200A), (0x2028, 0x2029), (0x202F, 0x202F), (0x205F, 0x205F),
   (0x3000, 0x3000)]

/-- Whether a character is padding. -/
def isBlank (c : Char) : Bool :=
  inRanges blankRanges c

/-- Drops the blanks at both ends. -/
def trim (text : List Char) : List Char :=
  ((text.dropWhile isBlank).reverse.dropWhile isBlank).reverse

end RobotsExclusion.Text
