import LogStyle.Text.Ranges

/-! # Blank characters

The characters that separate words: spaces, line ends and the four information separators.
-/

namespace LogStyle

/-- The blank code points. -/
def blankRanges : Ranges :=
  [(0x9, 0xD), (0x1C, 0x20), (0x85, 0x85), (0xA0, 0xA0), (0x1680, 0x1680), (0x2000, 0x200A),
   (0x2028, 0x2029), (0x202F, 0x202F), (0x205F, 0x205F), (0x3000, 0x3000)]

/-- Whether a character is blank. -/
def isBlank (c : CodePoint) : Bool :=
  blankRanges.has c.toNat

namespace Text

/-- A text without the blanks at its two ends. -/
def strip (t : Text) : Text :=
  ((t.dropWhile isBlank).reverse.dropWhile isBlank).reverse

end Text

end LogStyle
