/-
This file defines the blank code points, which are those of Unicode's white space together with the
four information separators, and the trimming of a text.
-/
import ApiDoc.Text.CodeRange

namespace ApiDoc

/-- White space and the information separators. -/
def blankRanges : CodeRanges :=
  [(0x9, 0xD), (0x1C, 0x20), (0x85, 0x85), (0xA0, 0xA0), (0x1680, 0x1680), (0x2000, 0x200A),
   (0x2028, 0x2029), (0x202F, 0x202F), (0x205F, 0x205F), (0x3000, 0x3000)]

/-- A code point is blank if it separates words. -/
def CodePoint.isBlank (point : CodePoint) : Bool := blankRanges.covers point.value

namespace Text

/-- The text without the blanks at its start. -/
def trimStart (text : Text) : Text := text.dropWhile CodePoint.isBlank

/-- The text without the blanks at its end. -/
def trimEnd (text : Text) : Text := (text.reverse.dropWhile CodePoint.isBlank).reverse

/-- The text without the blanks at either end. -/
def trimBlanks (text : Text) : Text := trimEnd (trimStart text)

end Text

end ApiDoc
