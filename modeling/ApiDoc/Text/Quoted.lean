/-
This file writes a text between quotes so that every code point of it can be told: the quotes are
single unless only double ones spare an escape, and what is not printable is escaped by number.
-/
import ApiDoc.Text.Printable

namespace ApiDoc

namespace Hex

/-- The hexadecimal digit of a number below sixteen, in lower case. -/
def digit (value : Nat) : CodePoint :=
  .char (if value < 10 then Char.ofNat (0x30 + value) else Char.ofNat (0x57 + value))

/-- The lowest `width` hexadecimal digits of a number. -/
def digits : Nat → Nat → Text
  | 0, _ => []
  | width + 1, value => digits width (value / 0x10) ++ [digit (value % 0x10)]

end Hex

namespace Text.Quoted

/-- The quotes are double only around a text with single quotes and without double ones. -/
def delimiter (text : Text) : CodePoint :=
  if text.contains (.char '\x27') && !text.contains (.char '"') then .char '"' else .char '\x27'

/-- The written form of one code point between the given quotes. -/
def escape (delimiter point : CodePoint) : Text :=
  if point = .char '\\' ∨ point = delimiter then [.char '\\', point]
  else if point = .char '\n' then "\\n"
  else if point = .char '\r' then "\\r"
  else if point = .char '\t' then "\\t"
  else if point.isPrintable then [point]
  else if point.value < 0x100 then "\\x" ++ Hex.digits 2 point.value
  else if point.value < 0x10000 then "\\u" ++ Hex.digits 4 point.value
  else "\\U" ++ Hex.digits 8 point.value

end Quoted

/-- The text between quotes. -/
def quoted (text : Text) : Text :=
  let delimiter := Quoted.delimiter text
  delimiter :: text.flatMap (Quoted.escape delimiter) ++ [delimiter]

end Text

end ApiDoc
