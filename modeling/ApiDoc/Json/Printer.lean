/-
This file prints JSON values. A layout says which separators stand between members, whether lines are
broken and indented, and whether characters beyond ASCII are escaped.
-/
import ApiDoc.Json.Basic
import ApiDoc.Number.Shortest
import ApiDoc.Text.Quoted

namespace ApiDoc.Json

/-- The choices that the standard leaves to a printer. -/
structure Layout where
  asciiOnly : Bool
  comma : Text
  colon : Text
  indent : Option Nat
  deriving DecidableEq, Repr

namespace Layout

/-- One line with a space after every comma and colon. -/
def spaced : Layout := { asciiOnly := false, comma := ", ", colon := ": ", indent := none }

/-- One line with spaces and without a character beyond ASCII. -/
def spacedAscii : Layout := { spaced with asciiOnly := true }

/-- One line without any space. -/
def dense : Layout := { asciiOnly := false, comma := ",", colon := ":", indent := none }

/-- One member a line, two spaces deeper than what it belongs to. -/
def indented : Layout := { asciiOnly := false, comma := ",", colon := ": ", indent := some 2 }

/-- The break before a member at a level. -/
def lineBreak (layout : Layout) (level : Nat) : Text :=
  match layout.indent with
  | none => []
  | some width => .char '\n' :: List.replicate (width * level) (.char ' ')

end Layout

/-! ### Strings -/

/-- The escape of a code point by its number, or by the numbers of the two halves that make it up. -/
def escapeByNumber (value : Nat) : Text :=
  if value < 0x10000 then "\\u" ++ Hex.digits 4 value
  else
    let offset := value - 0x10000
    Text.ofPieces ["\\u", Hex.digits 4 (0xD800 + offset / 0x400), "\\u",
      Hex.digits 4 (0xDC00 + offset % 0x400)]

/-- The written form of one code point of a string. -/
def escape (asciiOnly : Bool) (point : CodePoint) : Text :=
  if point = .char '"' then "\\\""
  else if point = .char '\\' then "\\\\"
  else if point = .char '\n' then "\\n"
  else if point = .char '\r' then "\\r"
  else if point = .char '\t' then "\\t"
  else if point = .char '\x08' then "\\b"
  else if point = .char '\x0c' then "\\f"
  else if point.value < 0x20 ∨ (asciiOnly ∧ 0x7F ≤ point.value) then escapeByNumber point.value
  else [point]

/-- A string between its quotes. -/
def printString (asciiOnly : Bool) (text : Text) : Text :=
  .char '"' :: text.flatMap (escape asciiOnly) ++ [.char '"']

/-! ### Values -/

/-- The text of a double; what is no number has a name. -/
def printDouble : Double → Text
  | .nan => "NaN"
  | .infinity negative => if negative then "-Infinity" else "Infinity"
  | value => value.write

/-- Members between their brackets. They stand one level below `level`, with commas between them. -/
def enclose (layout : Layout) (level : Nat) (opening closing : Text) : List Text → Text
  | [] => opening ++ closing
  | first :: rest =>
    let lineBreak := layout.lineBreak (level + 1)
    Text.ofPieces [opening, lineBreak, Text.join (layout.comma ++ lineBreak) (first :: rest),
      layout.lineBreak level, closing]

mutual

/-- The text of a value whose members stand one level below `level`. -/
def print (layout : Layout) (level : Nat) : Json → Text
  | .null => "null"
  | .bool value => if value then "true" else "false"
  | .integer value => Text.ofInt value
  | .double value => printDouble value
  | .string value => printString layout.asciiOnly value
  | .array items => enclose layout level "[" "]" (printItems layout (level + 1) items)
  | .object members =>
    enclose layout level "\x7b" "\x7d" (printMembers layout (level + 1) members)

/-- The texts of items. -/
def printItems (layout : Layout) (level : Nat) : List Json → List Text
  | [] => []
  | item :: rest => print layout level item :: printItems layout level rest

/-- The texts of members, each a key and a value. -/
def printMembers (layout : Layout) (level : Nat) : List (Text × Json) → List Text
  | [] => []
  | (key, value) :: rest =>
    Text.ofPieces [printString layout.asciiOnly key, layout.colon, print layout level value]
      :: printMembers layout level rest

end

/-- The text of a value in a layout. -/
def write (layout : Layout) (value : Json) : Text := print layout 0 value

mutual

/-- Every number in the value is finite. -/
def isFinite : Json → Bool
  | .double value => value.isFinite
  | .array items => areFinite items
  | .object members => haveFinite members
  | .null | .bool _ | .integer _ | .string _ => true

/-- Every number in the items is finite. -/
def areFinite : List Json → Bool
  | [] => true
  | item :: rest => isFinite item && areFinite rest

/-- Every number in the members is finite. -/
def haveFinite : List (Text × Json) → Bool
  | [] => true
  | (_, value) :: rest => isFinite value && haveFinite rest

end

end ApiDoc.Json
