/-
This file turns any JSON value into a label. A string is its own label; inside of arrays and objects
strings stand between quotes, so that the label tells them from numbers and words.
-/
import ApiDoc.Json.Basic
import ApiDoc.Number.Shortest
import ApiDoc.Text.Quoted

namespace ApiDoc.Json

mutual

/-- The value as it stands inside of a label. -/
def nestedLabel : Json → Text
  | .null => "None"
  | .bool value => if value then "True" else "False"
  | .integer value => Text.ofInt value
  | .double value => value.write
  | .string value => value.quoted
  | .array items => Text.ofPieces ["[", Text.join ", " (itemLabels items), "]"]
  | .object members => Text.ofPieces ["\x7b", Text.join ", " (memberLabels members), "\x7d"]

/-- The items as they stand there. -/
def itemLabels : List Json → List Text
  | [] => []
  | item :: rest => nestedLabel item :: itemLabels rest

/-- The members as they stand there. -/
def memberLabels : List (Text × Json) → List Text
  | [] => []
  | (key, value) :: rest =>
    Text.ofPieces [key.quoted, ": ", nestedLabel value] :: memberLabels rest

end

/-- The label of a value. -/
def label : Json → Text
  | .string value => value
  | value => nestedLabel value

end ApiDoc.Json
