/-
This file reads enumerations from rows. A row is an object with an identifier and a description; the
identifier may be written as a numeral, a number or a boolean, and any value can describe it.
-/
import ApiDoc.Enumeration.Cache
import ApiDoc.Json.Label
import ApiDoc.Number.Numeral

namespace ApiDoc.Enumeration

/-- The failure of an enumeration whose rows are of no use. -/
def unusable (name : Text) (defect : RowDefect) : Failure := .malformed (.rows name defect)

/-- The identifier that a value denotes. A double loses its fraction. -/
def identifier (name : Text) : Json → Except Failure Int
  | .integer value => .ok value
  | .bool value => .ok (if value then 1 else 0)
  | .double value => match value.truncate? with
    | some integer => .ok integer
    | none => .error (if value = .nan then unusable name .notNumber else .infiniteIdentifier)
  | .string text => match Numeral.read text with
    | .ok value => .ok value
    | .error .notNumeral => .error (unusable name (.notNumeral text))
    | .error .tooLong => .error (unusable name .numeralTooLong)
  | .null | .array _ | .object _ => .error (unusable name .wrongShape)

/-- The key of the identifier in a row. -/
def identifierKey : Text := "enumId"

/-- The key of the description in a row. -/
def descriptionKey : Text := "description"

/-- The identifier and the label that a row gives. -/
def ofRow (name : Text) : Json → Except Failure (Int × Text)
  | .object members => do
    let some written := Dict.get? members identifierKey
      | throw (unusable name (.missingMember identifierKey))
    let value ← identifier name written
    let some description := Dict.get? members descriptionKey
      | throw (unusable name (.missingMember descriptionKey))
    return (value, description.label)
  | _ => .error (unusable name .wrongShape)

/-- The rows that a value consists of. An empty text or object has none; one that is not empty consists
of texts, which are no rows. -/
def rowsOf? : Json → Option (List Json)
  | .array rows => some rows
  | .object members => some (members.map fun (key, _) => .string key)
  | .string text => some (text.map fun point => .string [point])
  | .null | .bool _ | .integer _ | .double _ => none

/-- The enumeration whose rows a value consists of. -/
def ofJson (name : Text) (value : Json) : Except Failure Enumeration := do
  match rowsOf? value with
  | none => .error (unusable name .wrongShape)
  | some rows => return { name, values := ← rows.mapM (ofRow name) }

end ApiDoc.Enumeration
