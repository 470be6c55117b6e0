/-
This file defines the schema of one column, a property. Every part of it may be absent, and absent
parts are not written.
-/
import ApiDoc.Validation.Field
import ApiDoc.Column.Typing

namespace ApiDoc

/-- The schema of a column. An enumerated column lists identifiers and labels in turn. -/
structure Property where
  type : Option Text := none
  format : Option Text := none
  description : Option Text := none
  maxLength : Option Int := none
  nullable : Bool := false
  enum : List Json := []
  oneOf : Option (List (Dict Json)) := none
  deriving DecidableEq, Repr, Inhabited

namespace Property

/-- The schema as a JSON object. -/
def toMembers (property : Property) : Dict Json :=
  Dict.ofParts [Dict.optionalPart "type" .string property.type,
    Dict.optionalPart "format" .string property.format,
    Dict.optionalPart "description" .string property.description,
    Dict.optionalPart "maxLength" .integer property.maxLength,
    if property.nullable then [("nullable", .bool true)] else [],
    if property.enum.isEmpty then [] else [("enum", .array property.enum)],
    Dict.optionalPart "oneOf" (fun choices => .array (choices.map .object)) property.oneOf]

/-- The schema as a JSON value. -/
def toJson (property : Property) : Json := .object property.toMembers

/-- The schema that members describe; unknown members are ignored. -/
def ofMembers (members : Dict Json) : Validated Property :=
  let read {α : Type} (field : Field) := Field.read (α := α) members field
  Property.mk
    <$> read (.named "type") (Lenient.optional Lenient.string) none
    <*> read (.named "format") (Lenient.optional Lenient.string) none
    <*> read (.named "description") (Lenient.optional Lenient.string) none
    <*> read { key := "maxLength", name := "max_length" } (Lenient.optional Lenient.integer) none
    <*> read (.named "nullable") Lenient.boolean false
    <*> read (.named "enum") (Lenient.list Lenient.any) []
    <*> read { key := "oneOf", name := "one_of" }
      (Lenient.optional (Lenient.list Lenient.plainDictionary)) none

/-- The property with the type of a column; a type without a description leaves the description. -/
def withType (property : Property) (type : ColumnType) : Property :=
  { property with
    type := some type.type
    format := type.format
    description := type.description.or property.description }

end Property

end ApiDoc
