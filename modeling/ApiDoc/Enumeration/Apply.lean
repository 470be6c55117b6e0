/-
This file lists the values of an enumeration in the property of a column that draws from it. The
property then accepts integers and strings, and has no type of its own.
-/
import ApiDoc.Column.Naming
import ApiDoc.Enumeration.Cache
import ApiDoc.Table.Property

namespace ApiDoc.Property

/-- The choices of an enumerated property: an identifier or a label. -/
def identifierOrLabel : List (Dict Json) :=
  [[("type", .string "integer")], [("type", .string "string")]]

/-- The property as it is before its values are known. -/
def asEnumerated (property : Property) : Property :=
  { property with oneOf := some identifierOrLabel, type := none }

/-- The identifier of a value and its label without spaces. -/
def listed (value : Int × Text) : List Json :=
  [.integer value.1, .string (value.2.filter (· ≠ .char ' '))]

/-- The property with its values, and with null after them if it may be null. -/
def withValues (property : Property) (definition : Enumeration) : Property :=
  let listed := property.enum ++ definition.values.flatMap listed
  { property with enum := if property.nullable then listed ++ [.null] else listed }

/-- The enumeration to list in a property of a column: none if the values are there already. -/
def wanted? (property : Property) (column : Text) : Option Text :=
  if property.enum.isEmpty then Column.enumerationName? column else none

/-- The property after its values have been asked for, and whether the column draws from an
enumeration. A failure leaves a property without values. -/
def enumerate {σ : Type} (source : EnumSource σ) (column : Text) (property : Property)
    (state : Cached σ) : Except Failure Bool × Property × Cached σ :=
  match property.wanted? column with
  | none => (.ok false, property, state)
  | some name =>
    match (EnumCache.resolve source name).perform state with
    | (.ok definition, state) => (.ok true, property.asEnumerated.withValues definition, state)
    | (.error failure, state) => (.error failure, property.asEnumerated, state)

end ApiDoc.Property
