/-
This file defines the schema of a table: its properties in order of first insertion and the names of
those that are required.
-/
import ApiDoc.Table.Property

namespace ApiDoc

/-- The schema of a table. -/
structure Table where
  name : Text
  properties : Dict Property := []
  required : List Text := []
  deriving DecidableEq, Repr, Inhabited

namespace Table

/-- The table with a property under a name, in the place of an earlier one of that name. -/
def putProperty (table : Table) (name : Text) (property : Property) : Table :=
  { table with properties := table.properties.insert name property }

/-- The table in which a property is required; a name without a property is not taken, nor one that
is required already. -/
def requireProperty (table : Table) (name : Text) : Table :=
  if table.properties.hasKey name && !table.required.contains name then
    { table with required := table.required ++ [name] }
  else table

/-- The list of the required names, written only if there are any. -/
def requiredMember (table : Table) : Dict Json :=
  if table.required.isEmpty then []
  else [("required", .array (table.required.map .string))]

/-- The schema as a JSON object. -/
def toMembers (table : Table) : Dict Json :=
  let properties := table.properties.mapEntries fun _ property => property.toJson
  Dict.ofParts [[("type", .string "object")], table.requiredMember,
    [("properties", .object properties)]]

/-- The schema as a JSON value. -/
def toJson (table : Table) : Json := .object table.toMembers

end Table

end ApiDoc
