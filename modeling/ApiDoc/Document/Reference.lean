/-
This file finds the references to schemas that stand in a JSON value, and the schemas that a document
names. A reference is a member with a key of its own whose value tells where in the document the
schema is.
-/
import ApiDoc.Json.Basic

namespace ApiDoc.Json

/-! ### References -/

/-- The key of a reference. -/
def referenceKey : Text := "$ref"

/-- Where references find the schemas of a document. -/
def schemaPlace : Text := "#/components/schemas/"

/-- The name of the schema that a member refers to. -/
def reference? (key : Text) : Json → Option Text
  | .string target =>
    if key = referenceKey && schemaPlace.isPrefixOf target then
      some (target.drop schemaPlace.length)
    else none
  | .null | .bool _ | .integer _ | .double _ | .array _ | .object _ => none

mutual

/-- The names of the schemas that the references in a value refer to. -/
def references : Json → List Text
  | .array items => itemReferences items
  | .object members => memberReferences members
  | .null | .bool _ | .integer _ | .double _ | .string _ => []

/-- The names that the references in items refer to. -/
def itemReferences : List Json → List Text
  | [] => []
  | item :: rest => references item ++ itemReferences rest

/-- The names that members refer to and that the references in their values refer to. -/
def memberReferences : List (Text × Json) → List Text
  | [] => []
  | (key, value) :: rest =>
    (reference? key value).toList ++ references value ++ memberReferences rest

end

/-! ### Schemas -/

/-- The value without the member under a key, if it is an object. -/
def withoutMember (key : Text) : Json → Json
  | .object members => .object (Dict.without members [key])
  | value => value

/-- The document without the schemas among its components. -/
def withoutSchemas : Json → Json
  | .object members => .object <| Dict.mapEntries
      (fun key value => if key = "components" then value.withoutMember "schemas" else value) members
  | value => value

/-- The names of the schemas among the components of a document. -/
def schemaNames (document : Json) : List Text :=
  match (document.member? "components").bind (·.member? "schemas") with
  | some (.object schemas) => Dict.keys schemas
  | _ => []

end ApiDoc.Json
