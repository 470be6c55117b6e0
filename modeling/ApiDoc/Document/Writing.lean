/-
This file writes documents as JSON. Declared parts come first, in their order and under their keys;
the further members follow. Parts and further members that are null are left out, nulls inside of
them are kept.
-/
import ApiDoc.Document.Basic

namespace ApiDoc

namespace Dict

/-- The entries whose value is not null. -/
def withoutNulls (members : Dict Json) : Dict Json := members.filter fun (_, value) => !value.isNull

/-- A dictionary of dictionaries as a JSON value. -/
def nestedToJson (dict : Dict (Dict Json)) : Json :=
  .object (dict.mapEntries fun _ members => .object members)

end Dict

/-- The parameter as a JSON value. -/
def Parameter.toJson (parameter : Parameter) : Json :=
  .object <| Dict.ofParts
    [Dict.optionalPart "name" .string parameter.name,
      Dict.optionalPart "in" .string parameter.location,
      Dict.optionalPart "description" .string parameter.description,
      Dict.optionalPart "required" .bool parameter.required,
      Dict.optionalPart "schema" .object parameter.schema,
      parameter.extra.withoutNulls]

/-- The body as a JSON value. -/
def RequestBody.toJson (body : RequestBody) : Json :=
  .object <| Dict.ofParts
    [Dict.optionalPart "description" .string body.description,
      [("content", body.content.nestedToJson)],
      Dict.optionalPart "required" .bool body.required,
      body.extra.withoutNulls]

/-- The operation as a JSON value. -/
def Operation.toJson (operation : Operation) : Json :=
  .object <| Dict.ofParts
    [Dict.optionalPart "description" .string operation.description,
      [("parameters", .array (operation.parameters.map Parameter.toJson))],
      Dict.optionalPart "requestBody" RequestBody.toJson operation.requestBody,
      [("responses", operation.responses.nestedToJson)],
      operation.extra.withoutNulls]

/-- The path item as a JSON value. -/
def PathItem.toJson (item : PathItem) : Json :=
  let operations := item.operations.map fun (method, operation) => (method.key, operation.toJson)
  .object (Dict.ofParts [operations, item.extra.withoutNulls])

/-- The components as a JSON value. -/
def Components.toJson (components : Components) : Json :=
  .object <| Dict.ofParts
    [[("schemas", .object components.schemas)],
      [("securitySchemes", components.securitySchemes.nestedToJson)],
      components.extra.withoutNulls]

/-- A security requirement as a JSON value. -/
def Document.requirementToJson (requirement : Dict (List Text)) : Json :=
  .object (requirement.mapEntries fun _ scopes => .array (scopes.map .string))

/-- The document as a JSON value. -/
def Document.toJson (document : Document) : Json :=
  .object <| Dict.ofParts
    [[("openapi", .string document.openapi)],
      Dict.optionalPart "info" .object document.info,
      [("servers", .array (document.servers.map .object))],
      [("paths", .object (document.paths.mapEntries fun _ item => item.toJson))],
      [("components", document.components.toJson)],
      [("security", .array (document.security.map requirementToJson))],
      document.extra.withoutNulls]

end ApiDoc
