/-
This file corrects converted documents. Conversion gives every path a POST operation with generic
responses; the path itself tells the method, the parameters that are missing and the responses that
are documented. Each step may run on a document that is corrected already.
-/
import ApiDoc.Document.Basic
import ApiDoc.Document.Path
import ApiDoc.Document.Response

namespace ApiDoc

/-! ### Parameters -/

namespace Parameter

/-- A schema of strings. -/
def stringSchema : Dict Json := [("type", .string "string")]

/-- The format of a report. -/
def format : Parameter :=
  { name := some "format", location := some "path", required := some true,
    schema := some stringSchema }

/-- What the query parameter and the body of a query are. -/
def queryDescription : Text := "StarQL query to execute"

/-- The query of an operation without a body. -/
def query : Parameter :=
  { name := some "q", location := some "query", description := some queryDescription,
    required := some true,
    schema := some [("type", .string "string"), ("description", .string queryDescription)] }

/-- The type of the answer that is asked for. -/
def accept : Parameter :=
  { name := some "Accept", location := some "header", required := some false,
    description := some (Text.ofPieces
      ["Specifies the response return type following the MIME standard as specified by RFC 6838, ",
        "section 4, for example \x60application/json\x60 (for dynamic response typing, use ",
        "\x60*/*\x60)"]),
    schema := some [("type", .string "string"), ("default", .string "application/json")] }

/-- The formats that can be asked for. -/
def formats : List Text := ["atom", "csv", "htm", "html", "html-xml", "json", "xml"]

/-- The format that is used if none is asked for. -/
def defaultFormat : Text := "xml"

/-- A schema that lists the formats and keeps what else it says. -/
def listFormats (schema : Dict Json) : Dict Json :=
  let schema := if schema.isEmpty then stringSchema else schema
  (schema.insert "enum" (.array (formats.map .string))).insert "default" (.string defaultFormat)

/-- The parameter with the formats listed, if it is one of format. -/
def withFormats (parameter : Parameter) : Parameter :=
  if parameter.name = some "format" then
    { parameter with schema := some (listFormats (parameter.schema.getD [])) }
  else parameter

end Parameter

/-! ### Operations -/

namespace Operation

/-- The operation with a parameter for the format of its report. -/
def addReportFormat (operation : Operation) : Operation :=
  if operation.hasParameter "format" "path" then operation
  else operation.addParameter .format

/-- The operation with a parameter for the type of its answer. -/
def addAccept (operation : Operation) : Operation :=
  if operation.hasParameter "Accept" "header" then operation
  else operation.addParameter .accept

/-- The operation with the formats listed in every parameter of format. -/
def addFormats (operation : Operation) : Operation :=
  { operation with parameters := operation.parameters.map Parameter.withFormats }

/-- What an operation does that takes queries. -/
def starqlDescription : Text :=
  Text.ofPieces
    ["Allows the user to select ad-hoc data from the database using StarRez Query Language (StarQL). ",
      "The data will be returned in a format appropriate for the desired content accept type."]

/-- The body that a query is sent in. -/
def starqlBody : RequestBody :=
  { description := some Parameter.queryDescription, content := [("text/plain", [])],
    required := some true }

/-- The operation as one that takes a query in its body. -/
def asStarqlPost (operation : Operation) : Operation :=
  { operation with description := some starqlDescription, requestBody := some starqlBody }

/-- The operation as one that takes a query as its only parameter. -/
def asStarqlGet (operation : Operation) : Operation :=
  { operation with
    description := some starqlDescription
    requestBody := none
    parameters := [.query] }

/-- The operation with the parameters and responses of its path. -/
def correct (path : Text) (operation : Operation) : Operation :=
  let operation := if Path.hasFormat path then operation else operation.addAccept
  { operation.addFormats with responses := Response.all path }

end Operation

/-! ### Path items -/

namespace PathItem

/-- The item with operations that take queries, in the body of a POST and as a parameter of a GET. -/
def addStarql (item : PathItem) : PathItem :=
  match item.post with
  | none => item
  | some post => { item with post := some post.asStarqlPost, get := some post.asStarqlGet }

/-- The item with the parameters that its path asks for. -/
def addMissing (path : Text) (item : PathItem) : PathItem :=
  if Path.isReport path then item.mapOperations Operation.addReportFormat
  else if path.mentions "query" then item.addStarql
  else item

/-- Some operation expects a body. -/
def hasBody (item : PathItem) : Bool :=
  item.operations.any fun (_, operation) => operation.requestBody.isSome

/-- The item whose POST has moved to the method that its path implies. A path that reads does so only
if no operation has a body. -/
def correctMethods (path : Text) (item : PathItem) : PathItem :=
  match item.post with
  | none => item
  | some post =>
    if Path.reads path && !item.hasBody then { item with get := some post, post := none }
    else if path.mentions "delete" then { item with delete := some post, post := none }
    else if path.mentions "update" && !path.mentions "post" then
      { item with patch := some post, put := some post, post := none }
    else if path.mentions "query" && item.get.isNone then { item with get := some post }
    else item

/-- The item with its methods, and every operation with its parameters and responses. -/
def correct (path : Text) (item : PathItem) : PathItem :=
  (item.correctMethods path).mapOperations (Operation.correct path)

end PathItem

/-! ### Documents -/

namespace Document

/-- The document with the table template of its paths in camel case. Of paths that become the same
the first gives the place and the last the item. -/
def renameTableTemplates (document : Document) : Document :=
  { document with
    paths := Dict.ofEntries (document.paths.map fun (path, item) => (Path.withTableName path, item)) }

/-- The document with the parameters that its paths ask for. -/
def addMissingParameters (document : Document) : Document :=
  { document with
    paths := Dict.ofEntries (document.paths.map fun (path, item) =>
      let path := Path.withReportFormat path
      (path, item.addMissing path)) }

/-- The document with every operation under the method that its path implies. -/
def correctMethods (document : Document) : Document :=
  document.mapItems PathItem.correctMethods

/-- The name of the scheme of basic authentication. -/
def basicSchemeName : Text := "Basic"

/-- The scheme of basic authentication. -/
def basicScheme : Dict Json :=
  [("type", .string "http"), ("description", .string "Basic authentication scheme"),
    ("scheme", .string "Basic")]

/-- Basic authentication is required, without scopes. -/
def basicRequirement : Dict (List Text) := [(basicSchemeName, [])]

/-- The document with basic authentication declared and required. -/
def addBasicAuth (document : Document) : Document :=
  { document with
    components := { document.components with
      securitySchemes :=
        document.components.securitySchemes.insertIfNew basicSchemeName basicScheme }
    security :=
      if document.security.contains basicRequirement then document.security
      else document.security ++ [basicRequirement] }

/-- The document with these servers. -/
def setServers (servers : List (Dict Json)) (document : Document) : Document :=
  { document with servers }

/-- The corrected document. -/
def correct (servers : List (Dict Json)) (document : Document) : Document :=
  ((document.renameTableTemplates.addMissingParameters.mapItems PathItem.correct).addBasicAuth
    ).setServers servers

end Document

end ApiDoc
