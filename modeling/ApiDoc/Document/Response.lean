/-
This file defines the responses that every corrected operation documents: one for success and three
for the errors that can be told apart.
-/
import ApiDoc.Json.Basic
import ApiDoc.Text.Search

namespace ApiDoc.Response

/-- The media type of every documented response. -/
def mediaType : Text := "application/json"

/-- The content of a response with a schema. -/
def content (schema : Dict Json) : Json :=
  .object [(mediaType, .object [("schema", .object schema)])]

/-- The schema of an error. -/
def errorSchema : Dict Json :=
  [("description", .string "Response returned from StarRez API"),
    ("type", .string "array"),
    ("nullable", .bool true),
    ("items", .object
      [("description", .string "StarRez HTTP error message"),
        ("type", .string "object"),
        ("properties", .object
          [("description", .object
            [("description", .string "Description of error"), ("type", .string "string")])])])]

/-- The schema of the rows that a query yields. -/
def rowSchema : Dict Json :=
  [("description", .string "StarQL response data"), ("type", .string "object")]

/-- The codes of the errors with their descriptions. -/
def errors : Dict Text :=
  [("400", "Your request is invalid, or badly formed, and we'll return an error message that tells you why."),
    ("403", Text.ofPieces
      ["Your request is valid, but you do not have permission to select data from the specified table, ",
        "or update the specified field."]),
    ("404", Text.ofPieces
      ["Your request is valid, but no data was found, or the table you are trying to use ",
        "does not exist."])]

/-- The response to a success: a query says what it yields. -/
def success (path : Text) : Dict Json :=
  Dict.ofParts
    [[("description", .string "Everything went fine.")],
      if path.mentions "query" then [("content", content rowSchema)] else []]

/-- The response to an error. -/
def error (description : Text) : Dict Json :=
  [("description", .string description), ("content", content errorSchema)]

/-- The responses of the operations of a path. -/
def all (path : Text) : Dict (Dict Json) :=
  ("200", success path) :: errors.mapEntries fun _ description => error description

end ApiDoc.Response
