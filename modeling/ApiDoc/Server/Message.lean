/-
This file defines the requests that the server gets and the responses that it gives. The name of a
header counts without regard to case; of headers with one name the first counts.
-/
import ApiDoc.Http.Status
import ApiDoc.Http.Url
import ApiDoc.Json.Printer

namespace ApiDoc.Server

/-- A request to the server: its target is a path, and what follows the path does not count. -/
structure Request where
  method : Text := "GET"
  target : Text
  headers : List (Text × Text) := []
  deriving DecidableEq, Repr

namespace Request

/-- The value of a header, whose name is given in small letters. -/
def header? (request : Request) (name : Text) : Option Text :=
  (request.headers.find? fun (key, _) => key.asciiLowercase = name).map (·.2)

/-- The request has a method, whose name is given in small letters. -/
def hasMethod (request : Request) (name : Text) : Bool := request.method.asciiLowercase = name

/-- The path that is asked for in plain characters, if they are any. -/
def path? (request : Request) : Option Text :=
  Utf8.decode? (Http.Url.unescape (Http.Url.ofText request.target).path)

end Request

/-- A response; the names of its headers are in small letters. -/
structure Response where
  status : Http.Status
  headers : Dict Text := []
  body : Text := []
  deriving DecidableEq, Repr

namespace Response

/-- The header that says what a body is. -/
def contentType (type : Text) : Dict Text := [("content-type", type)]

/-- A response whose body is a JSON text. -/
def json (status : Http.Status) (body : Text) : Response :=
  { status, headers := contentType "application/json", body }

/-- A response whose body is plain text. -/
def plain (status : Http.Status) (body : Text) : Response :=
  { status, headers := contentType "text/plain; charset=utf-8", body }

/-- A response that says in JSON why there is no other. -/
def refusal (status : Http.Status) (detail : Json) : Response :=
  json status (Json.write .dense (.object [("detail", detail)]))

/-- The response with more headers. -/
def withHeaders (response : Response) (headers : Dict Text) : Response :=
  { response with headers := response.headers ++ headers }

/-- Nothing lies at the path. -/
def notFound : Response := refusal 404 (.string "Not Found")

/-- What lies at the path can only be read. -/
def methodNotAllowed : Response :=
  (refusal 405 (.string "Method Not Allowed")).withHeaders [("allow", "GET")]

/-- The header about who asks cannot be read. -/
def notAuthenticated : Response :=
  (refusal 401 (.string "Not authenticated")).withHeaders [("www-authenticate", "Basic")]

/-- The response to a failure that nothing handles. -/
def internalError : Response := plain 500 "Internal Server Error"

end Response

end ApiDoc.Server
