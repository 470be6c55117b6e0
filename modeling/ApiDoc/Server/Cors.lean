/-
This file says to the pages of other sites whether they may use the responses of the server. A
browser may ask before the request itself; that question is answered here and goes no further.
-/
import ApiDoc.Server.Message
import ApiDoc.Settings.Basic
import ApiDoc.Text.Blank

namespace ApiDoc.Server

/-- The sites whose pages may use the responses; a star among them stands for all sites. -/
structure Cors where
  origins : List Text
  deriving DecidableEq, Repr

namespace Cors

/-- The sites that the settings name, with commas between them. -/
def ofSettings (settings : Settings) : Cors :=
  { origins := ((settings.corsOrigins.splitAtMark (.char ',')).map Text.trimBlanks).filter
      (!·.isEmpty) }

/-- Every site is allowed. -/
def allowsAll (cors : Cors) : Bool := cors.origins.contains "*"

/-- A site is allowed. -/
def allows (cors : Cors) (origin : Text) : Bool := cors.allowsAll || cors.origins.contains origin

/-- The header that names who may use a response. -/
def allowedOrigin (origin : Text) : Dict Text := [("access-control-allow-origin", origin)]

/-- The header that lets pages prove who asks. -/
def allowedCredentials : Dict Text := [("access-control-allow-credentials", "true")]

/-- The header by which caches tell the responses to different sites. -/
def variesByOrigin : Dict Text := [("vary", "Origin")]

/-- The response to a request, marked for the page that the request comes from. -/
def mark (cors : Cors) (request : Request) (response : Response) : Response :=
  match request.header? "origin" with
  | none => response
  | some origin =>
    let allowed : Dict Text :=
      if cors.allowsAll && (request.header? "cookie").isNone then allowedOrigin "*"
      else if cors.allows origin then Dict.ofParts [allowedOrigin origin, variesByOrigin]
      else []
    response.withHeaders (Dict.ofParts [allowedCredentials, allowed])

/-! ### Questions before a request -/

/-- The methods that pages may ask about. -/
def methods : List Text := ["DELETE", "GET", "HEAD", "OPTIONS", "PATCH", "POST", "PUT"]

/-- The conditions on a request that is asked about, and whether they are met. -/
def conditions (cors : Cors) (origin method : Text) : Dict Bool :=
  [("origin", cors.allows origin), ("method", methods.contains method)]

/-- What speaks against the request that is asked about. -/
def objections (cors : Cors) (origin method : Text) : List Text :=
  Dict.keys ((cors.conditions origin method).filter fun (_, isMet) => !isMet)

/-- The response to a question whether a page of a site may send a request. -/
def permission (cors : Cors) (request : Request) (origin method : Text) : Response :=
  let objections := cors.objections origin method
  let response := if objections.isEmpty then Response.plain 200 "OK"
    else .plain 400 (Text.ofPieces ["Disallowed CORS ", Text.join ", " objections])
  response.withHeaders <| Dict.ofParts
    [variesByOrigin, [("access-control-allow-methods", Text.join ", " methods)],
      [("access-control-max-age", "600")], allowedCredentials,
      if cors.allows origin then allowedOrigin origin else [],
      Dict.optionalPart "access-control-allow-headers" id
        (request.header? "access-control-request-headers")]

/-- The response to a request that is such a question. -/
def preflight? (cors : Cors) (request : Request) : Option Response := do
  let origin ← request.header? "origin"
  let method ← request.header? "access-control-request-method"
  if request.hasMethod "options" then some (cors.permission request origin method) else none

end Cors

end ApiDoc.Server
