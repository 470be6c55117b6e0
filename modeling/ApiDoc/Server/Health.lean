/-
This file reports whether the services that the server needs can be reached. The service that is
described has to answer with a success; the converter may answer as it likes.
-/
import ApiDoc.Source.Converter
import ApiDoc.Source.Exchange
import ApiDoc.Server.Message

namespace ApiDoc.Server

/-- What is known about a service after asking it. -/
inductive Condition where
  | up (url : Text)
  | down (error : Text)
  deriving DecidableEq, Repr

namespace Condition

/-- The service can be reached. -/
def isUp : Condition → Bool
  | .up _ => true
  | .down _ => false

/-- The condition as it is reported. -/
def toJson : Condition → Json
  | .up url => .object [("status", .string "up"), ("url", .string url)]
  | .down error => .object [("status", .string "down"), ("error", .string error)]

end Condition

namespace Health

open Http (Session Status)

/-! ### Probes -/

/-- The message about an answer that is no success. -/
def refusalMessage (url : Text) (answer : Http.Answer) : Text :=
  let code := Text.ofNat answer.status
  let location : Text := match answer.location with
    | some location =>
      if answer.status.isRedirect then
        Text.ofPieces ["Redirect location: \x27", location, "\x27\n"]
      else []
    | none => []
  Text.ofPieces
    [answer.status.errorClass, " \x27", code, " ", answer.status.phrase, "\x27 for url \x27",
      Http.sentUrl url, "\x27\n", location,
      "For more information check: https://developer.mozilla.org/en-US/docs/Web/HTTP/Status/", code]

variable {σ : Type}

/-- The answer to a probe, if all of it arrives, or the message about what came in the way. -/
def probe (remote : Http.Remote σ) (url : Text) :
    StateM (Session σ) (Except Text Http.Answer) := do
  let request : Http.Request :=
    { method := .get, url, accept := "*/*", authorization := Http.urlAuthorization? url }
  match ← Session.send remote request with
  | .error disruption => return .error disruption.message
  | .ok answer => match answer.interruption with
    | some disruption => return .error disruption.message
    | none => return .ok answer

/-- The condition of the service that is described. -/
def source (remote : Http.Remote σ) (connection : Connection) :
    StateM (Session σ) Condition := do
  let root := connection.rootUrl .production
  let url := Text.ofPieces [root, "/swagger"]
  match ← probe remote url with
  | .error message => return .down message
  | .ok answer =>
    return if answer.status.isSuccess then .up root else .down (refusalMessage url answer)

/-- The condition of the converter. -/
def converter (remote : Http.Remote σ) (url : Text) : StateM (Session σ) Condition := do
  match ← probe remote url with
  | .error message => return .down message
  | .ok _ => return .up url

/-! ### Report -/

/-- The report on both services. -/
def report (source converter : Condition) : Json :=
  let overall : Text := if source.isUp && converter.isUp then "ok" else "degraded"
  .object [("status", .string overall),
    ("services", .object [("starrez", source.toJson), ("converter", converter.toJson)])]

/-- Asks both services, one after the other. -/
def check (remote : Http.Remote σ) (settings : Settings) : StateM (Session σ) Json := do
  let source ← source remote (settings.connection none none)
  let converter ← converter remote settings.converterUrl
  return report source converter

end Health

end ApiDoc.Server
