/-
This file asks another service and judges the answer. Whatever is no success is a failure that names
the address, the status and its phrase; whatever comes in the way names the address alone.
-/
import ApiDoc.Attempt
import ApiDoc.Http.Session
import ApiDoc.Text.Base64

namespace ApiDoc

/-- The failure of what asked for an address when something comes in the way. -/
def Failure.ofDisruption (url : Text) : Http.Disruption → Failure
  | .transport message => .unavailable url none message
  | .undecodable message => .undecodableContent message
  | .tooManyRedirects message => .tooManyRedirects message
  | .invalidAddress _ => .rejected [{ location := [], kind := .invalidAddress }]

/-- The failure of what read a body. -/
def Failure.ofBody (describe : Json.BodyDefect → Malformation) : Json.BodyDefect → Failure
  | .unreadable .tooDeep => .tooDeep
  | defect => .malformed (describe defect)

namespace Http

/-- The header that proves who asks, from the bytes of a name and a password. -/
def basicHeader (username password : Bytes) : Text :=
  Text.ofPieces ["Basic ", Base64.encode (username ++ Utf8.encode ":" ++ password)]

/-- The header that proves who asks. -/
def basicAuthorization (username password : Text) : Text :=
  basicHeader (Utf8.encode username) (Utf8.encode password)

/-- The header for what an address itself says about who asks. -/
def urlAuthorization? (url : Text) : Option Text :=
  let (username, password) := Url.cutAt (.char ':') (Url.ofText url).userinfo
  let password := password.getD []
  if username.isEmpty && password.isEmpty then none
  else some (basicHeader (Url.unescape username) (Url.unescape password))

/-- Why an answer is no success, if it is none. Its body arrives before its status counts; `shown` is
the address that the failure names then. -/
def Answer.refusal? (answer : Answer) (url shown : Text) : Option Failure :=
  if answer.status.isSuccess then none
  else match answer.interruption with
    | some disruption => some (.ofDisruption url disruption)
    | none => some (.unavailable shown (some answer.status) answer.status.phrase)

/-- The body of an answer, if it is a success and all of it arrives. -/
def Answer.wholeBody (answer : Answer) (url shown : Text) : Except Failure Bytes :=
  match answer.refusal? url shown with
  | some failure => .error failure
  | none => match answer.interruption with
    | some disruption => .error (.ofDisruption url disruption)
    | none => .ok answer.body

/-- An address as it is sent. -/
def sentUrl (url : Text) : Text := (Url.ofText url).toText

/-- Sends a request and waits for the answer. -/
def ask {σ : Type} (remote : Remote σ) (request : Request) : Attempt (Session σ) Answer :=
  .ofFunction fun session =>
    match Session.send remote request session with
    | (.ok answer, session) => (.ok answer, session)
    | (.error disruption, session) => (.error (.ofDisruption request.url disruption), session)

end Http

end ApiDoc
