/-
This file lets someone else send the requests of a run. A request is written as a line of JSON and a
reply is read from one. A run is replayed with the replies that are known so far: since it depends on
nothing else, it sends the same requests again, and the first one beyond the replies is the next to
be sent.
-/
import ApiDoc.Http.Session
import ApiDoc.Json.Printer
import ApiDoc.Json.Reader
import ApiDoc.Text.Base64

namespace ApiDoc.Http

/-- A request as JSON, with its body in Base64. -/
def Request.toJson (request : Request) : Json :=
  .object <| Dict.ofParts
    [[("method", .string request.method.name), ("url", .string request.url),
        ("accept", .string request.accept)],
      Dict.optionalPart "authorization" .string request.authorization,
      Dict.optionalPart "contentType" .string request.contentType,
      [("body", .string (Base64.encode request.body))]]

namespace Reply

/-- A reply without an answer. -/
def missing (message : Text) : Reply := .error (.transport message)

/-- The text of a member, if it has one. -/
def text? (reply : Json) (key : Text) : Option Text :=
  match reply.member? key with
  | some (.string text) => some text
  | _ => none

/-- The reply that JSON describes: a status with a body in Base64, or a message about what came in the
way. -/
def ofJson (reply : Json) : Reply :=
  match reply.member? "status" with
  | some (.integer status) =>
    match Base64.decode? ((text? reply "body").getD []) with
    | some body =>
      .ok { status := status.toNat, location := text? reply "location", chunks := [body] }
    | none => missing "The body of the reply cannot be read."
  | _ => missing ((text? reply "message").getD "The reply cannot be read.")

/-- The reply that a line describes. -/
def ofLine (line : Text) : Reply :=
  match Json.read line with
  | .ok reply => ofJson reply
  | .error _ => missing "The reply cannot be read."

end Reply

namespace Replay

/-- The remote that gives the replies one after the other. -/
def remote : Remote (List Reply) := fun _ replies =>
  match replies with
  | [] => (Reply.missing "There is no reply.", [])
  | reply :: rest => (reply, rest)

/-- The first request that the replies do not reach. -/
def next? (replies : List Reply) (session : Session (List Reply)) : Option Request :=
  session.sent[replies.length]?

end Replay

end ApiDoc.Http
