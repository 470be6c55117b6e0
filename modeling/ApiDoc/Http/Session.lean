/-
This file sends requests. The other side is anything that replies to a request and may change its
state; a session keeps that state together with the requests that were sent, in order. A request that
goes to no address, or to none of the web, is not sent.
-/
import ApiDoc.Http.Message
import ApiDoc.Http.Url

namespace ApiDoc.Http

/-- The other side: it replies and moves on to another state. -/
abbrev Remote (σ : Type) := Request → σ → Reply × σ

/-- The state of the other side and what was sent to it. -/
structure Session (σ : Type) where
  remote : σ
  sent : List Request := []
  deriving Repr

variable {σ : Type}

namespace Session

/-- The message about an address that no request can be sent to. -/
def noProtocol : Text := "Request URL is missing an \x27http://\x27 or \x27https://\x27 protocol."

end Session

/-- A request as it is sent, to the normal form of its address, or what keeps it from being sent. -/
def Request.prepare (request : Request) : Except Disruption Request :=
  match Url.objection? request.url with
  | some message => .error (.invalidAddress message)
  | none =>
    let url := Url.ofText request.url
    if url.isHttp then .ok { request with url := url.toText }
    else .error (.transport Session.noProtocol)

/-- Sends a request if it can be sent. -/
def Session.send (remote : Remote σ) (request : Request) : StateM (Session σ) Reply :=
  fun session => match request.prepare with
    | .ok request =>
      let (reply, state) := remote request session.remote
      (reply, { remote := state, sent := session.sent ++ [request] })
    | .error disruption => (.error disruption, session)

end ApiDoc.Http
