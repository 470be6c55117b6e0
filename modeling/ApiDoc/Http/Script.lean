/-
This file defines scripted remotes. A script is a list of routes, of which the first that fits a
request replies to it; a route that serves once is gone after that.
-/
import ApiDoc.Http.Session
import ApiDoc.Text.Search

namespace ApiDoc.Http

/-- A route: which requests it fits, and the reply. -/
structure Route where
  url : Text
  method : Option Text := none
  contained : Option Bytes := none
  isOnce : Bool := false
  reply : Reply

namespace Route

/-- The bytes occur somewhere in a body. -/
def occurs (fragment : Bytes) : Bytes → Bool
  | [] => fragment.isEmpty
  | byte :: rest => fragment.isPrefixOf (byte :: rest) || occurs fragment rest

/-- The route fits a request. -/
def fits (route : Route) (request : Request) : Bool :=
  route.url.isSuffixOf request.url
    && route.method.all (· = request.method.name)
    && route.contained.all (occurs · request.body)

end Route

namespace Script

/-- The reply to a request that no route fits. -/
def notFound : Reply :=
  .ok { status := 404, chunks := [Utf8.encode "not found"] }

/-- The reply of the first route that fits, and the routes that are left. -/
def reply (request : Request) : List Route → Reply × List Route
  | [] => (notFound, [])
  | route :: rest =>
    if route.fits request then (route.reply, if route.isOnce then rest else route :: rest)
    else
      let (answer, rest) := reply request rest
      (answer, route :: rest)

/-- The remote that follows a script. -/
def remote : Remote (List Route) := reply

end Script

end ApiDoc.Http
