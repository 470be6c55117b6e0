/-
This file reads from a request who asks. Only the basic scheme is read; under another scheme, or
without any, the request does not say who asks.
-/
import ApiDoc.Server.Message
import ApiDoc.Text.Base64

namespace ApiDoc.Server

/-- The name and the password of who asks. -/
structure Credentials where
  username : Text
  password : Text
  deriving DecidableEq, Repr

/-- What a request says about who asks. -/
inductive Identity where
  | unstated
  | stated (credentials : Credentials)
  | unreadable
  deriving DecidableEq, Repr

namespace Credentials

/-- The credentials that bytes spell: ASCII, with the first colon after the name. -/
def ofBytes? (bytes : Bytes) : Option Credentials := do
  let spelled ← Utf8.decode? bytes
  let (username, password) ← spelled.cutFirst? (.char ':')
  if spelled.isAscii then some { username, password } else none

end Credentials

namespace Identity

/-- What the header says: its scheme ends at the first space, and the credentials follow. -/
def ofHeader (header : Text) : Identity :=
  let (scheme, encoded) := (header.cutFirst? (.char ' ')).getD (header, [])
  if scheme.asciiLowercase = Text.ofString "basic" then
    match (Base64.decode? encoded).bind Credentials.ofBytes? with
    | some credentials => .stated credentials
    | none => .unreadable
  else .unstated

/-- What a request says. -/
def ofRequest (request : Request) : Identity :=
  match request.header? "authorization" with
  | some header => ofHeader header
  | none => .unstated

end Identity

end ApiDoc.Server
