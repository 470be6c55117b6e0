/-
This file defines what is sent to another service and what comes back: an answer, whose body arrives
in chunks and may be cut off, or a disruption in its place.
-/
import ApiDoc.Http.Status
import ApiDoc.Text.Utf8

namespace ApiDoc.Http

/-- What a request asks for. -/
inductive Method where
  | get
  | post
  deriving DecidableEq, Repr

/-- The name of a method. -/
def Method.name : Method → Text
  | .get => "GET"
  | .post => "POST"

/-- A request, to an address as it is sent. -/
structure Request where
  method : Method
  url : Text
  accept : Text
  authorization : Option Text := none
  contentType : Option Text := none
  body : Bytes := []
  deriving DecidableEq, Repr

/-- What comes in the way of an answer. Only the first kind means that the other side is not there; the
last means that nobody was asked. -/
inductive Disruption where
  | transport (message : Text)
  | undecodable (message : Text)
  | tooManyRedirects (message : Text)
  | invalidAddress (message : Text)
  deriving DecidableEq, Repr

/-- The message of a disruption. -/
def Disruption.message : Disruption → Text
  | .transport message | .undecodable message | .tooManyRedirects message
  | .invalidAddress message => message

/-- An answer: its status, another location if it tells one, the chunks of its body, and what cuts the
body off, if anything does. -/
structure Answer where
  status : Status
  location : Option Text := none
  chunks : List Bytes
  interruption : Option Disruption := none
  deriving DecidableEq, Repr

/-- The body of an answer that has arrived. -/
def Answer.body (answer : Answer) : Bytes := answer.chunks.flatten

/-- What comes back of a request. -/
abbrev Reply := Except Disruption Answer

end ApiDoc.Http
