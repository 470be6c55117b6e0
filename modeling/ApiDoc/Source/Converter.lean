/-
This file asks the service that converts the description of a service into a document. It learns
who asks only if its own address says so, and a description that cannot be written down is never
sent.
-/
import ApiDoc.Json.Printer
import ApiDoc.Settings.Basic
import ApiDoc.Source.Exchange
import ApiDoc.Source.Limits

namespace ApiDoc

/-- A service that converts descriptions: its address, how it is reached, and the limits to what is
exchanged with it. -/
structure Converter (σ : Type) where
  url : Text
  remote : Http.Remote σ
  limits : Limits := {}

namespace Converter

variable {σ : Type}

/-- The bytes that a description is sent as; where there is none, nothing is sent. -/
def encode (limits : Limits) (description : Json) : Except Failure (Option Bytes) :=
  if description.isNull then .ok none
  else if !limits.sends description then .error .tooDeep
  else if description.isFinite then match Utf8.encode? (description.write .dense) with
    | some bytes => .ok (some bytes)
    | none => .error .unencodable
  else .error .infiniteNumber

/-- What a description is converted to. -/
def convert (converter : Converter σ) (description : Json) : Attempt (Http.Session σ) Json := do
  let body? ← Attempt.ofExcept (encode converter.limits description)
  let answer ← Http.ask converter.remote
    { method := .post
      url := converter.url
      accept := "application/json"
      authorization := Http.urlAuthorization? converter.url
      contentType := body?.map fun _ => "application/json"
      body := body?.getD [] }
  let converted ← Attempt.ofExcept (answer.wholeBody converter.url converter.url)
  match Json.readBody converted converter.limits.converted with
  | .ok document => return document
  | .error defect => throw (.ofBody .conversion defect)

end Converter

/-- The converter at an address, or at the one of the settings if that is empty. -/
def Settings.converter {σ : Type} (settings : Settings) (url : Text) (remote : Http.Remote σ)
    (limits : Limits := {}) : Converter σ :=
  { url := if url.isEmpty then settings.converterUrl else url, remote, limits }

end ApiDoc
