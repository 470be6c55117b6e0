/-
This file compiles the documentation of a service: its description is converted to a document, the
document is corrected, and the schemas of all tables are added to it.
-/
import ApiDoc.Compilation.Room
import ApiDoc.Compilation.Tables
import ApiDoc.Document.Reading
import ApiDoc.Source.Converter

namespace ApiDoc

/-- The document that the outcome of a conversion is. -/
def Document.ofConverted (converted : Json) : Except Failure Document :=
  match Document.ofJson converted with
  | .valid document => .ok document
  | .invalid issues => .error (.malformed (.document issues))

namespace Source

variable {σ : Type}

/-- The corrected document that the outcome of a conversion is. -/
def corrected (source : Source σ) (room : Room) (converted : Json) : Except Failure Document := do
  let document ← Document.ofConverted converted
  document.correctWithin room source.connection.servers

/-- The documentation before it is written down. -/
def composition (source : Source σ) (converter : Converter σ) (room : Room := {}) :
    Attempt (Http.Session σ) Json := do
  let description ← source.description
  let converted ← converter.convert description
  let document ← Attempt.ofExcept (source.corrected room converted)
  let schemas ← Cached.fresh source.schemas
  return document.compose schemas

/-- The text of the documentation. Where nothing else is said there is room for all of it. -/
def documentation (source : Source σ) (converter : Converter σ) (room : Room := {}) :
    Attempt (Http.Session σ) Text := do
  let composed ← source.composition converter room
  Attempt.ofExcept (Document.serializeWithin room composed)

end Source

end ApiDoc
