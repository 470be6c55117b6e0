/-
This file composes the documentation: a document takes the schemas of all tables as its own, in
ascending order of their names, and is written with one member a line.
-/
import ApiDoc.Document.Writing
import ApiDoc.Json.Printer

namespace ApiDoc.Document

/-- The document with the schemas of the tables in the place of its own. -/
def withSchemas (document : Document) (schemas : Dict Json) : Document :=
  { document with components := { document.components with schemas := schemas.sorted } }

/-- The composed document as a JSON value. -/
def compose (document : Document) (schemas : Dict Json) : Json :=
  (document.withSchemas schemas).toJson

/-- The text of a document. -/
def serialize (document : Json) : Text := document.write .indented

end ApiDoc.Document
