/-
This file asks the service whose tables are described. Lists of tables and of columns are markup,
enumerations are queried, and the description of the service itself is JSON. Every request proves who
asks.
-/
import ApiDoc.Column.Attribute
import ApiDoc.Enumeration.Rows
import ApiDoc.Source.Connection
import ApiDoc.Source.Exchange
import ApiDoc.Source.Elements
import ApiDoc.Source.Limits

namespace ApiDoc

/-- An environment of a service, how it is reached, and the limits to what is read of it. -/
structure Source (σ : Type) where
  connection : Connection
  environment : Environment
  remote : Http.Remote σ
  limits : Limits := {}

namespace Source

variable {σ : Type}

/-- The address that requests start with. -/
def baseUrl (source : Source σ) : Text := source.connection.baseUrl source.environment

/-- The header that proves who asks. -/
def authorization (source : Source σ) : Text :=
  Http.basicAuthorization source.connection.username source.connection.apiKey

/-! ### Tables and columns -/

/-- The elements of a document of the service. -/
def elements (source : Source σ) (url : Text) : StateM (Http.Session σ) (Feed Xml.Element) := do
  let request : Http.Request :=
    { method := .get, url, accept := "application/xml", authorization := source.authorization }
  match ← (Http.ask source.remote request).run with
  | .error failure => return .failed failure
  | .ok answer => return Xml.Element.ofAnswer url answer

/-- The address of the list of tables. -/
def tableListUrl (source : Source σ) : Text :=
  Text.ofPieces [source.baseUrl, "/databaseinfo/tablelist.xml"]

/-- The address of the list of the columns of a table. -/
def columnListUrl (source : Source σ) (table : Text) : Text :=
  Text.ofPieces [source.baseUrl, "/databaseinfo/columnlist/", table, ".xml"]

/-- The names of the tables. -/
def tableNames (source : Source σ) : StateM (Http.Session σ) (Feed Text) := do
  return (← source.elements source.tableListUrl).map (·.name)

/-- The columns of a table. -/
def columns (source : Source σ) (table : Text) : StateM (Http.Session σ) (Feed Column) := do
  let elements ← source.elements (source.columnListUrl table)
  return elements.map fun element => { name := element.name, attributes := element.attributes }

/-! ### Enumerations -/

/-- The address that queries go to. -/
def queryUrl (source : Source σ) : Text := Text.ofPieces [source.baseUrl, "/query"]

/-- The query for the rows of an enumeration. -/
def enumerationQuery (name : Text) : Text :=
  Text.ofPieces ["SELECT ", name, " AS enumId, Description AS description FROM ", name]

/-- The enumeration of a name. -/
def queryEnumeration (source : Source σ) : EnumSource (Http.Session σ) := fun name => do
  let url := source.queryUrl
  let answer ← Http.ask source.remote
    { method := .post
      url
      accept := "application/json"
      authorization := source.authorization
      contentType := some "text/plain"
      body := Utf8.encode (enumerationQuery name) }
  let body ← Attempt.ofExcept (answer.wholeBody url (Http.sentUrl url))
  match Json.readBody body source.limits.rows with
  | .ok rows => Attempt.ofExcept (Enumeration.ofJson name rows)
  | .error defect => throw (.ofBody (fun defect => .rows name (.body defect)) defect)

/-! ### The description of the service -/

/-- The address of the description. -/
def descriptionUrl (source : Source σ) : Text :=
  Text.ofPieces [source.connection.rootUrl source.environment, "/swagger"]

/-- The description of the service. -/
def description (source : Source σ) : Attempt (Http.Session σ) Json := do
  let url := source.descriptionUrl
  let answer ← Http.ask source.remote
    { method := .get, url, accept := "application/json", authorization := source.authorization }
  let body ← Attempt.ofExcept (answer.wholeBody url (Http.sentUrl url))
  match Json.readBody body source.limits.description with
  | .ok description => return description
  | .error defect => throw (.ofBody (.swagger url) defect)

end Source

end ApiDoc
