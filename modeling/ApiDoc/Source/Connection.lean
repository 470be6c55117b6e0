/-
This file defines connections to a service: where its two environments are and who asks. Addresses
below the service start at the base; the description of the service lies at the root, which is the
base without its segment for services.
-/
import ApiDoc.Validation.Field
import ApiDoc.Text.Search

namespace ApiDoc

/-- The environment of a service that a run asks. -/
inductive Environment where
  | production
  | development
  deriving DecidableEq, Repr

/-- The development environment if asked for, else production. -/
def Environment.ofFlag (development : Bool) : Environment :=
  if development then .development else .production

/-- A connection to a service. -/
structure Connection where
  productionUrl : Text
  developmentUrl : Text
  username : Text := []
  apiKey : Text := []
  timeoutSeconds : Int := 60
  deriving DecidableEq, Repr

namespace Connection

/-- The address of an environment as it was given. -/
def url (connection : Connection) : Environment → Text
  | .production => connection.productionUrl
  | .development => connection.developmentUrl

/-- The address that requests to an environment start with. -/
def baseUrl (connection : Connection) (environment : Environment) : Text :=
  (connection.url environment).dropTrailing (.char '/')

/-- The segment that services lie under. -/
def servicesSegment : Text := "/services"

/-- The address without its segments for services. -/
def rootUrl (connection : Connection) (environment : Environment) : Text :=
  (connection.baseUrl environment).replacing servicesSegment []

/-- A server of a document. -/
def server (url description : Text) : Dict Json :=
  [("url", .string url), ("description", .string description)]

/-- The servers that a document of the service names. -/
def servers (connection : Connection) : List (Dict Json) :=
  [server connection.developmentUrl "Development", server connection.productionUrl "Production"]

/-- The connection that members describe; unknown members are ignored. -/
def ofMembers (members : Dict Json) : Validated Connection :=
  Connection.mk
    <$> (Field.named "production_url").require members Lenient.string
    <*> (Field.named "development_url").require members Lenient.string
    <*> (Field.named "username").read members Lenient.string []
    <*> (Field.named "api_key").read members Lenient.string []
    <*> (Field.named "timeout_seconds").read members Lenient.integer 60

end Connection

end ApiDoc
