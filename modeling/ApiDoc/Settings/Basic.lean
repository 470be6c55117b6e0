/-
This file defines the settings. A setting is taken from the values given by name, else from the
environment, else from a file of variables, else it has its default. Variables are found without
regard to case.
-/
import ApiDoc.Settings.EnvFile
import ApiDoc.Source.Connection
import ApiDoc.Text.Lowercase

namespace ApiDoc

/-- The settings of the program. -/
structure Settings where
  apiUrl : Text := []
  apiUser : Text := []
  apiKey : Text := []
  timeoutSeconds : Int := 60
  converterUrl : Text := "https://converter.swagger.io/api/convert"
  corsOrigins : Text := "http://localhost:5173"
  logLevel : Text := "INFO"
  deriving DecidableEq, Repr

namespace Settings

/-- The value of the last variable whose name is the same without regard to case. -/
def findVariable? (known : Dict Text) (name : Text) : Option Text :=
  (known.reverse.find? fun (key, _) => key.lowercase = name.lowercase).map (·.2)

/-- Where settings are looked for. -/
structure Sources where
  values : Dict Json := []
  environment : Dict Text := []
  file : Dict Text := []
  deriving Repr

/-- The value of a setting before it is read. -/
def Sources.find? (sources : Sources) (name : Text) : Option Json :=
  (sources.values.get? name).or <|
    ((findVariable? sources.environment name).or (findVariable? sources.file name)).map .string

/-- A setting as its kind reads it, or its default. -/
def Sources.read {α : Type} (sources : Sources) (name : Text) (kind : Json → Validated α)
    (default : α) : Validated α :=
  match sources.find? name with
  | none => .valid default
  | some value => (kind value).within (.key name)

/-- The settings that the sources give. -/
def ofSources (sources : Sources) : Validated Settings :=
  let default : Settings := {}
  Settings.mk
    <$> sources.read "STARREZ_API_URL" Lenient.string default.apiUrl
    <*> sources.read "STARREZ_API_USER" Lenient.string default.apiUser
    <*> sources.read "STARREZ_API_KEY" Lenient.string default.apiKey
    <*> sources.read "STARREZ_TIMEOUT_SECONDS" Lenient.integer default.timeoutSeconds
    <*> sources.read "SWAGGER_CONVERTER_URL" Lenient.string default.converterUrl
    <*> sources.read "CORS_ORIGINS" Lenient.string default.corsOrigins
    <*> sources.read "LOG_LEVEL" Lenient.string default.logLevel

/-- The connection that the settings describe, for other credentials if they are given. -/
def connection (settings : Settings) (username apiKey : Option Text) : Connection :=
  let root := settings.apiUrl.dropTrailing (.char '/')
  { productionUrl := Text.ofPieces [root, "/services"]
    developmentUrl := Text.ofPieces [root, "Dev/services"]
    username := username.getD settings.apiUser
    apiKey := apiKey.getD settings.apiKey
    timeoutSeconds := settings.timeoutSeconds }

end Settings

end ApiDoc
