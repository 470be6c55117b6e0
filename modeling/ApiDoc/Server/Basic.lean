/-
This file defines the server. It compiles the documentation or the models for whoever asks, with the
credentials of the request in place of the configured ones, and reports on the services it needs.
-/
import ApiDoc.Compilation.Documentation
import ApiDoc.Compilation.Models
import ApiDoc.Server.Cors
import ApiDoc.Server.Credentials
import ApiDoc.Server.Health
import ApiDoc.Validation.Lenient

namespace ApiDoc

open Server

/-- A server: its settings, the sites that may use it, how it reaches other services, and the limits
that are set to it. -/
structure Server (σ : Type) where
  settings : Settings
  cors : Cors
  remote : Http.Remote σ
  limits : Limits := {}
  room : Room := {}

namespace Server

open Http (Session)

/-! ### Endpoints -/

/-- What the server has to offer. -/
inductive Endpoint where
  | documentation
  | models
  | health
  deriving DecidableEq, Repr

/-- The paths of the endpoints. -/
def Endpoint.paths : Dict Endpoint :=
  [("/api/documentation", .documentation), ("/api/models", .models), ("/api/health", .health)]

/-- The endpoint of a request; slashes at the end of its path do not count. -/
def Request.endpoint? (request : Request) : Option Endpoint :=
  request.path?.bind fun path =>
    let path := if path.head? = some (.char '/') then path else .char '/' :: path
    Endpoint.paths.get? (path.dropTrailing (.char '/'))

/-! ### Compilation -/

/-- The environment that a request asks for, or the header that does not tell. -/
def Request.environment (request : Request) : Except Text Environment :=
  match request.header? "dev" with
  | none => .ok .production
  | some word => match Lenient.booleanOfWord? word with
    | some development => .ok (.ofFlag development)
    | none => .error word

/-- The response to a header for the environment that does not tell which. -/
def Response.unprocessable (word : Text) : Response :=
  refusal 422 <| .array [.object
    [("type", .string IssueKind.unreadableBoolean.code),
      ("loc", .array [.string "header", .string "dev"]),
      ("msg", .string "Input should be a valid boolean, unable to interpret input"),
      ("input", .string word)]]

/-- The response that brings what was compiled, or says why it was not. -/
def Response.ofCompiled (outcome : Except Failure Text) : Response :=
  match outcome with
  | .ok text => if text.toChars?.isSome then json 200 text else internalError
  | .error failure => match failure with
    | .unavailable .. =>
      refusal 502 (.string (Text.ofPieces ["StarRez upstream unavailable: ", failure.message]))
    | .malformed _ =>
      refusal 502 (.string (Text.ofPieces ["Malformed StarRez metadata: ", failure.message]))
    | _ => internalError

variable {σ : Type}

/-- The connection for whoever asks. -/
def connection (server : Server σ) : Option Credentials → Connection
  | none => server.settings.connection none none
  | some credentials => server.settings.connection credentials.username credentials.password

/-- The converter of the server. -/
def converter (server : Server σ) : Converter σ :=
  server.settings.converter [] server.remote server.limits

/-- The response to a request for something that is compiled. -/
def compile (server : Server σ) (request : Request) (credentials : Option Credentials)
    (work : Source σ → Attempt (Session σ) Text) : StateM (Session σ) Response :=
  match request.environment with
  | .error word => return .unprocessable word
  | .ok environment => do
    let source : Source σ :=
      { connection := server.connection credentials, environment, remote := server.remote
        limits := server.limits }
    return .ofCompiled (← (work source).run)

/-- The response to a request for something that is compiled, once it is clear who asks. -/
def compileFor (server : Server σ) (request : Request)
    (work : Source σ → Attempt (Session σ) Text) : StateM (Session σ) Response :=
  match Identity.ofRequest request with
  | .unreadable => return .notAuthenticated
  | .stated credentials => server.compile request (some credentials) work
  | .unstated => server.compile request none work

/-! ### Responses -/

/-- The response of an endpoint. -/
def serve (server : Server σ) (request : Request) : Endpoint → StateM (Session σ) Response
  | .documentation => server.compileFor request (·.documentation server.converter server.room)
  | .models => server.compileFor request (·.models)
  | .health => do
    let report ← Health.check server.remote server.settings
    return .json 200 (report.write .dense)

/-- The response to a request that reaches the endpoints. -/
def route (server : Server σ) (request : Request) : StateM (Session σ) Response :=
  match request.endpoint? with
  | none => return .notFound
  | some endpoint =>
    if request.hasMethod "get" then server.serve request endpoint else return .methodNotAllowed

/-- A response as it arrives: none to a request for headers has a body, and one to a failure that
nothing handles is not marked for any page. -/
def finish (server : Server σ) (request : Request) (response : Response) : Response :=
  let marked := if response = .internalError then response else server.cors.mark request response
  if request.hasMethod "head" then { marked with body := [] } else marked

/-- The response to a request. -/
def respond (server : Server σ) (request : Request) : StateM (Session σ) Response :=
  match server.cors.preflight? request with
  | some response => return response
  | none => do return server.finish request (← server.route request)

end Server

end ApiDoc
