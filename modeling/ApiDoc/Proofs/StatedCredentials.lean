/-
This file proves that the credentials which a request states take the place of the configured ones:
servers that differ in the configured ones alone cannot be told apart, and what such a request makes a
server ask proves to the service that the credentials of the request ask, and nothing to the converter.
-/
import ApiDoc.Proofs.BasicHeader
import ApiDoc.Proofs.RequestDiscipline
import ApiDoc.Server.Basic

namespace ApiDoc

open Server
open Http (Session)

/-! ### Whose requests are sent -/

/-- The request of an inquiry is on behalf of credentials: to the service it proves them, and whoever
reads it there finds them; to the converter it proves no more than its own address says. -/
def Inquiry.IsOnBehalf (credentials : Credentials) (converterUrl : Text) (request : Http.Request) :
    Inquiry → Prop
  | .conversion _ =>
    request.authorization = Http.urlAuthorization? converterUrl ∧
      ((Http.Url.ofText converterUrl).userinfo = [] → request.authorization = none)
  | .description | .tableList | .columnList _ | .enumeration _ =>
    request.authorization =
        some (Http.basicAuthorization credentials.username credentials.password) ∧
      request.authorization.map Identity.ofHeader = some (.stated credentials)

theorem Inquiry.authorization_conversion (addresses : Addresses) (body? : Option Bytes) :
    ((Inquiry.conversion body?).request addresses).authorization =
      Http.urlAuthorization? addresses.converter := rfl

theorem Http.urlAuthorization?_of_userinfo_nil {url : Text} (silent : (Url.ofText url).userinfo = []) :
    urlAuthorization? url = none := by
  unfold urlAuthorization?
  rw [silent]
  rfl

/-- A request is sent with the header that it was made with. -/
theorem Http.Request.authorization_sent? {request sent : Http.Request}
    (sends : request.sent? = some sent) : sent.authorization = request.authorization := by
  obtain ⟨_, rfl⟩ := Http.Request.sent?_eq_some_iff.mp sends
  rfl

namespace Server

variable {σ : Type}

/-- The service as a server asks it with credentials. -/
def source (server : Server σ) (credentials : Credentials) (environment : Environment) : Source σ :=
  { connection := server.connection (some credentials), environment, remote := server.remote
    limits := server.limits }

/-- What a server exchanges from one session to another, and all that it sends, is on behalf of
credentials. -/
def AsksOnBehalf (server : Server σ) (credentials : Credentials) (before after : Session σ) : Prop :=
  ∃ (environment : Environment) (exchanges : Exchanges),
    let source := server.source credentials environment
    let addresses := Addresses.of source server.converter
    Exchanges.Lead source server.converter exchanges before after ∧
    after.sent = before.sent ++ Exchanges.requests addresses exchanges ∧
    ∀ exchange ∈ exchanges, ∀ sent, (exchange.inquiry.request addresses).sent? = some sent →
      exchange.inquiry.IsOnBehalf credentials server.settings.converterUrl sent

theorem converter_addresses (server : Server σ) (source : Source σ) :
    (Addresses.of source server.converter).converter = server.settings.converterUrl := rfl

variable {server : Server σ} {request : Request} {credentials : Credentials}

/-- What is exchanged with the source of credentials is on behalf of them. -/
theorem asksOnBehalf_of_lead (spellable : credentials.IsSpellable) {environment : Environment}
    {exchanges : Exchanges} {before after : Session σ}
    (leads : Exchanges.Lead (server.source credentials environment) server.converter exchanges
      before after) :
    server.AsksOnBehalf credentials before after := by
  refine ⟨environment, exchanges, leads, leads.sent, ?_⟩
  rintro ⟨inquiry, reply⟩ - sent sends
  have kept := Http.Request.authorization_sent? sends
  have read : Identity.ofHeader
      (Http.basicAuthorization credentials.username credentials.password) = .stated credentials :=
    Identity.ofHeader_basicAuthorization spellable
  have proves (authorized : sent.authorization =
      some (Http.basicAuthorization credentials.username credentials.password)) :
      sent.authorization =
          some (Http.basicAuthorization credentials.username credentials.password) ∧
        sent.authorization.map Identity.ofHeader = some (.stated credentials) :=
    ⟨authorized, by rw [authorized, Option.map_some, read]⟩
  -- The converter aside, every inquiry proves who asks in the same way.
  cases inquiry with
  | conversion body? =>
    rw [Inquiry.authorization_conversion, converter_addresses] at kept
    exact ⟨kept, fun silent => kept.trans (Http.urlAuthorization?_of_userinfo_nil silent)⟩
  | description => exact proves kept
  | tableList => exact proves kept
  | columnList table => exact proves kept
  | enumeration name => exact proves kept

/-- Where nothing is exchanged, there is nothing to prove. -/
theorem asksOnBehalf_refl (spellable : credentials.IsSpellable) (session : Session σ) :
    server.AsksOnBehalf credentials session session := by
  have leads : Exchanges.Lead (server.source credentials .production) server.converter [] session
      session := rfl
  exact asksOnBehalf_of_lead spellable leads

/-- Compiling asks on behalf of the credentials that it is given if the work does. -/
theorem asksOnBehalf_compile (spellable : credentials.IsSpellable)
    {work : Source σ → Attempt (Session σ) Text}
    (asks : ∀ environment session, server.AsksOnBehalf credentials session
      ((work (server.source credentials environment)).perform session).2) (session : Session σ) :
    server.AsksOnBehalf credentials session
      (server.compile request (some credentials) work session).2 := by
  unfold compile
  cases request.environment with
  | error word => exact asksOnBehalf_refl spellable session
  | ok environment => exact asks environment session

/-- What a request for the documentation or for the models makes a server ask is on behalf of the
credentials that the request states. -/
theorem asksOnBehalf_serve (stated : Identity.ofRequest request = .stated credentials)
    {endpoint : Endpoint} (compiled : endpoint ≠ .health) (session : Session σ) :
    server.AsksOnBehalf credentials session (server.serve request endpoint session).2 := by
  have spellable := Identity.isSpellable_of_ofRequest stated
  cases endpoint with
  | documentation =>
    unfold serve compileFor
    rw [stated]
    refine asksOnBehalf_compile spellable (fun environment before => ?_) session
    obtain ⟨_, _, leads⟩ :=
      exists_course (server.source credentials environment) server.converter server.room before
    rw [← Source.perform_documentation_snd] at leads
    exact asksOnBehalf_of_lead spellable leads
  | models =>
    unfold serve compileFor
    rw [stated]
    refine asksOnBehalf_compile spellable (fun environment before => ?_) session
    obtain ⟨_, _, leads, _⟩ :=
      exists_models_survey (server.source credentials environment) server.converter before
    exact asksOnBehalf_of_lead spellable leads
  | health => exact absurd rfl compiled

/-- So is what answering such a request does, whatever becomes of it. -/
theorem asksOnBehalf_respond (stated : Identity.ofRequest request = .stated credentials)
    (compiled : request.endpoint? ≠ some .health) (session : Session σ) :
    server.AsksOnBehalf credentials session (server.respond request session).2 := by
  have spellable := Identity.isSpellable_of_ofRequest stated
  have idle : server.AsksOnBehalf credentials session session :=
    asksOnBehalf_refl spellable session
  unfold respond
  cases server.cors.preflight? request with
  | some response => exact idle
  | none =>
    dsimp only
    rw [Attempt.run_map]
    unfold route
    cases reached : request.endpoint? with
    | none => exact idle
    | some endpoint =>
      dsimp only
      split
      · have other : endpoint ≠ .health := fun same => compiled (same ▸ reached)
        exact asksOnBehalf_serve stated other session
      · exact idle

/-! ### Configured credentials -/

/-- The server with other credentials configured. -/
def withConfigured (server : Server σ) (apiUser apiKey : Text) : Server σ :=
  { server with settings := { server.settings with apiUser, apiKey } }

theorem serve_withConfigured (stated : Identity.ofRequest request = .stated credentials)
    (apiUser apiKey : Text) (endpoint : Endpoint) :
    (server.withConfigured apiUser apiKey).serve request endpoint = server.serve request endpoint := by
  cases endpoint with
  | documentation =>
    unfold serve compileFor
    rw [stated]
    rfl
  | models =>
    unfold serve compileFor
    rw [stated]
    rfl
  | health => rfl

theorem respond_withConfigured (stated : Identity.ofRequest request = .stated credentials)
    (apiUser apiKey : Text) :
    (server.withConfigured apiUser apiKey).respond request = server.respond request := by
  unfold respond route
  simp only [serve_withConfigured stated]
  rfl

/-- The credentials that a request states replace the configured ones. Whatever the other side replies,
the response and what is sent for it do not depend on the configured name and password; and unless the
request asks how the services are, the server asks on behalf of the stated credentials alone. -/
theorem respond_stated (stated : Identity.ofRequest request = .stated credentials)
    (server : Server σ) (session : Session σ) :
    (∀ apiUser apiKey : Text,
      (server.withConfigured apiUser apiKey).respond request session =
        server.respond request session) ∧
    (request.endpoint? ≠ some .health →
      server.AsksOnBehalf credentials session (server.respond request session).2) := by
  constructor
  · intro apiUser apiKey
    rw [respond_withConfigured stated]
  · intro compiled
    exact asksOnBehalf_respond stated compiled session

/-- A request for the models by someone without a name and without a password. -/
def nameless : Request :=
  { target := "/api/models", headers := [("authorization", "Basic Og==")] }

/-- A server of a service that has no tables. -/
def bareServer : Server Unit where
  settings := { apiUrl := "https://host", apiUser := "guest", apiKey := "key" }
  cors := { origins := [] }
  remote := fun _ _ => (.ok (.success "<list/>"), ())

theorem respond_stated_nameless :
    Identity.ofRequest nameless = .stated ⟨[], []⟩ ∧
      nameless.endpoint? ≠ some .health ∧
      (bareServer.respond nameless { remote := () }).2.sent.map (·.authorization) =
        [some (Text.ofString "Basic Og==")] ∧
      (bareServer.withConfigured "root" "secret").respond nameless { remote := () } =
        bareServer.respond nameless { remote := () } ∧
      bareServer.AsksOnBehalf ⟨[], []⟩ { remote := () }
        (bareServer.respond nameless { remote := () }).2 := by
  have stated : Identity.ofRequest nameless = .stated ⟨[], []⟩ := by decide +kernel
  have compiled : nameless.endpoint? ≠ some .health := by decide +kernel
  have replaced := respond_stated stated bareServer { remote := () }
  exact ⟨stated, compiled, by decide +kernel, replaced.1 "root" "secret", replaced.2 compiled⟩

end Server

end ApiDoc
