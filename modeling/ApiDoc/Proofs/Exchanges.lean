/-
This file defines what a run exchanges with the service and the converter: inquiries, each with the
reply to it. An inquiry is a request that depends on nothing but the address that was selected, who
asks and where the converter is, and what a reply means depends on the inquiry and the reply alone.
-/
import ApiDoc.Compilation.Documentation
import ApiDoc.Compilation.Models
import ApiDoc.Proofs.Attempts

namespace ApiDoc

/-! ### Inquiries -/

/-- What a run asks for: the description of the service, its conversion, the list of tables, the list
of the columns of a table, and the rows of an enumeration. -/
inductive Inquiry where
  | description
  | conversion (body? : Option Bytes)
  | tableList
  | columnList (table : Text)
  | enumeration (name : Text)
  deriving DecidableEq, Repr

/-- Where inquiries go: the address that was selected among those of the service, the header that
proves who asks, and the address of the converter. -/
structure Addresses where
  selected : Text
  authorization : Text
  converter : Text

namespace Addresses

/-- The address that requests start with. -/
def base (addresses : Addresses) : Text := addresses.selected.dropTrailing (.char '/')

/-- The base without its segments for services. -/
def root (addresses : Addresses) : Text := addresses.base.replacing "/services" []

/-- The address of the other side that a source and a converter are asked at. -/
def of {σ : Type} (source : Source σ) (converter : Converter σ) : Addresses where
  selected := source.connection.url source.environment
  authorization := source.authorization
  converter := converter.url

end Addresses

/-- The request of an inquiry. -/
def Inquiry.request (addresses : Addresses) : Inquiry → Http.Request
  | .description =>
    { method := .get
      url := Text.ofPieces [addresses.root, "/swagger"]
      accept := "application/json"
      authorization := addresses.authorization }
  | .conversion body? =>
    { method := .post
      url := addresses.converter
      accept := "application/json"
      authorization := Http.urlAuthorization? addresses.converter
      contentType := body?.map fun _ => "application/json"
      body := body?.getD [] }
  | .tableList =>
    { method := .get
      url := Text.ofPieces [addresses.base, "/databaseinfo/tablelist.xml"]
      accept := "application/xml"
      authorization := addresses.authorization }
  | .columnList table =>
    { method := .get
      url := Text.ofPieces [addresses.base, "/databaseinfo/columnlist/", table, ".xml"]
      accept := "application/xml"
      authorization := addresses.authorization }
  | .enumeration name =>
    { method := .post
      url := Text.ofPieces [addresses.base, "/query"]
      accept := "application/json"
      authorization := addresses.authorization
      contentType := some "text/plain"
      body := Utf8.encode (Source.enumerationQuery name) }

/-- A request as it is sent; nothing is sent to what is no address, or none of the web. -/
def Http.Request.sent? (request : Http.Request) : Option Http.Request := request.prepare.toOption

/-- Nothing speaks against the text of an address, and it is one of the web. -/
def Http.Url.IsSendable (text : Text) : Prop :=
  Http.Url.objection? text = none ∧ (Http.Url.ofText text).isHttp = true

instance (text : Text) : Decidable (Http.Url.IsSendable text) :=
  inferInstanceAs (Decidable (_ ∧ _))

theorem Http.Request.prepare_eq_ok_iff {request prepared : Http.Request} :
    request.prepare = .ok prepared ↔ Http.Url.IsSendable request.url ∧
      prepared = { request with url := (Http.Url.ofText request.url).toText } := by
  unfold Http.Request.prepare Http.Url.IsSendable
  cases Http.Url.objection? request.url with
  | some message => simp
  | none => cases sendable : (Http.Url.ofText request.url).isHttp <;> simp [sendable, eq_comm]

theorem Http.Request.sent?_eq_some_iff {request sent : Http.Request} :
    request.sent? = some sent ↔ Http.Url.IsSendable request.url ∧
      sent = { request with url := (Http.Url.ofText request.url).toText } := by
  rw [← Http.Request.prepare_eq_ok_iff, Http.Request.sent?]
  cases request.prepare <;> simp [Except.toOption]

/-! ### Exchanges -/

/-- An inquiry and the reply to it. -/
structure Exchange where
  inquiry : Inquiry
  reply : Http.Reply

/-- The exchanges of a run, in order. -/
abbrev Exchanges := List Exchange

namespace Exchanges

variable {σ : Type} (source : Source σ) (converter : Converter σ)

/-- Who is asked. -/
def remote : Inquiry → Http.Remote σ
  | .conversion _ => converter.remote
  | .description | .tableList | .columnList _ | .enumeration _ => source.remote

/-- The reply to an inquiry and what it leaves behind. -/
def send (inquiry : Inquiry) (session : Http.Session σ) : Http.Reply × Http.Session σ :=
  Http.Session.send (remote source converter inquiry)
    (inquiry.request (Addresses.of source converter)) session

/-- The exchanges lead from one session to another: the inquiries are made one after the other, and
each gets its reply. -/
def Lead : Exchanges → Http.Session σ → Http.Session σ → Prop
  | [], before, after => after = before
  | exchange :: rest, before, after =>
    (send source converter exchange.inquiry before).1 = exchange.reply ∧
      Lead rest (send source converter exchange.inquiry before).2 after

/-- The requests of exchanges as they are sent. -/
def requests (addresses : Addresses) (exchanges : Exchanges) : List Http.Request :=
  exchanges.filterMap fun exchange => (exchange.inquiry.request addresses).sent?

/-- One inquiry with the reply that it gets. -/
theorem lead_send (inquiry : Inquiry) (session : Http.Session σ) :
    Lead source converter [⟨inquiry, (send source converter inquiry session).1⟩] session
      (send source converter inquiry session).2 :=
  ⟨rfl, rfl⟩

variable {source converter}

theorem Lead.append {first second : Exchanges} {before between after : Http.Session σ}
    (leadsFirst : Lead source converter first before between)
    (leadsSecond : Lead source converter second between after) :
    Lead source converter (first ++ second) before after := by
  induction first generalizing before with
  | nil =>
    obtain rfl : between = before := leadsFirst
    exact leadsSecond
  | cons exchange rest inductionHypothesis =>
    obtain ⟨replied, leadsRest⟩ := leadsFirst
    exact ⟨replied, inductionHypothesis leadsRest⟩

/-- A session remembers a request if it is sent. -/
theorem sent_send (inquiry : Inquiry) (session : Http.Session σ) :
    (send source converter inquiry session).2.sent =
      session.sent ++ (inquiry.request (Addresses.of source converter)).sent?.toList := by
  unfold send Http.Session.send Http.Request.sent?
  generalize inquiry.request (Addresses.of source converter) = request
  cases request.prepare with
  | ok prepared => rfl
  | error disruption => exact (List.append_nil _).symm

/-- What was sent in the end is what was sent before and the requests of the exchanges, in order. -/
theorem Lead.sent {exchanges : Exchanges} {before after : Http.Session σ}
    (leads : Lead source converter exchanges before after) :
    after.sent = before.sent ++ requests (Addresses.of source converter) exchanges := by
  induction exchanges generalizing before with
  | nil =>
    obtain rfl : after = before := leads
    exact (List.append_nil _).symm
  | cons exchange rest inductionHypothesis =>
    obtain ⟨_, leadsRest⟩ := leads
    rw [inductionHypothesis leadsRest, sent_send, List.append_assoc]
    congr 1
    unfold requests
    rw [List.filterMap_cons]
    cases (exchange.inquiry.request (Addresses.of source converter)).sent? <;> rfl

end Exchanges

/-! ### What replies mean -/

/-- The answer that brings a text in one chunk. -/
def Http.Answer.success (body : String) : Http.Answer :=
  { status := 200, chunks := [Utf8.encode (Text.ofString body)] }

/-- The failure of an outcome, if it is one. -/
def Failure.of? {α : Type} : Except Failure α → Option Failure
  | .ok _ => none
  | .error failure => some failure

@[simp] theorem Failure.of?_ok {α : Type} (value : α) : Failure.of? (.ok value) = none := rfl

@[simp] theorem Failure.of?_error {α : Type} (failure : Failure) :
    Failure.of? (.error failure : Except Failure α) = some failure := rfl

/-- The answer that a reply from an address is, if nothing came in its way. -/
def Http.Reply.answer (url : Text) : Http.Reply → Except Failure Http.Answer
  | .ok answer => .ok answer
  | .error disruption => .error (.ofDisruption url disruption)

/-- The JSON in the body of a reply, of which so many levels may be open at once. -/
def Http.Reply.json (reply : Http.Reply) (limit : Nat) (url shown : Text)
    (describe : Json.BodyDefect → Malformation) : Except Failure Json := do
  let answer ← reply.answer url
  let body ← answer.wholeBody url shown
  match Json.readBody body limit with
  | .ok value => return value
  | .error defect => throw (.ofBody describe defect)

namespace Source

variable {σ : Type} (source : Source σ)

/-- The description that a reply gives. -/
def descriptionIn (reply : Http.Reply) : Except Failure Json :=
  reply.json source.limits.description source.descriptionUrl
    (Http.sentUrl source.descriptionUrl) (.swagger source.descriptionUrl)

/-- The elements that a reply delivers. -/
def elementsIn (url : Text) (reply : Http.Reply) : Feed Xml.Element :=
  match reply.answer url with
  | .ok answer => Xml.Element.ofAnswer url answer
  | .error failure => .failed failure

/-- The names of tables that a reply delivers. -/
def tableNamesIn (reply : Http.Reply) : Feed Text :=
  (elementsIn source.tableListUrl reply).map (·.name)

/-- The columns of a table that a reply delivers. -/
def columnsIn (table : Text) (reply : Http.Reply) : Feed Column :=
  (elementsIn (source.columnListUrl table) reply).map fun element =>
    { name := element.name, attributes := element.attributes }

/-- The enumeration that a reply gives. -/
def enumerationIn (name : Text) (reply : Http.Reply) : Except Failure Enumeration := do
  let rows ← reply.json source.limits.rows source.queryUrl (Http.sentUrl source.queryUrl)
    fun defect => .rows name (.body defect)
  Enumeration.ofJson name rows

end Source

/-- The outcome of a conversion that a reply gives. -/
def Converter.convertedIn {σ : Type} (converter : Converter σ) (reply : Http.Reply) :
    Except Failure Json :=
  reply.json converter.limits.converted converter.url converter.url .conversion

/-! ### Asking -/

theorem Http.perform_ask {σ : Type} (remote : Http.Remote σ) (request : Http.Request)
    (session : Http.Session σ) :
    (Http.ask remote request).perform session =
      ((Http.Session.send remote request session).1.answer request.url,
        (Http.Session.send remote request session).2) := by
  unfold Http.ask
  rw [Attempt.perform_ofFunction]
  rcases Http.Session.send remote request session with ⟨reply, after⟩
  cases reply <;> rfl

/-- Asking for JSON goes on with what the reply means, from what sending leaves behind. -/
theorem Http.perform_ask_json {σ α : Type} (remote : Http.Remote σ) (request : Http.Request)
    (limit : Nat) (shown : Text) (describe : Json.BodyDefect → Malformation)
    (next : Json → Attempt (Session σ) α) (session : Session σ) :
    (do
      let answer ← Http.ask remote request
      let body ← Attempt.ofExcept (answer.wholeBody request.url shown)
      match Json.readBody body limit with
      | .ok value => next value
      | .error defect => throw (.ofBody describe defect) : Attempt (Session σ) α).perform session =
      match (Session.send remote request session).1.json limit request.url shown describe with
      | .ok value => (next value).perform (Session.send remote request session).2
      | .error failure => (.error failure, (Session.send remote request session).2) := by
  rw [Attempt.perform_bind, Http.perform_ask]
  rcases Session.send remote request session with ⟨reply, after⟩
  cases reply with
  | error disruption => rfl
  | ok answer =>
    show (Attempt.ofExcept (answer.wholeBody request.url shown) >>= _ :
      Attempt (Session σ) α).perform after =
        match (answer.wholeBody request.url shown).bind _ with
        | .ok value => (next value).perform after
        | .error failure => (.error failure, after)
    cases answer.wholeBody request.url shown with
    | error failure => rfl
    | ok body =>
      refine (Attempt.perform_bind_of_ok (Attempt.perform_ofExcept _ _) _).trans ?_
      simp only [Except.bind]
      cases Json.readBody body limit <;> rfl

namespace Exchanges

variable {σ : Type} (source : Source σ) (converter : Converter σ)

theorem perform_description (session : Http.Session σ) :
    source.description.perform session =
      (source.descriptionIn (send source converter .description session).1,
        (send source converter .description session).2) := by
  refine (Http.perform_ask_json source.remote
    (Inquiry.description.request (Addresses.of source converter)) source.limits.description
    (Http.sentUrl source.descriptionUrl) (.swagger source.descriptionUrl) pure session).trans ?_
  show _ = (source.descriptionIn (Http.Session.send source.remote _ session).1, _)
  unfold Source.descriptionIn
  split <;> rename_i meant <;> exact Prod.ext meant.symm rfl

/-- A description that can be written down is sent to the converter. -/
theorem perform_convert {description : Json} {body? : Option Bytes}
    (encoded : Converter.encode converter.limits description = .ok body?)
    (session : Http.Session σ) :
    (converter.convert description).perform session =
      (converter.convertedIn (send source converter (.conversion body?) session).1,
        (send source converter (.conversion body?) session).2) := by
  unfold Converter.convert
  rw [encoded, Attempt.perform_bind_of_ok (Attempt.perform_ofExcept _ _)]
  refine (Http.perform_ask_json converter.remote
    ((Inquiry.conversion body?).request (Addresses.of source converter))
    converter.limits.converted converter.url .conversion pure session).trans ?_
  show _ = (converter.convertedIn (Http.Session.send converter.remote _ session).1, _)
  unfold Converter.convertedIn
  split <;> rename_i meant <;> exact Prod.ext meant.symm rfl

/-- A description that cannot be written down is not. -/
theorem perform_convert_of_error {description : Json} {failure : Failure}
    (encoded : Converter.encode converter.limits description = .error failure)
    (session : Http.Session σ) :
    (converter.convert description).perform session = (.error failure, session) := by
  unfold Converter.convert
  rw [encoded]
  exact Attempt.perform_bind_of_error (Attempt.perform_ofExcept _ _) _

/-- The request for a document of the service. -/
def markupRequest (url : Text) : Http.Request :=
  { method := .get, url, accept := "application/xml", authorization := source.authorization }

theorem elements_eq (url : Text) (session : Http.Session σ) :
    source.elements url session =
      (Source.elementsIn url (Http.Session.send source.remote (markupRequest source url) session).1,
        (Http.Session.send source.remote (markupRequest source url) session).2) := by
  have asked : (Http.ask source.remote (markupRequest source url)).run session =
      ((Http.Session.send source.remote (markupRequest source url) session).1.answer url,
        (Http.Session.send source.remote (markupRequest source url) session).2) :=
    Http.perform_ask source.remote (markupRequest source url) session
  unfold markupRequest at asked ⊢
  unfold Source.elements Source.elementsIn
  simp only [bind, StateT.bind]
  rw [asked]
  cases (Http.Session.send source.remote _ session).1.answer url <;> rfl

theorem tableNames_eq (session : Http.Session σ) :
    source.tableNames session =
      (source.tableNamesIn (send source converter .tableList session).1,
        (send source converter .tableList session).2) := by
  unfold Source.tableNames
  rw [Attempt.run_map, elements_eq]
  rfl

theorem columns_eq (table : Text) (session : Http.Session σ) :
    source.columns table session =
      (source.columnsIn table (send source converter (.columnList table) session).1,
        (send source converter (.columnList table) session).2) := by
  unfold Source.columns
  refine (Attempt.run_map _ _ session).trans ?_
  rw [elements_eq]
  rfl

theorem perform_queryEnumeration (name : Text) (session : Http.Session σ) :
    (source.queryEnumeration name).perform session =
      (source.enumerationIn name (send source converter (.enumeration name) session).1,
        (send source converter (.enumeration name) session).2) := by
  refine (Http.perform_ask_json source.remote
    ((Inquiry.enumeration name).request (Addresses.of source converter)) source.limits.rows
    (Http.sentUrl source.queryUrl) (fun defect => .rows name (.body defect))
    (fun rows => .ofExcept (Enumeration.ofJson name rows)) session).trans ?_
  show _ = (source.enumerationIn name (Http.Session.send source.remote _ session).1, _)
  unfold Source.enumerationIn
  split <;> rename_i meant
  · exact Prod.ext (congrArg (Except.bind · (Enumeration.ofJson name)) meant.symm) rfl
  · exact Prod.ext (congrArg (Except.bind · (Enumeration.ofJson name)) meant.symm) rfl

end Exchanges

end ApiDoc
