/-
This file proves that the two halves of a documentation do not interfere. What the description and
its conversion are replied decides the document but for its schemas; what the questions about tables
are replied decides the schemas and nothing else. Two services are compared that may reply to
everything by what they were asked before.
-/
import ApiDoc.Proofs.Agreement
import ApiDoc.Proofs.InStep

namespace ApiDoc

variable {σ τ : Type}

/-! ### Answering alike -/

namespace Exchanges

/-- The replies to the inquiries of a kind, among inquiries that are made one after the other. -/
def repliesTo (source : Source σ) (converter : Converter σ) (kind : Inquiry → Bool) :
    List Inquiry → Http.Session σ → List Http.Reply
  | [], _ => []
  | inquiry :: rest, session =>
    let (reply, after) := send source converter inquiry session
    let replies := repliesTo source converter kind rest after
    if kind inquiry then reply :: replies else replies

section

variable {source : Source σ} {converter : Converter σ} {kind : Inquiry → Bool} {inquiry : Inquiry}

theorem repliesTo_cons_of_kind (ofKind : kind inquiry = true) (rest : List Inquiry)
    (session : Http.Session σ) :
    repliesTo source converter kind (inquiry :: rest) session =
      (send source converter inquiry session).1 ::
        repliesTo source converter kind rest (send source converter inquiry session).2 :=
  if_pos ofKind

theorem repliesTo_cons_of_not_kind (notOfKind : kind inquiry = false) (rest : List Inquiry)
    (session : Http.Session σ) :
    repliesTo source converter kind (inquiry :: rest) session =
      repliesTo source converter kind rest (send source converter inquiry session).2 :=
  if_neg (Bool.eq_false_iff.mp notOfKind)

end

variable (first : Source σ) (firstConverter : Converter σ) (second : Source τ)
  (secondConverter : Converter τ)

/-- From two sessions on, inquiries of a kind are answered alike: as long as they are the same, so are
the replies to them, whatever else is asked on either side. -/
def AnswerAlike (kind : Inquiry → Bool) (session : Http.Session σ) (other : Http.Session τ) : Prop :=
  ∀ asked others, asked.filter kind = others.filter kind →
    repliesTo first firstConverter kind asked session =
      repliesTo second secondConverter kind others other

namespace AnswerAlike

variable {first firstConverter second secondConverter} {kind : Inquiry → Bool}
  {session : Http.Session σ} {other : Http.Session τ}

/-- An inquiry of the kind that is made on both sides gets one reply. -/
theorem both (alike : AnswerAlike first firstConverter second secondConverter kind session other)
    {inquiry : Inquiry} (ofKind : kind inquiry = true) :
    (send first firstConverter inquiry session).1 = (send second secondConverter inquiry other).1 ∧
      AnswerAlike first firstConverter second secondConverter kind
        (send first firstConverter inquiry session).2
        (send second secondConverter inquiry other).2 := by
  have asks (asked others : List Inquiry) (same : asked.filter kind = others.filter kind) :
      (send first firstConverter inquiry session).1 ::
          repliesTo first firstConverter kind asked (send first firstConverter inquiry session).2 =
        (send second secondConverter inquiry other).1 ::
          repliesTo second secondConverter kind others
            (send second secondConverter inquiry other).2 := by
    have alike := alike (inquiry :: asked) (inquiry :: others) <| by
      rw [List.filter_cons_of_pos ofKind, List.filter_cons_of_pos ofKind, same]
    rwa [repliesTo_cons_of_kind ofKind, repliesTo_cons_of_kind ofKind] at alike
  exact ⟨(List.cons.inj (asks [] [] rfl)).1, fun asked others same =>
    (List.cons.inj (asks asked others same)).2⟩

/-- Any other inquiry may be made on one side alone. -/
theorem left (alike : AnswerAlike first firstConverter second secondConverter kind session other)
    {inquiry : Inquiry} (notOfKind : kind inquiry = false) :
    AnswerAlike first firstConverter second secondConverter kind
      (send first firstConverter inquiry session).2 other := by
  intro asked others same
  have alike := alike (inquiry :: asked) others <| by
    rw [List.filter_cons_of_neg (Bool.eq_false_iff.mp notOfKind), same]
  rwa [repliesTo_cons_of_not_kind notOfKind] at alike

theorem right (alike : AnswerAlike first firstConverter second secondConverter kind session other)
    {inquiry : Inquiry} (notOfKind : kind inquiry = false) :
    AnswerAlike first firstConverter second secondConverter kind session
      (send second secondConverter inquiry other).2 := by
  intro asked others same
  have alike := alike asked (inquiry :: others) <| by
    rw [List.filter_cons_of_neg (Bool.eq_false_iff.mp notOfKind), same]
  rwa [repliesTo_cons_of_not_kind notOfKind] at alike

end AnswerAlike

/-- Replies that depend on nothing but the inquiry are the replies to the inquiries one by one. -/
theorem repliesTo_eq_map {source : Source σ} {converter : Converter σ} {kind : Inquiry → Bool}
    {replyOf : Inquiry → Http.Reply}
    (replies : ∀ inquiry, kind inquiry = true → ∀ session,
      (send source converter inquiry session).1 = replyOf inquiry)
    (asked : List Inquiry) (session : Http.Session σ) :
    repliesTo source converter kind asked session = (asked.filter kind).map replyOf := by
  induction asked generalizing session with
  | nil => rfl
  | cons inquiry rest inductionHypothesis =>
    cases ofKind : kind inquiry with
    | true =>
      rw [repliesTo_cons_of_kind ofKind, List.filter_cons_of_pos ofKind, List.map_cons,
        replies inquiry ofKind, inductionHypothesis]
    | false =>
      rw [repliesTo_cons_of_not_kind ofKind, List.filter_cons_of_neg (Bool.eq_false_iff.mp ofKind),
        inductionHypothesis]

/-- Where both sides reply to every inquiry of a kind in one way, they answer alike. -/
theorem answerAlike_of_replyOf {first firstConverter second secondConverter}
    {kind : Inquiry → Bool} {replyOf : Inquiry → Http.Reply}
    (firstReplies : ∀ inquiry, kind inquiry = true → ∀ session : Http.Session σ,
      (send first firstConverter inquiry session).1 = replyOf inquiry)
    (secondReplies : ∀ inquiry, kind inquiry = true → ∀ session : Http.Session τ,
      (send second secondConverter inquiry session).1 = replyOf inquiry)
    (session : Http.Session σ) (other : Http.Session τ) :
    AnswerAlike first firstConverter second secondConverter kind session other := by
  intro asked others same
  rw [repliesTo_eq_map firstReplies, repliesTo_eq_map secondReplies, same]

/-- Where there is nothing to remember, replies depend on nothing but the inquiry. -/
theorem reply_send_unit (source : Source Unit) (converter : Converter Unit)
    (inquiry : Inquiry) (session : Http.Session Unit) :
    (send source converter inquiry session).1 =
      (send source converter inquiry { remote := () }).1 := by
  unfold send Http.Session.send
  dsimp only
  split <;> rfl

end Exchanges

open Exchanges (AnswerAlike)

/-! ### The half of the tables -/

namespace Source

/-- Two services are asked about tables in step. -/
structure AskedInStep (related : Http.Session σ → Http.Session τ → Prop) (first : Source σ)
    (second : Source τ) : Prop where
  tableNames : InStep related first.tableNames second.tableNames
  columns : ∀ table, InStep related (first.columns table) (second.columns table)
  enumerations : ∀ name,
    InStep related (first.queryEnumeration name).perform (second.queryEnumeration name).perform

variable {first : Source σ} {second : Source τ}

namespace AskedInStep

variable {related : Http.Session σ → Http.Session τ → Prop}
  (inStep : AskedInStep related first second)

include inStep

theorem buildTable (name : Text) :
    InStep (Cached.Beside related) (first.buildTable name).perform
      (second.buildTable name).perform := by
  refine (Cached.inStep_beside (inStep.columns name)).ofWork.attempt_bind fun columns => ?_
  exact Table.inStep_build (fun name => Cached.inStep_resolve (inStep.enumerations name)) name columns

theorem tablesFrom (ending : Except Failure Unit) (limit? : Option Nat)
    (seen names : List Text) :
    InStep (Cached.Beside related) (first.tablesFrom ending limit? seen names)
      (second.tablesFrom ending limit? seen names) := by
  induction names generalizing limit? seen with
  | nil => exact InStep.pure _
  | cons name rest inductionHypothesis =>
    rw [Source.tablesFrom, Source.tablesFrom]
    split
    · exact inductionHypothesis limit? seen
    · refine (inStep.buildTable name).bind fun outcome => ?_
      cases outcome with
      | error failure => exact InStep.pure _
      | ok table =>
        dsimp only
        split
        · exact InStep.pure _
        · exact (inductionHypothesis _ _).bind fun _ => InStep.pure _

theorem tables (limit? : Option Nat) :
    InStep (Cached.Beside related) (first.tables limit?) (second.tables limit?) :=
  (Cached.inStep_beside inStep.tableNames).bind fun names =>
    inStep.tablesFrom names.ending limit? [] names.items

/-- So the schemas of all tables are collected in step. -/
theorem schemas : InStep (Cached.Beside related) first.schemas.perform second.schemas.perform := by
  refine (inStep.tables none).ofWork.attempt_bind fun tables => ?_
  cases finished : tables.toExcept with
  | error failure => exact InStep.pure _
  | ok tables => exact InStep.pure _

end AskedInStep

/-- Services that are reached alike and answer questions about tables alike are asked in step. -/
theorem askedInStep {firstConverter : Converter σ} {secondConverter : Converter τ}
    (connection : second.connection = first.connection)
    (environment : second.environment = first.environment)
    (limits : second.limits = first.limits) :
    AskedInStep (AnswerAlike first firstConverter second secondConverter Inquiry.isOfTables)
      first second := by
  have baseUrl : second.baseUrl = first.baseUrl := by
    rw [Source.baseUrl, connection, environment, Source.baseUrl]
  refine ⟨?tableNames, ?columns, ?enumerations⟩
  case tableNames =>
    intro session other alike
    obtain ⟨same, after⟩ := alike.both (rfl : Inquiry.tableList.isOfTables = true)
    rw [Exchanges.tableNames_eq first firstConverter,
      Exchanges.tableNames_eq second secondConverter]
    refine ⟨?_, after⟩
    dsimp only
    rw [same, tableNamesIn, tableNamesIn, tableListUrl, tableListUrl, baseUrl]
  case columns =>
    intro table session other alike
    obtain ⟨same, after⟩ := alike.both (rfl : (Inquiry.columnList table).isOfTables = true)
    rw [Exchanges.columns_eq first firstConverter, Exchanges.columns_eq second secondConverter]
    refine ⟨?_, after⟩
    dsimp only
    rw [same, columnsIn, columnsIn, columnListUrl, columnListUrl, baseUrl]
  case enumerations =>
    intro name session other alike
    obtain ⟨same, after⟩ := alike.both (rfl : (Inquiry.enumeration name).isOfTables = true)
    rw [Exchanges.perform_queryEnumeration first firstConverter,
      Exchanges.perform_queryEnumeration second secondConverter]
    refine ⟨?_, after⟩
    dsimp only
    rw [same, enumerationIn, enumerationIn, queryUrl, queryUrl, baseUrl, limits]

end Source

/-! ### The half of the document -/

/-- The inquiry is for the description of the service or for its conversion. -/
def Inquiry.isOfDocument (inquiry : Inquiry) : Bool := !inquiry.isOfTables

namespace Json

/-- The value with another one in the place of its members under a key, if it is an object. -/
def replaceMember (json : Json) (key : Text) (replacement : Json) : Json :=
  match json with
  | .object members => .object <| Dict.mapEntries
      (fun name value => if name = key then replacement else value) members
  | other => other

/-- The document with something else in the place of the schemas among its components. -/
def replaceSchemas (document replacement : Json) : Json :=
  match document with
  | .object members => .object <| Dict.mapEntries
      (fun name value =>
        if name = "components" then value.replaceMember "schemas" replacement else value) members
  | other => other

end Json

/-- A composed document is the same for all schemas but in the place of the schemas. -/
theorem Document.replaceSchemas_compose (document : Document) (schemas others : Dict Json)
    (replacement : Json) :
    (document.compose schemas).replaceSchemas replacement =
      (document.compose others).replaceSchemas replacement := by
  simp [compose, withSchemas, toJson, Components.toJson, Json.replaceSchemas, Json.replaceMember,
    Dict.ofParts, Dict.mapEntries]

/-! ### A value does not depend on the limit that it is read with -/

namespace Json

namespace Reader

variable {limit other : Nat} {state next : State}

theorem begin_of_le (wider : limit ≤ other) {stack : List Frame} {token : Token}
    (begins : begin limit stack token = .ok next) : begin other stack token = .ok next := by
  have enters {inside : Expectation} {opened : List Frame}
      (within : State.enter limit stack inside opened = .ok next) :
      State.enter other stack inside opened = .ok next := by
    unfold State.enter at within ⊢
    split at within
    · cases within
    · rw [if_neg (by omega), within]
  cases token with
  | openArray | openObject => exact enters begins
  | word | integer | double | string | closeArray | closeObject | comma | colon | broken =>
    exact begins

theorem step_of_le (wider : limit ≤ other) {token : Token}
    (steps : step limit state token = .ok next) : step other state token = .ok next := by
  unfold step at steps ⊢
  split at steps <;> first | exact begin_of_le wider steps | exact steps

theorem run_of_le (wider : limit ≤ other) {tokens : List Token}
    (runs : run limit state tokens = .ok next) : run other state tokens = .ok next := by
  induction tokens generalizing state with
  | nil => exact runs
  | cons token rest inductionHypothesis =>
    rw [run] at runs
    split at runs
    · rename_i after steps
      rw [run, step_of_le wider steps]
      exact inductionHypothesis runs
    · cases runs

end Reader

/-- Whatever is read with one limit is read with a wider one. -/
theorem read_of_le {text : Text} {limit other : Nat} (wider : limit ≤ other) {value : Json}
    (reads : read text limit = .ok value) : read text other = .ok value := by
  obtain ⟨state, ran, ended⟩ := bind_eq_ok_iff.mp reads
  exact bind_eq_ok_iff.mpr ⟨state, Reader.run_of_le wider ran, ended⟩

theorem readBody_eq_ok_iff {bytes : Bytes} {limit : Nat} {value : Json} :
    readBody bytes limit = .ok value ↔
      ∃ text, decodeBody? bytes = some text ∧ read text limit = .ok value := by
  unfold readBody
  cases decodeBody? bytes with
  | none => simp
  | some text => cases outcome : read text limit <;> simp [outcome]

/-- What a body holds does not depend on the limit that it is read with. -/
theorem readBody_unique {bytes : Bytes} {limit other : Nat} {value otherValue : Json}
    (reads : readBody bytes limit = .ok value) (readsOther : readBody bytes other = .ok otherValue) :
    value = otherValue := by
  obtain ⟨text, decoded, reads⟩ := readBody_eq_ok_iff.mp reads
  obtain ⟨_, same, readsOther⟩ := readBody_eq_ok_iff.mp readsOther
  obtain rfl := Option.some.inj (decoded.symm.trans same)
  rcases le_total limit other with wider | wider
  · exact Except.ok.inj ((read_of_le wider reads).symm.trans readsOther)
  · exact Except.ok.inj (reads.symm.trans (read_of_le wider readsOther))

end Json

/-- What a reply gives as JSON is read from the body of an answer. -/
theorem Http.Reply.readBody_of_json {reply : Http.Reply} {limit : Nat} {url shown : Text}
    {describe : Json.BodyDefect → Malformation} {value : Json}
    (gives : reply.json limit url shown describe = .ok value) :
    ∃ answer, reply = .ok answer ∧ Json.readBody answer.body limit = .ok value := by
  obtain ⟨answer, answers, wholly⟩ := bind_eq_ok_iff.mp gives
  obtain ⟨body, whole, reads⟩ := bind_eq_ok_iff.mp wholly
  have answered : reply = .ok answer := by
    cases reply with
    | error => cases answers
    | ok => exact congrArg Except.ok (Except.ok.inj answers)
  have arrived : answer.body = body := by
    unfold Http.Answer.wholeBody at whole
    split at whole
    · cases whole
    · split at whole
      · cases whole
      · exact Except.ok.inj whole
  refine ⟨answer, answered, ?_⟩
  rw [arrived]
  split at reads
  · rename_i read
    rw [read, Except.ok.inj reads]
  · cases reads

/-- So it depends neither on the address that was asked nor on the limit. -/
theorem Http.Reply.json_eq {reply : Http.Reply} {limit otherLimit : Nat}
    {url shown otherUrl otherShown : Text}
    {describe otherDescribe : Json.BodyDefect → Malformation} {value otherValue : Json}
    (gives : reply.json limit url shown describe = .ok value)
    (givesOther : reply.json otherLimit otherUrl otherShown otherDescribe = .ok otherValue) :
    value = otherValue := by
  obtain ⟨answer, rfl, reads⟩ := Http.Reply.readBody_of_json gives
  obtain ⟨_, same, readsOther⟩ := Http.Reply.readBody_of_json givesOther
  cases same
  exact Json.readBody_unique reads readsOther

/-- A description that is sent within limits is sent so without any. -/
theorem Converter.encode_of_limits {limits : Limits} {description : Json} {body? : Option Bytes}
    (encoded : encode limits description = .ok body?) : encode {} description = .ok body? := by
  unfold encode at encoded ⊢
  cases sendable : limits.sends description with
  | true =>
    rw [sendable] at encoded
    exact encoded
  | false =>
    rw [sendable] at encoded
    cases null : description.isNull with
    | true =>
      rw [null] at encoded
      exact encoded
    | false =>
      rw [null] at encoded
      cases encoded

namespace Source

variable {first : Source σ} {firstConverter : Converter σ} {second : Source τ}
  {secondConverter : Converter τ} {session : Http.Session σ} {other : Http.Session τ}

/-- A description is what the reply to the inquiry for it gives. -/
theorem description_eq_ok (converter : Converter σ) {description : Json} {asked : Http.Session σ}
    (describes : first.description.perform session = (.ok description, asked)) :
    first.descriptionIn (Exchanges.send first converter .description session).1 = .ok description ∧
      (Exchanges.send first converter .description session).2 = asked := by
  rw [Exchanges.perform_description first converter] at describes
  exact Prod.mk.inj describes

/-- A converted document is what the reply to the inquiry for the conversion of a text gives. -/
theorem convert_eq_ok (source : Source σ) {converter : Converter σ} {description converted : Json}
    {asked between : Http.Session σ}
    (converts : (converter.convert description).perform asked = (.ok converted, between)) :
    ∃ body?, Converter.encode converter.limits description = .ok body? ∧
      converter.convertedIn (Exchanges.send source converter (.conversion body?) asked).1 =
        .ok converted ∧
      (Exchanges.send source converter (.conversion body?) asked).2 = between := by
  cases encoded : Converter.encode converter.limits description with
  | error failure =>
    rw [Exchanges.perform_convert_of_error converter encoded] at converts
    cases converts
  | ok body? =>
    rw [Exchanges.perform_convert source converter encoded] at converts
    exact ⟨body?, rfl, Prod.mk.inj converts⟩

section

variable {description otherDescription converted otherConverted : Json}
  {asked between : Http.Session σ} {otherAsked otherBetween : Http.Session τ}
  (describes : first.description.perform session = (.ok description, asked))
  (converts : (firstConverter.convert description).perform asked = (.ok converted, between))
  (otherDescribes : second.description.perform other = (.ok otherDescription, otherAsked))
  (otherConverts : (secondConverter.convert otherDescription).perform otherAsked =
    (.ok otherConverted, otherBetween))

include describes converts otherDescribes otherConverts

/-- One reply to the inquiry for the description means one text to convert, and so one reply to the
inquiry for its conversion. -/
theorem converted_eq
    (alike : AnswerAlike first firstConverter second secondConverter Inquiry.isOfDocument session
      other) :
    converted = otherConverted := by
  obtain ⟨described, rfl⟩ := description_eq_ok firstConverter describes
  obtain ⟨otherDescribed, rfl⟩ := description_eq_ok secondConverter otherDescribes
  obtain ⟨body?, encoded, conversion, -⟩ := convert_eq_ok first converts
  obtain ⟨otherBody?, otherEncoded, otherConversion, -⟩ := convert_eq_ok second otherConverts
  obtain ⟨sameReply, afterDescription⟩ :=
    alike.both (rfl : Inquiry.description.isOfDocument = true)
  rw [← sameReply] at otherDescribed
  obtain rfl : description = otherDescription := Http.Reply.json_eq described otherDescribed
  obtain rfl : body? = otherBody? := Except.ok.inj
    ((Converter.encode_of_limits encoded).symm.trans (Converter.encode_of_limits otherEncoded))
  obtain ⟨sameReply, -⟩ :=
    afterDescription.both (rfl : (Inquiry.conversion body?).isOfDocument = true)
  rw [← sameReply] at otherConversion
  exact Http.Reply.json_eq conversion otherConversion

/-- The description and its conversion leave the answers to questions about tables alike. -/
theorem answerAlike_after_conversion
    (alike : AnswerAlike first firstConverter second secondConverter Inquiry.isOfTables session
      other) :
    AnswerAlike first firstConverter second secondConverter Inquiry.isOfTables between
      otherBetween := by
  obtain ⟨-, rfl⟩ := description_eq_ok firstConverter describes
  obtain ⟨-, rfl⟩ := description_eq_ok secondConverter otherDescribes
  obtain ⟨body?, -, -, rfl⟩ := convert_eq_ok first converts
  obtain ⟨otherBody?, -, -, rfl⟩ := convert_eq_ok second otherConverts
  have description : Inquiry.description.isOfTables = false := rfl
  have conversion (body? : Option Bytes) : (Inquiry.conversion body?).isOfTables = false := rfl
  exact (((alike.left description).right description).left (conversion _)).right (conversion _)

end

/-- The two halves of a documentation do not interfere. If two services answer alike to the inquiries
for the description and its conversion, their documents are the same but for the schemas, in the same
order; and if they answer alike to the inquiries about tables, the schemas are the same, whatever was
converted. -/
theorem halves_apart (connection : second.connection = first.connection)
    (environment : second.environment = first.environment)
    (limits : second.limits = first.limits) {output otherOutput : Text}
    (succeeds : ((first.documentation firstConverter).perform session).1 = .ok output)
    (otherSucceeds : ((second.documentation secondConverter).perform other).1 = .ok otherOutput) :
    ∃ document otherDocument,
      output = Document.serialize document ∧ otherOutput = Document.serialize otherDocument ∧
      (AnswerAlike first firstConverter second secondConverter Inquiry.isOfDocument session other →
        ∀ replacement,
          document.replaceSchemas replacement = otherDocument.replaceSchemas replacement) ∧
      (AnswerAlike first firstConverter second secondConverter Inquiry.isOfTables session other →
        ∃ schemas, document.schemas? = some schemas ∧ otherDocument.schemas? = some schemas) := by
  obtain ⟨description, asked, converted, between, document, schemas, describes, converts, reads,
    collects, rfl⟩ := first.perform_documentation_eq_ok (Prod.ext succeeds rfl)
  obtain ⟨otherDescription, otherAsked, otherConverted, otherBetween, otherDocument, otherSchemas,
    otherDescribes, otherConverts, otherReads, otherCollects, rfl⟩ :=
    second.perform_documentation_eq_ok (Prod.ext otherSucceeds rfl)
  refine ⟨_, _, rfl, rfl, fun alike replacement => ?ofDocument, fun alike => ?ofTables⟩
  case ofDocument =>
    obtain rfl := converted_eq describes converts otherDescribes otherConverts alike
    rw [reads] at otherReads
    cases otherReads
    rw [connection]
    exact Document.replaceSchemas_compose _ schemas otherSchemas replacement
  case ofTables =>
    obtain ⟨same, -⟩ := Cached.inStep_fresh (askedInStep connection environment limits).schemas _ _
      (answerAlike_after_conversion describes converts otherDescribes otherConverts alike)
    rw [collects, otherCollects] at same
    obtain rfl : schemas = otherSchemas := Except.ok.inj same
    exact ⟨_, Document.schemas?_compose _ schemas, Document.schemas?_compose _ schemas⟩

/-! ### Two pairs of services -/

theorem answerAlike_enumerating_isOfDocument (rows others : String) :
    AnswerAlike (enumerating rows) emptyConverter (enumerating others) emptyConverter
      Inquiry.isOfDocument { remote := () } { remote := () } := by
  refine Exchanges.answerAlike_of_replyOf (fun inquiry _ => Exchanges.reply_send_unit _ _ inquiry)
    (fun inquiry ofKind session => ?_) _ _
  rw [Exchanges.reply_send_unit]
  cases inquiry with
  | description | conversion => rfl
  | tableList | columnList | enumeration => cases ofKind

theorem answerAlike_enumerating_isOfTables (rows : String) (converter other : Converter Unit) :
    AnswerAlike (enumerating rows) converter (enumerating rows) other Inquiry.isOfTables
      { remote := () } { remote := () } := by
  refine Exchanges.answerAlike_of_replyOf (fun inquiry _ => Exchanges.reply_send_unit _ _ inquiry)
    (fun inquiry ofKind session => ?_) _ _
  rw [Exchanges.reply_send_unit]
  cases inquiry with
  | description | conversion => cases ofKind
  | tableList | columnList | enumeration => rfl

/-- A converter that answers with a document that has a schema of its own. -/
def schemaConverter : Converter Unit where
  url := "http://host/convert"
  remote := fun _ state =>
    (.ok (.success "\x7b\"components\":\x7b\"schemas\":\x7b\"Room\":\x7b\x7d\x7d\x7d\x7d"), state)

/-- The rows of an enumeration with one value. -/
def oneRow : String := "[\x7b\"enumId\":1,\"description\":\"one\"\x7d]"

/-- Other rows of an enumeration leave the document alone, and other converted documents leave the
schemas alone. -/
theorem halves_apart_enumerating :
    (∃ document otherDocument,
      (((enumerating "[]").documentation emptyConverter).perform { remote := () }).1 =
        .ok (Document.serialize document) ∧
      (((enumerating oneRow).documentation emptyConverter).perform { remote := () }).1 =
        .ok (Document.serialize otherDocument) ∧
      ∀ replacement,
        document.replaceSchemas replacement = otherDocument.replaceSchemas replacement) ∧
    ∃ document otherDocument schemas,
      (((enumerating "[]").documentation emptyConverter).perform { remote := () }).1 =
        .ok (Document.serialize document) ∧
      (((enumerating "[]").documentation schemaConverter).perform { remote := () }).1 =
        .ok (Document.serialize otherDocument) ∧
      document.schemas? = some schemas ∧ otherDocument.schemas? = some schemas := by
  have connection (rows others : String) :
      (enumerating others).connection = (enumerating rows).connection := rfl
  have environment (rows others : String) :
      (enumerating others).environment = (enumerating rows).environment := rfl
  have limits (rows others : String) : (enumerating others).limits = (enumerating rows).limits := rfl
  obtain ⟨output, documented⟩ := exists_documentation_enumerating
  constructor
  · have succeeds : (((enumerating oneRow).documentation emptyConverter).perform
        { remote := () }).1.toOption.isSome = true := by
      decide +kernel
    obtain ⟨otherOutput, otherDocumented⟩ := exists_eq_ok_of_isSome succeeds
    obtain ⟨document, otherDocument, rfl, rfl, ofDocument, -⟩ :=
      halves_apart (connection _ _) (environment _ _) (limits _ _) documented otherDocumented
    exact ⟨document, otherDocument, documented, otherDocumented,
      ofDocument (answerAlike_enumerating_isOfDocument _ _)⟩
  · have succeeds : (((enumerating "[]").documentation schemaConverter).perform
        { remote := () }).1.toOption.isSome = true := by
      decide +kernel
    obtain ⟨otherOutput, otherDocumented⟩ := exists_eq_ok_of_isSome succeeds
    obtain ⟨document, otherDocument, rfl, rfl, -, ofTables⟩ :=
      halves_apart (connection _ _) (environment _ _) (limits _ _) documented otherDocumented
    obtain ⟨schemas, has, otherHas⟩ :=
      ofTables (answerAlike_enumerating_isOfTables "[]" emptyConverter schemaConverter)
    exact ⟨document, otherDocument, schemas, documented, otherDocumented, has, otherHas⟩

end Source

end ApiDoc
