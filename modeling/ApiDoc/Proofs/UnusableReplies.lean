/-
This file says what kind of failure a reply leads to. A refusal leads to the failure of what does not
answer, and most of what is of no use to a malformation; but some replies are overlooked, which arrive
with a success and lead to a failure that nothing declares.
-/
import ApiDoc.Proofs.CharsetDefects
import ApiDoc.Proofs.RequestDiscipline

namespace ApiDoc

/-! ### Kinds of failures -/

namespace Failure

/-- The failure says that something does not answer. -/
def isUnavailable : Failure → Bool
  | .unavailable .. => true
  | _ => false

/-- The failure is of neither declared kind. -/
def isUndeclared (failure : Failure) : Bool := !failure.isDeclared

/-- A kind of failures that are no malformations. -/
def IsAbrupt (kind : Failure → Bool) : Prop := ∀ cause, kind (.malformed cause) = false

theorem isAbrupt_isUnavailable : IsAbrupt isUnavailable := fun _ => rfl

theorem isAbrupt_isUndeclared : IsAbrupt isUndeclared := fun _ => rfl

/-- The outcome is a failure of a kind. -/
def Among {α : Type} (kind : Failure → Bool) (outcome : Except Failure α) : Prop :=
  ∃ failure, outcome = .error failure ∧ kind failure = true

section Among

variable {α β : Type} {kind : Failure → Bool}

theorem among_error {failure : Failure} :
    Among kind (.error failure : Except Failure α) ↔ kind failure = true :=
  ⟨fun ⟨_, same, holds⟩ => Except.error.inj same ▸ holds, fun holds => ⟨failure, rfl, holds⟩⟩

theorem not_among_ok (value : α) : ¬ Among kind (.ok value) := fun ⟨_, same, _⟩ => nomatch same

theorem not_among_malformed (abrupt : IsAbrupt kind) (cause : Malformation) :
    ¬ Among kind (.error (.malformed cause) : Except Failure α) := by
  rw [among_error, abrupt cause]
  exact Bool.false_ne_true

/-- A step fails as its first part does, or else as the rest. -/
theorem among_bind {outcome : Except Failure α} {next : α → Except Failure β} :
    Among kind (outcome >>= next) ↔
      Among kind outcome ∨ ∃ value, outcome = .ok value ∧ Among kind (next value) := by
  constructor
  · rintro ⟨failure, fails, holds⟩
    rcases bind_eq_error_iff.mp fails with first | ⟨value, given, later⟩
    · exact Or.inl ⟨failure, first, holds⟩
    · exact Or.inr ⟨value, given, failure, later, holds⟩
  · rintro (⟨failure, fails, holds⟩ | ⟨value, given, failure, fails, holds⟩)
    · exact ⟨failure, bind_eq_error_iff.mpr (Or.inl fails), holds⟩
    · exact ⟨failure, bind_eq_error_iff.mpr (Or.inr ⟨value, given, fails⟩), holds⟩

end Among

end Failure

open Failure (Among IsAbrupt isUnavailable isUndeclared)

/-! ### Replies -/

namespace Http

variable {σ : Type}

/-- Every request is answered, and nothing cuts off the body of an answer. -/
def Remote.Answers (remote : Remote σ) : Prop :=
  ∀ request state, ∃ answer : Answer,
    (remote request state).1 = .ok answer ∧ answer.interruption = none

namespace Reply

/-- The reply is an answer with all of its body, or nobody was asked. -/
inductive IsWhole : Reply → Prop where
  | accepted (answer : Answer) (successful : answer.status.isSuccess = true)
      (whole : answer.interruption = none) : IsWhole (.ok answer)
  | refused (answer : Answer) (unsuccessful : answer.status.isSuccess = false)
      (whole : answer.interruption = none) : IsWhole (.ok answer)
  | unsent : IsWhole (.error (.transport Session.noProtocol))
  | unaddressed (message : Text) : IsWhole (.error (.invalidAddress message))

/-- The answer of a success. -/
def accepted? : Reply → Option Answer
  | .ok answer => if answer.status.isSuccess then some answer else none
  | .error _ => none

/-- The reply is no success, or there was nobody to reply. -/
def isRefusal : Reply → Bool
  | .ok answer => !answer.status.isSuccess
  | .error (.transport _) => true
  | .error _ => false

/-- Nobody was asked, because there was no address to ask at. -/
def isUnaddressed : Reply → Bool
  | .error (.invalidAddress _) => true
  | _ => false

end Reply

theorem isWhole_send {remote : Remote σ} (answers : remote.Answers) (request : Request)
    (session : Session σ) : (Session.send remote request session).1.IsWhole := by
  unfold Session.send Request.prepare
  cases Url.objection? request.url with
  | some message => exact .unaddressed message
  | none =>
    dsimp only
    cases (Url.ofText request.url).isHttp with
    | false => exact .unsent
    | true =>
      rw [if_pos rfl]
      obtain ⟨answer, replied, whole⟩ :=
        answers { request with url := (Url.ofText request.url).toText } session.remote
      dsimp only
      rw [replied]
      cases successful : answer.status.isSuccess with
      | true => exact .accepted answer successful whole
      | false => exact .refused answer successful whole

/-- Nobody is asked exactly if something speaks against the address. -/
theorem isUnaddressed_send {remote : Remote σ} (answers : remote.Answers) (request : Request)
    (session : Session σ) : (Session.send remote request session).1.isUnaddressed =
      (Url.objection? request.url).isSome := by
  unfold Session.send Request.prepare
  cases Url.objection? request.url with
  | some message => rfl
  | none =>
    dsimp only
    cases (Url.ofText request.url).isHttp with
    | false => rfl
    | true =>
      rw [if_pos rfl]
      obtain ⟨answer, replied, _⟩ :=
        answers { request with url := (Url.ofText request.url).toText } session.remote
      dsimp only
      rw [replied]
      rfl

end Http

namespace Http.Reply

variable {reply : Http.Reply} {url shown : Text}

/-! ### Replies in JSON -/

section Json

variable {limit : Nat} {describe : Json.BodyDefect → Malformation}

/-- The body of a success is read. -/
theorem json_accepted {answer : Http.Answer} (successful : answer.status.isSuccess = true)
    (whole : answer.interruption = none) :
    json (.ok answer) limit url shown describe = match Json.readBody answer.body limit with
      | .ok value => .ok value
      | .error defect => .error (.ofBody describe defect) := by
  show (answer.wholeBody url shown >>= _) = _
  unfold Http.Answer.wholeBody Http.Answer.refusal?
  rw [if_pos successful, whole]
  rfl

theorem json_refused {answer : Http.Answer} (unsuccessful : answer.status.isSuccess = false)
    (whole : answer.interruption = none) :
    json (.ok answer) limit url shown describe =
      .error (.unavailable shown (some answer.status) answer.status.phrase) := by
  show (answer.wholeBody url shown >>= _) = _
  unfold Http.Answer.wholeBody Http.Answer.refusal?
  rw [unsuccessful, if_neg Bool.false_ne_true, whole]
  rfl

theorem json_eq_ok_iff (whole : reply.IsWhole) {value : Json} :
    reply.json limit url shown describe = .ok value ↔
      ∃ answer, reply.accepted? = some answer ∧ Json.readBody answer.body limit = .ok value := by
  cases whole with
  | accepted answer successful whole =>
    rw [json_accepted successful whole]
    simp only [accepted?, if_pos successful, Option.some.injEq, exists_eq_left']
    cases Json.readBody answer.body limit <;> simp
  | refused answer unsuccessful whole =>
    rw [json_refused unsuccessful whole]
    simp [accepted?, unsuccessful]
  | unsent => exact iff_of_false nofun nofun
  | unaddressed => exact iff_of_false nofun nofun

theorem among_unavailable_json (whole : reply.IsWhole) :
    Among isUnavailable (reply.json limit url shown describe) ↔ reply.isRefusal = true := by
  cases whole with
  | accepted answer successful whole =>
    refine iff_of_false ?_ (by simp [isRefusal, successful])
    rw [json_accepted successful whole]
    cases Json.readBody answer.body limit with
    | ok value => exact Failure.not_among_ok value
    | error defect =>
      rw [Failure.among_error]
      rcases defect with - | - | - | - <;> exact Bool.false_ne_true
  | refused answer unsuccessful whole =>
    rw [json_refused unsuccessful whole]
    exact iff_of_true ⟨_, rfl, rfl⟩ (by simp [isRefusal, unsuccessful])
  | unsent => exact iff_of_true ⟨_, rfl, rfl⟩ rfl
  | unaddressed =>
    exact iff_of_false (Failure.among_error.not.mpr Bool.false_ne_true) Bool.false_ne_true

/-- That there is no address, and JSON that nests too deep, is what is overlooked of a reply. -/
theorem among_undeclared_json (whole : reply.IsWhole) :
    Among isUndeclared (reply.json limit url shown describe) ↔
      reply.isUnaddressed = true ∨ ∃ answer, reply.accepted? = some answer ∧
        Json.readBody answer.body limit = .error (.unreadable .tooDeep) := by
  cases whole with
  | accepted answer successful whole =>
    rw [json_accepted successful whole]
    simp only [isUnaddressed, Bool.false_eq_true, false_or, accepted?, if_pos successful,
      Option.some.injEq, exists_eq_left']
    cases Json.readBody answer.body limit with
    | ok value => exact iff_of_false (Failure.not_among_ok value) nofun
    | error defect =>
      rw [Failure.among_error]
      rcases defect with - | - | - | - <;> simp [Failure.ofBody, isUndeclared, Failure.isDeclared]
  | refused answer unsuccessful whole =>
    rw [json_refused unsuccessful whole, Failure.among_error]
    simp [isUnaddressed, accepted?, unsuccessful, isUndeclared, Failure.isDeclared]
  | unsent =>
    refine iff_of_false (Failure.among_error.not.mpr Bool.false_ne_true) ?_
    simp [isUnaddressed, accepted?]
  | unaddressed => exact iff_of_true ⟨_, rfl, rfl⟩ (Or.inl rfl)

variable {α : Type} {next : Json → Except Failure α}

theorem among_unavailable_json_bind (whole : reply.IsWhole)
    (later : ∀ value, ¬ Among isUnavailable (next value)) :
    Among isUnavailable (reply.json limit url shown describe >>= next) ↔
      reply.isRefusal = true := by
  rw [Failure.among_bind, among_unavailable_json whole, or_iff_left]
  exact fun ⟨value, _, fails⟩ => later value fails

theorem among_undeclared_json_bind (whole : reply.IsWhole) :
    Among isUndeclared (reply.json limit url shown describe >>= next) ↔
      reply.isUnaddressed = true ∨ ∃ answer, reply.accepted? = some answer ∧
        (Json.readBody answer.body limit = .error (.unreadable .tooDeep) ∨
          ∃ value, Json.readBody answer.body limit = .ok value ∧
            Among isUndeclared (next value)) := by
  rw [Failure.among_bind, among_undeclared_json whole, or_assoc]
  refine or_congr_right ?_
  simp only [json_eq_ok_iff whole]
  constructor
  · rintro (⟨answer, accepted, deep⟩ | ⟨value, ⟨answer, accepted, reads⟩, fails⟩)
    · exact ⟨answer, accepted, Or.inl deep⟩
    · exact ⟨answer, accepted, Or.inr ⟨value, reads, fails⟩⟩
  · rintro ⟨answer, accepted, deep | ⟨value, reads, fails⟩⟩
    · exact Or.inl ⟨answer, accepted, deep⟩
    · exact Or.inr ⟨value, ⟨answer, accepted, reads⟩, fails⟩

end Json

end Http.Reply

/-! ### Replies in markup -/

namespace Source

variable {reply : Http.Reply} {url : Text}

/-- The chunks of a success are read. -/
theorem elementsIn_accepted {answer : Http.Answer} (successful : answer.status.isSuccess = true)
    (whole : answer.interruption = none) :
    elementsIn url (.ok answer) = Xml.Element.ofChunks url none {} 0 answer.chunks := by
  show Xml.Element.ofAnswer url answer = _
  unfold Xml.Element.ofAnswer Http.Answer.refusal?
  rw [if_pos successful, whole]

theorem elementsIn_refused {answer : Http.Answer} (unsuccessful : answer.status.isSuccess = false)
    (whole : answer.interruption = none) :
    elementsIn url (.ok answer) =
      .failed (.unavailable (Http.sentUrl url) (some answer.status) answer.status.phrase) := by
  show Xml.Element.ofAnswer url answer = _
  unfold Xml.Element.ofAnswer Http.Answer.refusal?
  rw [unsuccessful, if_neg Bool.false_ne_true, whole]

/-- Markup names a charset that it cannot be read in. -/
def IsInOtherCharset (answer : Http.Answer) : Prop :=
  ∃ defect, ({} : Xml.Reader).defect? answer.chunks = some defect ∧ defect ≠ .malformed

theorem among_unavailable_elementsIn (whole : reply.IsWhole) :
    Among isUnavailable (elementsIn url reply).ending ↔ reply.isRefusal = true := by
  cases whole with
  | accepted answer successful whole =>
    refine iff_of_false ?_ (by simp [Http.Reply.isRefusal, successful])
    rw [elementsIn_accepted successful whole, Xml.Element.ending_ofChunks]
    rcases ({} : Xml.Reader).defect? answer.chunks with - | - | - | - <;>
      simp [Xml.MarkupDefect.toFailure, Failure.among_error, Failure.not_among_ok, isUnavailable]
  | refused answer unsuccessful whole =>
    rw [elementsIn_refused unsuccessful whole]
    exact iff_of_true ⟨_, rfl, rfl⟩ (by simp [Http.Reply.isRefusal, unsuccessful])
  | unsent => exact iff_of_true ⟨_, rfl, rfl⟩ rfl
  | unaddressed =>
    exact iff_of_false (Failure.among_error.not.mpr Bool.false_ne_true) Bool.false_ne_true

theorem among_undeclared_elementsIn (whole : reply.IsWhole) :
    Among isUndeclared (elementsIn url reply).ending ↔
      reply.isUnaddressed = true ∨
        ∃ answer, reply.accepted? = some answer ∧ IsInOtherCharset answer := by
  cases whole with
  | accepted answer successful whole =>
    rw [elementsIn_accepted successful whole, Xml.Element.ending_ofChunks]
    unfold IsInOtherCharset
    simp only [Http.Reply.isUnaddressed, Bool.false_eq_true, false_or, Http.Reply.accepted?,
      if_pos successful, Option.some.injEq, exists_eq_left']
    rcases ({} : Xml.Reader).defect? answer.chunks with - | - | - | - <;>
      simp [Xml.MarkupDefect.toFailure, Failure.among_error, Failure.not_among_ok, isUndeclared,
        Failure.isDeclared]
  | refused answer unsuccessful whole =>
    rw [elementsIn_refused unsuccessful whole]
    refine iff_of_false (Failure.among_error.not.mpr Bool.false_ne_true) ?_
    simp [Http.Reply.isUnaddressed, Http.Reply.accepted?, unsuccessful]
  | unsent =>
    refine iff_of_false (Failure.among_error.not.mpr Bool.false_ne_true) ?_
    simp [Http.Reply.isUnaddressed, Http.Reply.accepted?]
  | unaddressed => exact iff_of_true ⟨_, rfl, rfl⟩ (Or.inl rfl)

/-- A stream that fails abruptly has delivered nothing. -/
theorem items_elementsIn {kind : Failure → Bool} (abrupt : IsAbrupt kind) (whole : reply.IsWhole)
    (fails : Among kind (elementsIn url reply).ending) : (elementsIn url reply).items = [] := by
  cases whole with
  | accepted answer successful whole =>
    rw [elementsIn_accepted successful whole] at fails ⊢
    rw [Xml.Element.ending_ofChunks] at fails
    cases stops : ({} : Xml.Reader).defect? answer.chunks with
    | none =>
      rw [stops] at fails
      exact absurd fails (Failure.not_among_ok ())
    | some defect =>
      refine Xml.Element.items_ofChunks_of_charset url stops ?_
      rintro rfl
      rw [stops] at fails
      exact Failure.not_among_malformed abrupt _ fails
  | refused answer unsuccessful whole =>
    rw [elementsIn_refused unsuccessful whole]
    rfl
  | unsent => rfl
  | unaddressed => rfl

end Source

/-! ### What replies hold -/

namespace Enumeration

/-- The first row that cannot be read has an infinite number as its identifier. -/
def HasInfiniteIdentifier (name : Text) (value : Json) : Prop :=
  ∃ before members after negative, value = .array (before ++ .object members :: after) ∧
    (∀ row ∈ before, ∃ entry, ofRow name row = .ok entry) ∧
    Dict.get? members identifierKey = some (.double (.infinity negative))

theorem eq_unusable_of_identifier {name : Text} {value : Json} {failure : Failure}
    (fails : identifier name value = .error failure) :
    (∃ defect, failure = unusable name defect) ∨
      failure = .infiniteIdentifier ∧ ∃ negative, value = .double (.infinity negative) := by
  unfold identifier at fails
  split at fails
  · cases fails
  · cases fails
  · rename_i number
    cases number with
    | nan => exact Or.inl ⟨.notNumber, (Except.error.inj fails).symm⟩
    | infinity negative => exact Or.inr ⟨(Except.error.inj fails).symm, negative, rfl⟩
    | finite => cases fails
  · split at fails
    · cases fails
    · exact Or.inl ⟨_, (Except.error.inj fails).symm⟩
    · exact Or.inl ⟨_, (Except.error.inj fails).symm⟩
  all_goals exact Or.inl ⟨.wrongShape, (Except.error.inj fails).symm⟩

/-- A row that cannot be read has a defect, or an infinite number as its identifier. -/
theorem eq_unusable_of_ofRow {name : Text} {row : Json} {failure : Failure}
    (fails : ofRow name row = .error failure) :
    (∃ defect, failure = unusable name defect) ∨
      failure = .infiniteIdentifier ∧ ∃ members negative, row = .object members ∧
        Dict.get? members identifierKey = some (.double (.infinity negative)) := by
  unfold ofRow at fails
  split at fails
  · rename_i members
    cases written : Dict.get? members identifierKey with
    | none =>
      rw [written] at fails
      exact Or.inl ⟨_, (Except.error.inj fails).symm⟩
    | some value =>
      rw [written] at fails
      rcases bind_eq_error_iff.mp fails with unread | ⟨_, _, undescribed⟩
      · refine (eq_unusable_of_identifier unread).imp_right ?_
        rintro ⟨rfl, negative, rfl⟩
        exact ⟨rfl, members, negative, rfl, written⟩
      · cases described : Dict.get? members descriptionKey with
        | none =>
          rw [described] at undescribed
          exact Or.inl ⟨_, (Except.error.inj undescribed).symm⟩
        | some description =>
          rw [described] at undescribed
          cases undescribed
  · exact Or.inl ⟨_, (Except.error.inj fails).symm⟩

theorem ofRow_of_infinite {name : Text} {members : Dict Json} {negative : Bool}
    (infinite : Dict.get? members identifierKey = some (.double (.infinity negative))) :
    ofRow name (.object members) = .error .infiniteIdentifier := by
  unfold ofRow
  dsimp only
  rw [infinite]
  rfl

/-- Only an array has objects for rows. -/
theorem eq_array_of_rowsOf? {value : Json} {rows : List Json} (given : rowsOf? value = some rows)
    {members : Dict Json} (member : .object members ∈ rows) : value = .array rows := by
  cases value with
  | array items => exact congrArg Json.array (Option.some_inj.mp given)
  | object entries =>
    obtain rfl := Option.some_inj.mp given
    obtain ⟨_, _, same⟩ := List.mem_map.mp member
    cases same
  | string text =>
    obtain rfl := Option.some_inj.mp given
    obtain ⟨_, _, same⟩ := List.mem_map.mp member
    cases same
  | null | bool | integer | double => cases given

/-- Rows fail abruptly exactly if the first one that cannot be read has an infinite identifier. -/
theorem among_ofJson {kind : Failure → Bool} (abrupt : IsAbrupt kind) (name : Text) (value : Json) :
    Among kind (ofJson name value) ↔
      HasInfiniteIdentifier name value ∧ kind .infiniteIdentifier = true := by
  unfold ofJson
  cases given : rowsOf? value with
  | none =>
    refine iff_of_false (Failure.not_among_malformed abrupt _) ?_
    rintro ⟨⟨before, members, after, negative, rfl, _⟩, _⟩
    cases given
  | some rows =>
    dsimp only
    rw [Failure.among_bind]
    constructor
    · rintro (⟨failure, fails, holds⟩ | ⟨_, _, finished⟩)
      · obtain ⟨before, row, after, rfl, readable, stops⟩ := mapM_eq_error_iff.mp fails
        rcases eq_unusable_of_ofRow stops with ⟨defect, rfl⟩ | ⟨rfl, members, negative, rfl, infinite⟩
        · exact absurd ((abrupt _).symm.trans holds) Bool.false_ne_true
        · have whole := eq_array_of_rowsOf? given (List.mem_append_right _ List.mem_cons_self)
          exact ⟨⟨before, members, after, negative, whole, readable, infinite⟩, holds⟩
      · exact absurd finished (Failure.not_among_ok _)
    · rintro ⟨⟨before, members, after, negative, rfl, readable, infinite⟩, holds⟩
      obtain rfl := Option.some_inj.mp given
      refine Or.inl ⟨.infiniteIdentifier, mapM_eq_error_iff.mpr ?_, holds⟩
      exact ⟨before, _, after, rfl, readable, ofRow_of_infinite infinite⟩

end Enumeration

/-- A description cannot be sent: it nests too deep to be written down, a number in it is not finite,
or a text is not encodable. -/
def Converter.IsUnwritable (limits : Limits) (description : Json) : Prop :=
  description.isNull = false ∧
    (limits.sends description = false ∨ description.isFinite = false ∨
      Utf8.encode? (description.write .dense) = none)

theorem Converter.among_undeclared_encode (limits : Limits) (description : Json) :
    Among isUndeclared (Converter.encode limits description) ↔
      Converter.IsUnwritable limits description := by
  unfold Converter.encode Converter.IsUnwritable
  cases description.isNull with
  | true => exact iff_of_false (Failure.not_among_ok none) fun unwritable => nomatch unwritable.1
  | false =>
    cases limits.sends description with
    | false => simp [Failure.among_error, isUndeclared, Failure.isDeclared]
    | true =>
      cases description.isFinite with
      | false => simp [Failure.among_error, isUndeclared, Failure.isDeclared]
      | true =>
        cases Utf8.encode? (description.write .dense) <;>
          simp [Failure.among_error, Failure.not_among_ok, isUndeclared, Failure.isDeclared]

theorem Converter.not_among_unavailable_encode (limits : Limits) (description : Json) :
    ¬ Among isUnavailable (Converter.encode limits description) := by
  unfold Converter.encode
  cases description.isNull with
  | true => exact Failure.not_among_ok none
  | false =>
    cases limits.sends description with
    | false => simp [Failure.among_error, isUnavailable]
    | true =>
      cases description.isFinite with
      | false => simp [Failure.among_error, isUnavailable]
      | true =>
        cases Utf8.encode? (description.write .dense) <;>
          simp [Failure.among_error, Failure.not_among_ok, isUnavailable]

/-- What is converted to no document is malformed; a document fails abruptly exactly if there is no
room to copy what its correction copies. -/
theorem Source.among_corrected {σ : Type} {kind : Failure → Bool} (abrupt : IsAbrupt kind)
    (source : Source σ) (room : Room) (converted : Json) :
    Among kind (source.corrected room converted) ↔
      (∃ document, Document.ofJson converted = .valid document ∧
        document.copied.all room.copies = false) ∧ kind .tooDeep = true := by
  unfold Source.corrected Document.ofConverted
  cases Document.ofJson converted with
  | invalid issues => exact iff_of_false (Failure.not_among_malformed abrupt _) nofun
  | valid document =>
    show Among kind (document.correctWithin room source.connection.servers) ↔ _
    unfold Document.correctWithin
    cases copied : document.copied.all room.copies with
    | true =>
      refine iff_of_false (Failure.not_among_ok _) ?_
      rintro ⟨⟨_, same, uncopied⟩, _⟩
      cases same
      exact Bool.false_ne_true (uncopied.symm.trans copied)
    | false =>
      rw [if_neg Bool.false_ne_true, Failure.among_error]
      exact (and_iff_right ⟨document, rfl, copied⟩).symm

/-! ### Exchanges -/

section Exchanges

variable {σ : Type} (source : Source σ) (converter : Converter σ) (room : Room)

/-- What becomes of an exchange, apart from what it yields. -/
def Exchange.outcome (exchange : Exchange) : Except Failure Unit :=
  match exchange.inquiry with
  | .description => do
    let description ← source.descriptionIn exchange.reply
    discard (Converter.encode converter.limits description)
  | .conversion _ => discard (source.documentIn converter room exchange.reply)
  | .tableList => (source.tableNamesIn exchange.reply).ending
  | .columnList table => (source.columnsIn table exchange.reply).ending
  | .enumeration name => discard (source.enumerationIn name exchange.reply)

/-- The body of an answer to an inquiry is one that nothing provides for: JSON that nests too deep for
what is read, a description that cannot be sent, a document of which an operation cannot be copied,
markup that names a charset it cannot be read in, or rows of which one has an infinite identifier. -/
def Inquiry.Overlooks (answer : Http.Answer) : Inquiry → Prop
  | .description =>
    Json.readBody answer.body source.limits.description = .error (.unreadable .tooDeep) ∨
      ∃ description, Json.readBody answer.body source.limits.description = .ok description ∧
        Converter.IsUnwritable converter.limits description
  | .conversion _ =>
    Json.readBody answer.body converter.limits.converted = .error (.unreadable .tooDeep) ∨
      ∃ converted document, Json.readBody answer.body converter.limits.converted = .ok converted ∧
        Document.ofJson converted = .valid document ∧ document.copied.all room.copies = false
  | .tableList | .columnList _ => Source.IsInOtherCharset answer
  | .enumeration name =>
    Json.readBody answer.body source.limits.rows = .error (.unreadable .tooDeep) ∨
      ∃ rows, Json.readBody answer.body source.limits.rows = .ok rows ∧
        Enumeration.HasInfiniteIdentifier name rows

/-- Nothing provides for an exchange: its inquiry has no address, or the reply is a success whose body
is overlooked. -/
def Exchange.IsOverlooked (exchange : Exchange) : Prop :=
  (Http.Url.objection? (exchange.inquiry.request (Addresses.of source converter)).url).isSome ∨
    ∃ answer, exchange.reply.accepted? = some answer ∧
      exchange.inquiry.Overlooks source converter room answer

/-- The reply to an exchange is whole, and if nobody was asked it is the address that is to blame. -/
structure Exchange.IsWhole (exchange : Exchange) : Prop where
  reply : exchange.reply.IsWhole
  unaddressed : exchange.reply.isUnaddressed =
    (Http.Url.objection? (exchange.inquiry.request (Addresses.of source converter)).url).isSome

variable {source converter room} {exchange : Exchange}

theorem among_discard {α : Type} {kind : Failure → Bool} {outcome : Except Failure α} :
    Among kind (discard outcome) ↔ Among kind outcome := by
  cases outcome with
  | ok value => exact iff_of_false (Failure.not_among_ok ()) (Failure.not_among_ok value)
  | error failure => exact Failure.among_error.trans Failure.among_error.symm

/-- An exchange ends with something unavailable exactly if its reply is a refusal. -/
theorem Exchange.among_unavailable_outcome (whole : exchange.reply.IsWhole) :
    Among isUnavailable (exchange.outcome source converter room) ↔
      exchange.reply.isRefusal = true := by
  obtain ⟨inquiry, reply⟩ := exchange
  cases inquiry with
  | description =>
    refine Http.Reply.among_unavailable_json_bind whole fun description => ?_
    rw [among_discard]
    exact Converter.not_among_unavailable_encode converter.limits description
  | conversion =>
    refine among_discard.trans (Http.Reply.among_unavailable_json_bind whole fun converted fails => ?_)
    exact nomatch ((source.among_corrected Failure.isAbrupt_isUnavailable room converted).mp fails).2
  | tableList => exact Source.among_unavailable_elementsIn whole
  | columnList => exact Source.among_unavailable_elementsIn whole
  | enumeration name =>
    refine among_discard.trans (Http.Reply.among_unavailable_json_bind whole fun rows fails => ?_)
    exact nomatch ((Enumeration.among_ofJson Failure.isAbrupt_isUnavailable name rows).mp fails).2

/-- An exchange ends with an undeclared failure exactly if it is overlooked. -/
theorem Exchange.among_undeclared_outcome (whole : exchange.IsWhole source converter) :
    Among isUndeclared (exchange.outcome source converter room) ↔
      exchange.IsOverlooked source converter room := by
  obtain ⟨inquiry, reply⟩ := exchange
  obtain ⟨whole, unaddressed⟩ := whole
  unfold Exchange.IsOverlooked
  rw [← unaddressed]
  cases inquiry with
  | description =>
    refine (Http.Reply.among_undeclared_json_bind whole).trans ?_
    simp only [among_discard, Converter.among_undeclared_encode]
    exact Iff.rfl
  | conversion =>
    refine among_discard.trans ((Http.Reply.among_undeclared_json_bind whole).trans ?_)
    simp only [source.among_corrected Failure.isAbrupt_isUndeclared room,
      show isUndeclared .tooDeep = true from rfl, and_true, Inquiry.Overlooks,
      exists_and_left]
  | tableList => exact Source.among_undeclared_elementsIn whole
  | columnList => exact Source.among_undeclared_elementsIn whole
  | enumeration name =>
    refine among_discard.trans ((Http.Reply.among_undeclared_json_bind whole).trans ?_)
    simp only [Enumeration.among_ofJson Failure.isAbrupt_isUndeclared,
      show isUndeclared .infiniteIdentifier = true from rfl, and_true]
    exact Iff.rfl

/-- A list that is exchanged and fails abruptly has delivered nothing. -/
theorem Source.items_of_among {kind : Failure → Bool} (abrupt : IsAbrupt kind) {table : Text}
    {reply : Http.Reply} (whole : reply.IsWhole) :
    (Among kind (source.tableNamesIn reply).ending → (source.tableNamesIn reply).items = []) ∧
      (Among kind (source.columnsIn table reply).ending →
        (source.columnsIn table reply).items = []) :=
  ⟨fun fails => congrArg (List.map _) (Source.items_elementsIn abrupt whole fails),
    fun fails => congrArg (List.map _) (Source.items_elementsIn abrupt whole fails)⟩

end Exchanges

end ApiDoc
