/-
This file proves which failures a run can have where everything that is asked for is answered. A run
fails because something is unavailable exactly if a reply is a refusal, and all its failures are
declared exactly if no exchange is overlooked and what was composed can be written down. What a server
responds and how an export ends follow.
-/
import ApiDoc.Export.Run
import ApiDoc.Proofs.ModelsText
import ApiDoc.Proofs.UnusableReplies
import ApiDoc.Server.Basic

namespace ApiDoc

open Exchanges (Lead)
open Failure (Among IsAbrupt isUnavailable isUndeclared)

/-! ### The first failure of several -/

namespace Failure

variable {α : Type} {kind : Failure → Bool}

theorem any_of? (outcome : Except Failure α) :
    (Failure.of? outcome).any kind = true ↔ Among kind outcome := by
  cases outcome with
  | ok value => exact iff_of_false Bool.false_ne_true (not_among_ok value)
  | error failure => exact among_error.symm

theorem any_or (first second : Option Failure) :
    (first.or second).any kind = true ↔
      first.any kind = true ∨ first = none ∧ second.any kind = true := by
  cases first <;> simp

/-- Where only the last of several may fail, the first failure is that of any. -/
theorem any_findSome? {items : List α} {failure? : α → Option Failure}
    (stops : ∀ item ∈ items.dropLast, failure? item = none) :
    (items.findSome? failure?).any kind = true ↔
      ∃ item ∈ items, (failure? item).any kind = true := by
  rcases List.eq_nil_or_concat items with rfl | ⟨before, last, rfl⟩
  · exact iff_of_false Bool.false_ne_true nofun
  · rw [List.concat_eq_append, List.dropLast_concat] at stops
    have passed : before.findSome? failure? = none := List.findSome?_eq_none_iff.mpr stops
    rw [List.concat_eq_append, List.findSome?_append, passed, Option.none_or,
      List.findSome?_singleton]
    constructor
    · exact fun fails => ⟨last, List.mem_append_right _ List.mem_cons_self, fails⟩
    · rintro ⟨item, member, fails⟩
      rcases List.mem_append.mp member with earlier | final
      · rw [stops item earlier] at fails
        cases fails
      · rwa [List.mem_singleton.mp final] at fails

end Failure

/-! ### Columns that cannot be read -/

namespace Column

/-- A column that cannot be read is malformed. -/
theorem not_any_failure? {kind : Failure → Bool} (abrupt : IsAbrupt kind) (columns : List Column) :
    ¬ (columns.findSome? failure?).any kind = true := by
  intro fails
  obtain ⟨failure, first, holds⟩ := (Option.any_eq_true _ _).mp fails
  obtain ⟨column, _, fails⟩ := List.exists_of_findSome?_eq_some first
  unfold failure? at fails
  split at fails
  · cases fails
  · rename_i unread
    cases fails
    obtain ⟨cause, rfl⟩ := applyAttributes_malformed unread
    exact Bool.false_ne_true ((abrupt cause).symm.trans holds)

end Column

/-! ### The replies of a run -/

section Runs

variable {σ : Type} {source : Source σ} {converter : Converter σ} {room : Room}

/-- Where all that is asked for is answered, every exchange of a run is whole. -/
theorem Exchanges.Lead.isWhole (answers : source.remote.Answers)
    (converts : converter.remote.Answers) {exchanges : Exchanges} {before after : Http.Session σ}
    (leads : Lead source converter exchanges before after) :
    ∀ exchange ∈ exchanges, exchange.IsWhole source converter := by
  induction exchanges generalizing before with
  | nil => exact fun _ member => nomatch member
  | cons exchange rest inductionHypothesis =>
    obtain ⟨replied, leadsRest⟩ := leads
    refine List.forall_mem_cons.mpr ⟨?_, inductionHypothesis leadsRest⟩
    have asked : (Exchanges.remote source converter exchange.inquiry).Answers := by
      cases exchange.inquiry with
      | conversion => exact converts
      | description | tableList | columnList | enumeration => exact answers
    constructor
    · rw [← replied]
      exact Http.isWhole_send asked _ before
    · rw [← replied]
      exact Http.isUnaddressed_send asked _ before

/-! ### Failures of visits and surveys -/

variable {kind : Failure → Bool}

theorem Source.any_queryFailure? (source : Source σ) (converter : Converter σ) (room : Room)
    (query : Text × Http.Reply) :
    (source.queryFailure? query).any kind = true ↔
      Among kind ((Exchange.ofQuery query).outcome source converter room) :=
  (Failure.any_of? _).trans among_discard.symm

/-- Where the list of columns fails abruptly nothing else is there to fail. -/
theorem Visit.failureAmong?_of_among (abrupt : IsAbrupt kind) {visit : Visit} {known : List Text}
    (asks : visit.Asks source known) (whole : visit.columnList.IsWhole)
    (fails : Among kind (visit.columns source).ending) :
    source.failureAmong? visit.queries (visit.counted source) = none := by
  have undelivered : (visit.columns source).items = [] :=
    (Source.items_of_among abrupt whole).2 fails
  have uncounted : visit.counted source = [] := congrArg (Column.counted visit.table) undelivered
  have unasked : visit.queries = [] := by
    refine List.map_eq_nil_iff.mp (List.prefix_nil.mp (asks.inOrder.trans ?_))
    rw [uncounted]
    exact ⟨[], rfl⟩
  rw [uncounted, unasked]
  rfl

/-- A visit fails abruptly exactly if one of its exchanges does. -/
theorem Visit.any_failure? (abrupt : IsAbrupt kind) {visit : Visit} {known : List Text}
    (asks : visit.Asks source known) (whole : visit.columnList.IsWhole) :
    (visit.failure? source).any kind = true ↔
      ∃ exchange ∈ visit.exchanges, Among kind (exchange.outcome source converter room) := by
  have ofColumns : Among kind (visit.columns source).ending ↔
      Among kind (Exchange.outcome source converter room ⟨.columnList visit.table, visit.columnList⟩) :=
    Iff.rfl
  have ofQueries : (visit.queries.findSome? source.queryFailure?).any kind = true ↔
      ∃ exchange ∈ visit.queries.map .ofQuery,
        Among kind (Exchange.outcome source converter room exchange) := by
    rw [Failure.any_findSome? asks.stops]
    simp only [List.mem_map, exists_exists_and_eq_and, source.any_queryFailure? converter room]
  unfold Visit.failure? Visit.exchanges
  rw [List.exists_mem_cons_iff, ← ofColumns, ← ofQueries, Failure.any_or, Failure.any_of?]
  constructor
  · rintro (among | ⟨_, ending⟩)
    · rcases (Failure.any_or _ _).mp among with query | ⟨_, column⟩
      · exact Or.inr query
      · exact absurd column (Column.not_any_failure? abrupt _)
    · exact Or.inl ending
  · rintro (ending | query)
    · exact Or.inr ⟨Visit.failureAmong?_of_among abrupt asks whole ending, ending⟩
    · exact Or.inl ((Failure.any_or _ _).mpr (Or.inl query))

/-- A survey fails abruptly exactly if one of its exchanges does. -/
theorem Survey.any_failure? (abrupt : IsAbrupt kind) {survey : Survey}
    (disciplined : survey.IsDisciplined source)
    (whole : ∀ exchange ∈ survey.exchanges, exchange.IsWhole source converter) :
    (survey.failure? source).any kind = true ↔
      ∃ exchange ∈ survey.exchanges, Among kind (exchange.outcome source converter room) := by
  have ofTables : Among kind (survey.tableNames source).ending ↔
      Among kind (Exchange.outcome source converter room ⟨.tableList, survey.tableList⟩) := Iff.rfl
  have wholeVisits : ∀ visit ∈ survey.visits, visit.columnList.IsWhole := by
    intro visit member
    refine (whole ⟨.columnList visit.table, visit.columnList⟩ (List.mem_cons_of_mem _ ?_)).reply
    exact List.mem_flatMap.mpr ⟨visit, member, List.mem_cons_self⟩
  have ofVisits : (survey.visits.findSome? (·.failure? source)).any kind = true ↔
      ∃ exchange ∈ survey.visits.flatMap (·.exchanges),
        Among kind (Exchange.outcome source converter room exchange) := by
    rw [Failure.any_findSome? disciplined.stops]
    have ofVisit : ∀ visit ∈ survey.visits, (visit.failure? source).any kind = true ↔
        ∃ exchange ∈ visit.exchanges, Among kind (exchange.outcome source converter room) := by
      intro visit member
      obtain ⟨earlier, later, parts⟩ := List.append_of_mem member
      exact Visit.any_failure? abrupt (disciplined.asks _ _ _ parts) (wholeVisits visit member)
    constructor
    · rintro ⟨visit, member, fails⟩
      obtain ⟨exchange, among, exchangeFails⟩ := (ofVisit visit member).mp fails
      exact ⟨exchange, List.mem_flatMap.mpr ⟨visit, member, among⟩, exchangeFails⟩
    · rintro ⟨exchange, among, exchangeFails⟩
      obtain ⟨visit, member, among⟩ := List.mem_flatMap.mp among
      exact ⟨visit, member, (ofVisit visit member).mpr ⟨exchange, among, exchangeFails⟩⟩
  unfold Survey.failure? Survey.exchanges
  rw [List.exists_mem_cons_iff, ← ofTables, ← ofVisits, Failure.any_or, Failure.any_of?]
  constructor
  · rintro (visits | ⟨_, ending⟩)
    · exact Or.inr visits
    · exact Or.inl ending
  · rintro (ending | visits)
    · -- a list that delivers no table leaves nothing to visit
      have undelivered : (survey.tableNames source).items = [] :=
        (@Source.items_of_among _ source _ abrupt [] _ (whole _ List.mem_cons_self).reply).1 ending
      have unvisited : survey.visits = [] := by
        refine List.map_eq_nil_iff.mp (List.prefix_nil.mp (disciplined.tablesInOrder.trans ?_))
        rw [undelivered]
        exact ⟨[], rfl⟩
      rw [unvisited]
      exact Or.inr ⟨rfl, ending⟩
    · exact Or.inl visits

/-! ### Failures of whole runs -/

theorem Exchange.outcome_of_undescribed {reply : Http.Reply} {failure : Failure}
    (fails : source.descriptionIn reply = .error failure) :
    Exchange.outcome source converter room ⟨.description, reply⟩ = .error failure := by
  unfold Exchange.outcome
  dsimp only
  rw [fails]
  rfl

theorem Exchange.outcome_of_described {reply : Http.Reply} {description : Json}
    (described : source.descriptionIn reply = .ok description) :
    Exchange.outcome source converter room ⟨.description, reply⟩ =
      discard (Converter.encode converter.limits description) := by
  unfold Exchange.outcome
  dsimp only
  rw [described]
  rfl

/-- Documentation fails abruptly to be composed exactly if one of its exchanges does. -/
theorem Source.Course.any_failure? (abrupt : IsAbrupt kind) {exchanges : Exchanges}
    {failure? : Option Failure} (course : source.Course converter room exchanges failure?)
    (whole : ∀ exchange ∈ exchanges, exchange.IsWhole source converter) :
    failure?.any kind = true ↔
      ∃ exchange ∈ exchanges, Among kind (exchange.outcome source converter room) := by
  have ofConversion (body? : Option Bytes) (answer : Http.Reply) :
      Among kind (Exchange.outcome source converter room ⟨.conversion body?, answer⟩) ↔
        Among kind (source.documentIn converter room answer) := among_discard
  have ofDescription {reply : Http.Reply} {description : Json} {body? : Option Bytes}
      (described : source.descriptionIn reply = .ok description)
      (encoded : Converter.encode converter.limits description = .ok body?) :
      ¬ Among kind (Exchange.outcome source converter room ⟨.description, reply⟩) := by
    rw [Exchange.outcome_of_described described, among_discard, encoded]
    exact Failure.not_among_ok _
  cases course with
  | undescribed fails =>
    rw [List.exists_mem_cons_iff, Exchange.outcome_of_undescribed fails, Failure.among_error]
    exact (or_iff_left nofun).symm
  | unencoded described fails =>
    rw [List.exists_mem_cons_iff, Exchange.outcome_of_described described, among_discard, fails,
      Failure.among_error]
    exact (or_iff_left nofun).symm
  | unconverted described encoded fails =>
    rw [List.exists_mem_cons_iff, List.exists_mem_cons_iff, ofConversion, fails,
      Failure.among_error, or_iff_right (ofDescription described encoded)]
    exact (or_iff_left nofun).symm
  | surveyed described encoded converted disciplined =>
    rw [List.exists_mem_cons_iff, List.exists_mem_cons_iff, ofConversion, converted,
      or_iff_right (ofDescription described encoded), or_iff_right (Failure.not_among_ok _)]
    refine Survey.any_failure? abrupt disciplined fun exchange member => ?_
    exact whole exchange (List.mem_cons_of_mem _ (List.mem_cons_of_mem _ member))

/-- What was composed fails to be written down where there is no room for it. -/
theorem Document.among_serializeWithin (room : Room) (composed : Json) :
    Among kind (Document.serializeWithin room composed) ↔
      room.writes composed = false ∧ kind .tooDeep = true := by
  unfold Document.serializeWithin
  cases room.writes composed with
  | true => exact iff_of_false (Failure.not_among_ok _) nofun
  | false =>
    rw [if_neg Bool.false_ne_true, Failure.among_error]
    exact (and_iff_right rfl).symm

end Runs

/-! ### Encodable texts -/

namespace Text

/-- A text in ASCII holds no surrogate. -/
theorem isSome_toChars?_of_isAscii {text : Text} (ascii : text.isAscii = true) :
    text.toChars?.isSome = true := by
  induction text with
  | nil => rfl
  | cons point rest inductionHypothesis =>
    obtain ⟨asciiPoint, asciiRest⟩ := List.forall_mem_cons.mp ((isAscii_iff _).mp ascii)
    cases point with
    | surrogate index =>
      have small : 0xD800 + index.val < 0x80 := of_decide_eq_true asciiPoint
      omega
    | char character =>
      have remaining := inductionHypothesis ((isAscii_iff rest).mpr asciiRest)
      unfold toChars? at remaining ⊢
      rw [List.mapM_cons]
      obtain ⟨characters, found⟩ := Option.isSome_iff_exists.mp remaining
      rw [found]
      rfl

end Text

/-- A models text can be encoded. -/
theorem Source.isSome_toChars?_models {σ : Type} (source : Source σ) (session : Http.Session σ)
    (text : Text) (succeeds : (source.models.perform session).1 = .ok text) :
    text.toChars?.isSome = true := by
  rw [perform_models] at succeeds
  dsimp only at succeeds
  obtain ⟨tables, _, rfl⟩ := map_eq_ok_iff.mp succeeds
  exact Text.isSome_toChars?_of_isAscii (isAscii_modelPieces tables)

/-! ### Responses and exports -/

/-- A compilation is answered as a success or as a failure of others exactly if its failure is
declared, or its text can be encoded. -/
theorem Server.Response.status_ofCompiled (outcome : Except Failure Text) :
    ((ofCompiled outcome).status = 200 ∨ (ofCompiled outcome).status = 502) ↔
      (∀ failure, outcome = .error failure → failure.isDeclared = true) ∧
        ∀ text, outcome = .ok text → text.toChars?.isSome = true := by
  cases outcome with
  | error failure =>
    cases failure <;>
      simp [ofCompiled, refusal, json, internalError, plain, Failure.isDeclared]
  | ok text =>
    cases encodable : text.toChars?.isSome <;>
      simp [ofCompiled, encodable, json, internalError, plain]

/-- So does an export end with the code of a success or of a failure, if it can write to its path and
print that it did. -/
theorem Export.ending_conclude {platform : Platform} {disk : Disk} {path : Path}
    (writable : platform.obstacle? disk path = none)
    (printable : platform.unprintable? path.wroteLine = none) (outcome : Except Failure Text) :
    ((conclude disk path outcome platform).ending = .exit 0 ∨
        (conclude disk path outcome platform).ending = .exit 1) ↔
      (∀ failure, outcome = .error failure → failure.isDeclared = true) ∧
        ∀ text, outcome = .ok text → text.toChars?.isSome = true := by
  cases outcome with
  | error failure => cases declared : failure.isDeclared <;> simp [conclude, declared]
  | ok text =>
    cases encodable : text.toChars? <;>
      simp [conclude, save, writable, printable, Utf8.encode?, encodable]

/-! ### What exchanges account for -/

/-- A run is provided for: none of its exchanges is overlooked, and what it composes, if anything, can
be written down. -/
def Exchanges.AreProvidedFor {σ : Type} (source : Source σ) (converter : Converter σ) (room : Room)
    (exchanges : Exchanges) (composed? : Option Json) : Prop :=
  (∀ exchange ∈ exchanges, ¬ exchange.IsOverlooked source converter room) ∧
    ∀ composed ∈ composed?, room.writes composed = true

/-- Exchanges account for the outcome of a run: something is unavailable exactly if a reply is a
refusal, and all failures are declared exactly if the run is provided for. Where it is, and the text if
there is one can be encoded, a server responds with 200 or 502, and an export that can write to its
path and print that it did exits with 0 or 1; else they do neither. -/
structure Exchanges.AccountFor {σ : Type} (source : Source σ) (converter : Converter σ) (room : Room)
    (exchanges : Exchanges) (composed? : Option Json) (outcome : Except Failure Text) : Prop where
  unavailable : Among isUnavailable outcome ↔
    ∃ exchange ∈ exchanges, exchange.reply.isRefusal = true
  declared : (∀ failure, outcome = .error failure → failure.isDeclared = true) ↔
    AreProvidedFor source converter room exchanges composed?
  responds : ((Server.Response.ofCompiled outcome).status = 200 ∨
      (Server.Response.ofCompiled outcome).status = 502) ↔
    AreProvidedFor source converter room exchanges composed? ∧
      ∀ text, outcome = .ok text → text.toChars?.isSome = true
  exits : ∀ (platform : Export.Platform) (disk : Export.Disk) (path : Export.Path),
    platform.obstacle? disk path = none → platform.unprintable? path.wroteLine = none →
    (((Export.conclude disk path outcome platform).ending = .exit 0 ∨
        (Export.conclude disk path outcome platform).ending = .exit 1) ↔
      AreProvidedFor source converter room exchanges composed? ∧
        ∀ text, outcome = .ok text → text.toChars?.isSome = true)

theorem Failure.not_among_undeclared_iff {α : Type} (outcome : Except Failure α) :
    ¬ Among isUndeclared outcome ↔
      ∀ failure, outcome = .error failure → failure.isDeclared = true := by
  cases outcome with
  | ok value => exact iff_of_true (not_among_ok value) nofun
  | error failure => simp [among_error, isUndeclared]

/-- Exchanges account for an outcome that fails abruptly exactly if one of them does, or if there is no
room to write down what was composed. -/
theorem Exchanges.accountFor_of_among {σ : Type} {source : Source σ} {converter : Converter σ}
    {room : Room} {exchanges : Exchanges} {composed? : Option Json} {outcome : Except Failure Text}
    (whole : ∀ exchange ∈ exchanges, exchange.IsWhole source converter)
    (fails : ∀ {kind : Failure → Bool}, IsAbrupt kind →
      (Among kind outcome ↔
        (∃ exchange ∈ exchanges, Among kind (exchange.outcome source converter room)) ∨
          ∃ composed ∈ composed?, room.writes composed = false ∧ kind .tooDeep = true)) :
    AccountFor source converter room exchanges composed? outcome := by
  have declared : (∀ failure, outcome = .error failure → failure.isDeclared = true) ↔
      AreProvidedFor source converter room exchanges composed? := by
    rw [← Failure.not_among_undeclared_iff, fails Failure.isAbrupt_isUndeclared, not_or]
    unfold AreProvidedFor
    refine and_congr ?_ ?_
    · simp only [not_exists, not_and]
      refine forall₂_congr fun exchange member => not_congr ?_
      exact Exchange.among_undeclared_outcome (whole exchange member)
    · simp [isUndeclared, Failure.isDeclared]
  constructor
  · rw [fails Failure.isAbrupt_isUnavailable, or_iff_left]
    · refine exists_congr fun exchange => and_congr_right fun member => ?_
      exact Exchange.among_unavailable_outcome (whole exchange member).reply
    · rintro ⟨_, -, -, unavailable⟩
      cases unavailable
  · exact declared
  · rw [Server.Response.status_ofCompiled, declared]
  · intro platform disk path writable printable
    rw [Export.ending_conclude writable printable, declared]

/-! ### A number without bound -/

namespace Source

/-- A service that lists the same two names of tables and of columns, of which one column draws from
an enumeration. The identifier of its one row is a number that is read as infinity. -/
def unbounded : Source Unit where
  connection := { productionUrl := "http://host/services", developmentUrl := "http://host/dev" }
  environment := .production
  remote := fun request state => match request.method with
    | .get => (.ok (.success "<list><Room/><KindEnum/></list>"), state)
    | .post => (.ok (.success "[\x7b\"enumId\": 1e400, \"description\": \"A\"\x7d]"), state)

/-- A converter that answers with nothing. -/
def unboundedConverter : Converter Unit where
  url := "http://host/convert"
  remote := fun _ state => (.ok (.success ""), state)

theorem answers_unbounded : unbounded.remote.Answers := by
  intro request state
  obtain ⟨method, url, accept⟩ := request
  cases method with
  | get => exact ⟨_, rfl, rfl⟩
  | post => exact ⟨_, rfl, rfl⟩

theorem models_unbounded :
    (unbounded.models.perform { remote := () }).1 = .error .infiniteIdentifier := by
  have fails : Failure.of? (unbounded.models.perform { remote := () }).1 =
      some .infiniteIdentifier := by decide +kernel
  cases outcome : (unbounded.models.perform { remote := () }).1 with
  | ok text => rw [outcome] at fails; cases fails
  | error failure => rw [outcome] at fails; exact congrArg Except.error (Option.some_inj.mp fails)

/-! ### Declared failures -/

/-- Where everything that is asked for is answered, a run fails because something is unavailable
exactly if a reply is a refusal, and every other failure of it is a malformation exactly if it is
provided for. It is not if an exchange is overlooked: there is no address to ask at, JSON nests too
deep for what is read, a description cannot be sent to the converter, an operation of a document cannot
be copied, markup names a charset that it cannot be read in, or one of the rows has an infinite
identifier. Nor is it if the composed document cannot be written down. The exchanges are those of the
run, in order, so an overlooked one is the last; and a models text can always be encoded. -/
theorem failures_declared_iff {σ : Type} (source : Source σ) (converter : Converter σ) (room : Room)
    (session : Http.Session σ) (answers : source.remote.Answers)
    (converts : converter.remote.Answers) :
    (∃ exchanges,
      source.Course converter room exchanges
        (Failure.of? ((source.composition converter room).perform session).1) ∧
      Lead source converter exchanges session
        ((source.documentation converter room).perform session).2 ∧
      Exchanges.AccountFor source converter room exchanges
        ((source.composition converter room).perform session).1.toOption
        ((source.documentation converter room).perform session).1) ∧
    (∃ survey : Survey,
      survey.IsDisciplined source ∧
      Lead source converter survey.exchanges session (source.models.perform session).2 ∧
      Exchanges.AccountFor source converter room survey.exchanges none
        (source.models.perform session).1) ∧
    ∀ text, (source.models.perform session).1 = .ok text → text.toChars?.isSome = true := by
  refine ⟨?_, ?_, source.isSome_toChars?_models session⟩
  · obtain ⟨exchanges, course, leads⟩ := exists_course source converter room session
    have whole := leads.isWhole answers converts
    rw [perform_documentation_within]
    refine ⟨exchanges, course, leads, Exchanges.accountFor_of_among whole fun abrupt => ?_⟩
    rw [Failure.among_bind, ← Failure.any_of?, course.any_failure? abrupt whole]
    refine or_congr_right ?_
    simp only [Document.among_serializeWithin]
    cases ((source.composition converter room).perform session).1 <;> simp [Except.toOption]
  · obtain ⟨survey, disciplined, leads, fails⟩ := exists_models_survey source converter session
    have whole := leads.isWhole answers converts
    refine ⟨survey, disciplined, leads, Exchanges.accountFor_of_among whole fun abrupt => ?_⟩
    rw [← Failure.any_of?, fails, Survey.any_failure? abrupt disciplined whole]
    refine (or_iff_left ?_).symm
    rintro ⟨_, composed, _⟩
    cases composed

/-- The failures of a service with an infinite identifier are accounted for. -/
theorem failures_declared_iff_unbounded :
    unbounded.remote.Answers ∧ unboundedConverter.remote.Answers ∧
      (∃ exchanges,
        unbounded.Course unboundedConverter {} exchanges
          (Failure.of? ((unbounded.composition unboundedConverter).perform { remote := () }).1) ∧
        Lead unbounded unboundedConverter exchanges { remote := () }
          ((unbounded.documentation unboundedConverter).perform { remote := () }).2 ∧
        Exchanges.AccountFor unbounded unboundedConverter {} exchanges
          ((unbounded.composition unboundedConverter).perform { remote := () }).1.toOption
          ((unbounded.documentation unboundedConverter).perform { remote := () }).1) ∧
      (∃ survey : Survey,
        survey.IsDisciplined unbounded ∧
        Lead unbounded unboundedConverter survey.exchanges { remote := () }
          (unbounded.models.perform { remote := () }).2 ∧
        Exchanges.AccountFor unbounded unboundedConverter {} survey.exchanges none
          (unbounded.models.perform { remote := () }).1) ∧
      ∀ text, (unbounded.models.perform { remote := () }).1 = .ok text →
        text.toChars?.isSome = true :=
  have converts : unboundedConverter.remote.Answers := fun _ _ => ⟨.success "", rfl, rfl⟩
  ⟨answers_unbounded, converts,
    failures_declared_iff unbounded unboundedConverter {} { remote := () } answers_unbounded converts⟩

/-- It answers everything as a success; still its models fail with a failure that is not declared, to
which a server responds with 500, and which ends an export out of order. -/
theorem unbounded_not_declared :
    unbounded.remote.Answers ∧
      (unbounded.models.perform { remote := () }).1 = .error .infiniteIdentifier ∧
      Failure.infiniteIdentifier.isDeclared = false ∧
      (Server.Response.ofCompiled (unbounded.models.perform { remote := () }).1).status = 500 ∧
      ∀ disk path platform, (Export.conclude disk path
        (unbounded.models.perform { remote := () }).1 platform).ending =
          .failed .infiniteIdentifier := by
  rw [models_unbounded]
  exact ⟨answers_unbounded, rfl, rfl, rfl, fun _ _ _ => rfl⟩

end Source

end ApiDoc
