/-
This file proves what a whole run asks for, whatever the other side replies. The documentation of a
service takes its description and a conversion; after that, as for the models alone, the list of
tables is asked for, and every table that it delivers is visited once. An enumeration is queried when
the first table that draws from it is visited and never again, and the first failure ends the run.
-/
import ApiDoc.Proofs.Compilation
import ApiDoc.Proofs.Visits

namespace ApiDoc

variable {σ α : Type}

open Exchanges (Lead send)

/-! ### Visits in sequence -/

/-- Visits proceed where some enumerations are known: each asks for what neither was known nor is
drawn from by a table before it, and only the last may fail. -/
def Visit.Proceed (source : Source σ) : List Text → List Visit → Prop
  | _, [] => True
  | known, visit :: rest =>
    visit.Asks source known ∧ (rest ≠ [] → visit.failure? source = none) ∧
      Proceed source (known ++ visit.drawn source) rest

/-- Tables that are not seen yet are visited in order, up to the first visit that fails. -/
theorem exists_visits (source : Source σ) (converter : Converter σ) (ending : Except Failure Unit)
    (names seen : List Text) {known : List Text} (state : Cached (Http.Session σ))
    (knows : state.cache.Knows known) :
    ∃ visits : List Visit, Visit.Proceed source known visits ∧
      visits.map (·.table) <+: newNames seen names ∧
      ((∀ visit ∈ visits, visit.failure? source = none) →
        visits.map (·.table) = newNames seen names) ∧
      Lead source converter (visits.flatMap (·.exchanges)) state.rest
        (source.tablesFrom ending none seen names state).2.rest ∧
      Failure.of? (source.tablesFrom ending none seen names state).1.ending =
        (visits.findSome? (·.failure? source)).or (Failure.of? ending) := by
  induction names generalizing seen known state with
  | nil => exact ⟨[], trivial, List.nil_prefix, fun _ => rfl, rfl, rfl⟩
  | cons name rest inductionHypothesis =>
    by_cases member : name ∈ seen
    · rw [Source.tablesFrom, if_pos member, newNames_cons_of_mem member]
      exact inductionHypothesis seen state knows
    · obtain ⟨visit, named, asks, leads, fails, knowsAfter⟩ :=
        exists_visit source converter name knows
      rw [source.tablesFrom_cons ending member, newNames_cons_of_not_mem member]
      generalize (source.buildTable name).perform state = built at *
      obtain ⟨outcome, after⟩ := built
      cases outcome with
      | error failure =>
        have failed : visit.failure? source = some failure := fails.symm
        refine ⟨[visit], ⟨asks, fun more => absurd rfl more, trivial⟩, ?_, fun succeed => ?_, ?_, ?_⟩
        · rw [List.map_singleton, named]
          exact ⟨_, rfl⟩
        · exact absurd (failed.symm.trans (succeed visit List.mem_cons_self))
            (Option.some_ne_none failure)
        · rw [List.flatMap_singleton]
          exact leads
        · rw [List.findSome?_cons, failed]
          rfl
      | ok table =>
        have succeeded : visit.failure? source = none := fails.symm
        obtain ⟨visits, proceed, inOrder, complete, leadsRest, failsRest⟩ :=
          inductionHypothesis (name :: seen) after (knowsAfter succeeded)
        refine ⟨visit :: visits, ⟨asks, fun _ => succeeded, proceed⟩, ?_, fun succeed => ?_, ?_, ?_⟩
        · rw [List.map_cons, named]
          exact List.cons_prefix_cons.mpr ⟨rfl, inOrder⟩
        · rw [List.map_cons, named, complete fun visit member => succeed visit (.tail _ member)]
        · rw [List.flatMap_cons]
          exact leads.append leadsRest
        · rw [List.findSome?_cons, succeeded]
          exact failsRest

/-! ### What follows for all visits -/

namespace Visit

variable {source : Source σ} {known : List Text} {visits : List Visit}

/-- Each visit of several asks for what neither was known nor is drawn from by those before it. -/
theorem Proceed.asks (proceed : Proceed source known visits) {earlier later : List Visit}
    {visit : Visit} (parts : visits = earlier ++ visit :: later) :
    visit.Asks source (known ++ earlier.flatMap (·.drawn source)) := by
  induction earlier generalizing known visits with
  | nil =>
    subst parts
    rw [List.flatMap_nil, List.append_nil]
    exact proceed.1
  | cons first rest inductionHypothesis =>
    subst parts
    rw [List.flatMap_cons, ← List.append_assoc]
    exact inductionHypothesis proceed.2.2 rfl

/-- Only the last visit may fail. -/
theorem Proceed.stops (proceed : Proceed source known visits) :
    ∀ visit ∈ visits.dropLast, visit.failure? source = none := by
  induction visits generalizing known with
  | nil => exact fun _ member => nomatch member
  | cons first rest inductionHypothesis =>
    cases rest with
    | nil => exact fun _ member => nomatch member
    | cons second others =>
      intro visit member
      rw [List.dropLast_cons_cons, List.mem_cons] at member
      rcases member with rfl | later
      · exact proceed.2.1 (List.cons_ne_nil _ _)
      · exact inductionHypothesis proceed.2.2 visit later

/-- The names that a visit queries. -/
def queried (visit : Visit) : List Text := visit.queries.map (·.1)

theorem Asks.mem {visit : Visit} (asks : visit.Asks source known) {name : Text}
    (member : name ∈ visit.queried) : name ∈ visit.drawn source ∧ name ∉ known := by
  have new := mem_newNames.mp (asks.inOrder.subset member)
  refine ⟨?_, new.2⟩
  exact ((List.takeWhile_prefix _).filterMap _).subset new.1

theorem Asks.nodup {visit : Visit} (asks : visit.Asks source known) : visit.queried.Nodup :=
  (nodup_newNames _ _).sublist asks.inOrder.sublist

theorem Proceed.not_mem (proceed : Proceed source known visits) {name : Text}
    (member : name ∈ visits.flatMap queried) : name ∉ known := by
  induction visits generalizing known with
  | nil => cases member
  | cons first rest inductionHypothesis =>
    rw [List.flatMap_cons, List.mem_append] at member
    rcases member with here | later
    · exact (proceed.1.mem here).2
    · exact fun before => inductionHypothesis proceed.2.2 later (List.mem_append_left _ before)

/-- No enumeration is queried twice. -/
theorem Proceed.nodup (proceed : Proceed source known visits) :
    (visits.flatMap queried).Nodup := by
  induction visits generalizing known with
  | nil => exact List.nodup_nil
  | cons first rest inductionHypothesis =>
    rw [List.flatMap_cons, List.nodup_append]
    refine ⟨proceed.1.nodup, inductionHypothesis proceed.2.2, ?_⟩
    rintro name here other later rfl
    exact proceed.2.2.not_mem later (List.mem_append_right _ (proceed.1.mem here).1)

end Visit

/-! ### Surveys -/

/-- What a run exchanges from the list of tables on. -/
structure Survey where
  tableList : Http.Reply
  visits : List Visit

namespace Survey

variable (source : Source σ) (survey : Survey)

/-- The exchanges of a survey. -/
def exchanges : Exchanges :=
  { inquiry := .tableList, reply := survey.tableList } :: survey.visits.flatMap (·.exchanges)

/-- The names of the tables that are delivered. -/
def tableNames : Feed Text := source.tableNamesIn survey.tableList

/-- The failure of a survey: of a visit, or of the list of tables in the end. -/
def failure? : Option Failure :=
  (survey.visits.findSome? (·.failure? source)).or (Failure.of? (survey.tableNames source).ending)

/-- A survey is disciplined if every delivered table is visited at most once, in the order of first
delivery, and left out only if a visit fails before; if every enumeration is queried at most once, at
the first table that draws from it; and if nothing is asked after a failure. -/
structure IsDisciplined : Prop where
  tablesInOrder : survey.visits.map (·.table) <+: (survey.tableNames source).items.eraseDups
  allTables : (∀ visit ∈ survey.visits, visit.failure? source = none) →
    survey.visits.map (·.table) = (survey.tableNames source).items.eraseDups
  queriedOnce : (survey.visits.flatMap Visit.queried).Nodup
  queriedFirst : ∀ earlier visit later, survey.visits = earlier ++ visit :: later →
    ∀ name ∈ visit.queried,
      name ∈ visit.drawn source ∧ ∀ before ∈ earlier, name ∉ before.drawn source
  asks : ∀ earlier visit later, survey.visits = earlier ++ visit :: later →
    visit.Asks source (earlier.flatMap (·.drawn source))
  stops : ∀ visit ∈ survey.visits.dropLast, visit.failure? source = none

end Survey

/-- The tables of a run are a survey. -/
theorem exists_survey (source : Source σ) (converter : Converter σ) (session : Http.Session σ) :
    ∃ survey : Survey, survey.IsDisciplined source ∧
      Lead source converter survey.exchanges session (source.finish session).2.rest ∧
      Failure.of? (source.finish session).1.ending = survey.failure? source := by
  have asked := Exchanges.tableNames_eq source converter session
  have leadsFirst := Exchanges.lead_send source converter .tableList session
  unfold Source.finish
  rw [Source.tables_eq, asked]
  generalize send source converter .tableList session = sending at *
  obtain ⟨reply, between⟩ := sending
  dsimp only at leadsFirst ⊢
  obtain ⟨visits, proceed, inOrder, complete, leads, fails⟩ := exists_visits source converter
    (source.tableNamesIn reply).ending (source.tableNamesIn reply).items []
    { cache := {}, rest := between } EnumCache.knows_empty
  rw [newNames_nil_known] at inOrder complete
  have disciplined : Survey.IsDisciplined source ⟨reply, visits⟩ := by
    constructor
    · exact inOrder
    · exact complete
    · exact proceed.nodup
    · intro earlier visit later parts name member
      obtain ⟨drawn, new⟩ := (proceed.asks parts).mem member
      refine ⟨drawn, fun before among earlierDrawn => new ?_⟩
      exact List.mem_append_right _ (List.mem_flatMap.mpr ⟨before, among, earlierDrawn⟩)
    · intro earlier visit later parts
      exact proceed.asks parts
    · exact proceed.stops
  refine ⟨⟨reply, visits⟩, disciplined, ?_, ?_⟩
  · exact leadsFirst.append leads
  · rw [fails]
    rfl

/-- A stream that fails in the end is no outcome but that failure. -/
theorem Feed.failure_toExcept (feed : Feed α) :
    Failure.of? feed.toExcept = Failure.of? feed.ending := by
  unfold Feed.toExcept
  cases feed.ending <;> rfl

theorem Failure.of?_map {β : Type} (outcome : Except Failure α) (change : α → β) :
    Failure.of? (outcome.map change) = Failure.of? outcome := by
  cases outcome <;> rfl

/-- Schemas take a survey and no more. -/
theorem exists_schemas_survey (source : Source σ) (converter : Converter σ)
    (session : Http.Session σ) :
    ∃ survey : Survey, survey.IsDisciplined source ∧
      Lead source converter survey.exchanges session
        ((Cached.fresh source.schemas).perform session).2 ∧
      Failure.of? ((Cached.fresh source.schemas).perform session).1 = survey.failure? source := by
  rw [Source.perform_schemas]
  dsimp only
  rw [Failure.of?_map, Feed.failure_toExcept]
  exact exists_survey source converter session

/-- So does the text of the models. -/
theorem exists_models_survey (source : Source σ) (converter : Converter σ)
    (session : Http.Session σ) :
    ∃ survey : Survey, survey.IsDisciplined source ∧
      Lead source converter survey.exchanges session (source.models.perform session).2 ∧
      Failure.of? (source.models.perform session).1 = survey.failure? source := by
  rw [Source.perform_models]
  dsimp only
  rw [Failure.of?_map, Feed.failure_toExcept]
  exact exists_survey source converter session

/-! ### The address that is not selected -/

/-- The connection with another address for the environment that is not the given one. -/
def Connection.withUnselected (connection : Connection) (url : Text) : Environment → Connection
  | .production => { connection with developmentUrl := url }
  | .development => { connection with productionUrl := url }

namespace Source

/-- The source with another address for the environment that is not selected. -/
def withUnselected (source : Source σ) (url : Text) : Source σ :=
  { source with connection := source.connection.withUnselected url source.environment }

variable (source : Source σ) (url : Text)

theorem description_withUnselected :
    (source.withUnselected url).description = source.description := by
  obtain ⟨connection, environment, remote, limits⟩ := source
  cases environment <;> rfl

theorem buildTable_withUnselected (name : Text) :
    (source.withUnselected url).buildTable name = source.buildTable name := by
  obtain ⟨connection, environment, remote, limits⟩ := source
  cases environment <;> rfl

theorem tableNames_withUnselected :
    (source.withUnselected url).tableNames = source.tableNames := by
  obtain ⟨connection, environment, remote, limits⟩ := source
  cases environment <;> rfl

theorem tablesFrom_withUnselected (ending : Except Failure Unit) (names seen : List Text) :
    (source.withUnselected url).tablesFrom ending none seen names =
      source.tablesFrom ending none seen names := by
  induction names generalizing seen with
  | nil => rfl
  | cons name rest inductionHypothesis =>
    by_cases member : name ∈ seen
    · rw [tablesFrom, tablesFrom, if_pos member, if_pos member, inductionHypothesis]
    · funext state
      rw [tablesFrom_cons _ _ member, tablesFrom_cons _ _ member, buildTable_withUnselected]
      simp only [inductionHypothesis]

/-- No table depends on the address that is not selected. -/
theorem finish_withUnselected (session : Http.Session σ) :
    (source.withUnselected url).finish session = source.finish session := by
  unfold finish tables
  rw [tableNames_withUnselected]
  simp only [tablesFrom_withUnselected]

/-- Documentation leaves behind the same whatever the address that is not selected. -/
theorem documentation_withUnselected (converter : Converter σ) (session : Http.Session σ) :
    (((source.withUnselected url).documentation converter).perform session).2 =
      ((source.documentation converter).perform session).2 := by
  rw [perform_documentation, perform_documentation, description_withUnselected]
  rcases source.description.perform session with ⟨described, after⟩
  cases described with
  | error failure => rfl
  | ok description =>
    dsimp only
    rcases (converter.convert description).perform after with ⟨answered, after⟩
    cases answered with
    | error failure => rfl
    | ok converted =>
      dsimp only
      cases Document.ofConverted converted with
      | error failure => rfl
      | ok document =>
        dsimp only
        rw [perform_schemas, perform_schemas, finish_withUnselected]
        cases (source.finish after).1.toExcept <;> rfl

theorem models_withUnselected (session : Http.Session σ) :
    (source.withUnselected url).models.perform session = source.models.perform session := by
  rw [perform_models, perform_models, finish_withUnselected]

end Source

/-! ### Whole runs -/

/-- The corrected document that a reply of the converter gives. -/
def Source.documentIn (source : Source σ) (converter : Converter σ) (room : Room)
    (reply : Http.Reply) : Except Failure Document :=
  (converter.convertedIn reply).bind (source.corrected room)

/-- How the documentation of a service is composed: what is exchanged, and the failure that ends it,
if any does. Without a description nothing is converted, and without a document nothing more is
asked. -/
inductive Source.Course (source : Source σ) (converter : Converter σ) (room : Room) :
    Exchanges → Option Failure → Prop where
  | undescribed {reply : Http.Reply} {failure : Failure}
      (fails : source.descriptionIn reply = .error failure) :
    Course source converter room [⟨.description, reply⟩] (some failure)
  | unencoded {reply : Http.Reply} {description : Json} {failure : Failure}
      (described : source.descriptionIn reply = .ok description)
      (fails : Converter.encode converter.limits description = .error failure) :
    Course source converter room [⟨.description, reply⟩] (some failure)
  | unconverted {reply answer : Http.Reply} {description : Json} {body? : Option Bytes}
      {failure : Failure} (described : source.descriptionIn reply = .ok description)
      (encoded : Converter.encode converter.limits description = .ok body?)
      (fails : source.documentIn converter room answer = .error failure) :
    Course source converter room [⟨.description, reply⟩, ⟨.conversion body?, answer⟩] (some failure)
  | surveyed {reply answer : Http.Reply} {description : Json} {body? : Option Bytes}
      {document : Document} {survey : Survey}
      (described : source.descriptionIn reply = .ok description)
      (encoded : Converter.encode converter.limits description = .ok body?)
      (converted : source.documentIn converter room answer = .ok document)
      (disciplined : survey.IsDisciplined source) :
    Course source converter room
      (⟨.description, reply⟩ :: ⟨.conversion body?, answer⟩ :: survey.exchanges)
      (survey.failure? source)

theorem exists_course (source : Source σ) (converter : Converter σ) (room : Room)
    (session : Http.Session σ) :
    ∃ exchanges, source.Course converter room exchanges
        (Failure.of? ((source.composition converter room).perform session).1) ∧
      Lead source converter exchanges session
        ((source.composition converter room).perform session).2 := by
  rw [Source.perform_composition, Exchanges.perform_description source converter]
  have leadsFirst := Exchanges.lead_send source converter .description session
  generalize send source converter .description session = sending at *
  obtain ⟨reply, after⟩ := sending
  dsimp only at leadsFirst ⊢
  cases described : source.descriptionIn reply with
  | error failure => exact ⟨_, .undescribed described, leadsFirst⟩
  | ok description =>
    dsimp only
    cases encoded : Converter.encode converter.limits description with
    | error failure =>
      rw [Exchanges.perform_convert_of_error converter encoded]
      exact ⟨_, .unencoded described encoded, leadsFirst⟩
    | ok body? =>
      rw [Exchanges.perform_convert source converter encoded]
      have leadsSecond := Exchanges.lead_send source converter (.conversion body?) after
      generalize send source converter (.conversion body?) after = sending at *
      obtain ⟨answer, between⟩ := sending
      dsimp only at leadsSecond ⊢
      have leadsBoth := leadsFirst.append leadsSecond
      cases answered : converter.convertedIn answer with
      | error failure =>
        have fails : source.documentIn converter room answer = .error failure :=
          congrArg (Except.bind · (source.corrected room)) answered
        exact ⟨_, .unconverted described encoded fails, leadsBoth⟩
      | ok converted =>
        dsimp only
        have same : source.documentIn converter room answer = source.corrected room converted :=
          congrArg (Except.bind · (source.corrected room)) answered
        cases corrected : source.corrected room converted with
        | error failure =>
          exact ⟨_, .unconverted described encoded (same.trans corrected), leadsBoth⟩
        | ok document =>
          dsimp only
          obtain ⟨survey, disciplined, leads, fails⟩ := exists_schemas_survey source converter between
          have course := Source.Course.surveyed described encoded (same.trans corrected) disciplined
          have leadsAll := leadsBoth.append leads
          rw [← fails] at course
          generalize (Cached.fresh source.schemas).perform between = finished at *
          obtain ⟨outcome, last⟩ := finished
          cases outcome with
          | error failure => exact ⟨_, course, leadsAll⟩
          | ok schemas => exact ⟨_, course, leadsAll⟩

/-- Where there is room for all, documentation that is composed is written down. -/
theorem Source.failure_documentation (source : Source σ) (converter : Converter σ)
    (session : Http.Session σ) :
    Failure.of? ((source.documentation converter).perform session).1 =
      Failure.of? ((source.composition converter).perform session).1 := by
  rw [perform_documentation_within]
  dsimp only
  cases ((source.composition converter).perform session).1 <;> rfl

/-- The requests of a run keep to an order, whatever the other side replies. A run for documentation
asks for the description, for its conversion and for the list of tables; from there on, as a run for
the models alone, it is a disciplined survey. It sends the requests of its exchanges and no others,
all of them made for the address that is selected, and ends without a text exactly if an exchange
fails. What it sends does not depend on the other address of the service. -/
theorem Source.requests_disciplined (source : Source σ) (converter : Converter σ)
    (session : Http.Session σ) :
    (∃ exchanges,
      source.Course converter {} exchanges
        (Failure.of? ((source.documentation converter).perform session).1) ∧
      Lead source converter exchanges session
        ((source.documentation converter).perform session).2 ∧
      ((source.documentation converter).perform session).2.sent =
        session.sent ++ Exchanges.requests (Addresses.of source converter) exchanges) ∧
    (∃ survey : Survey,
      survey.IsDisciplined source ∧
      Failure.of? (source.models.perform session).1 = survey.failure? source ∧
      Lead source converter survey.exchanges session (source.models.perform session).2 ∧
      (source.models.perform session).2.sent =
        session.sent ++ Exchanges.requests (Addresses.of source converter) survey.exchanges) ∧
    ∀ unselected : Text,
      (((source.withUnselected unselected).documentation converter).perform session).2 =
        ((source.documentation converter).perform session).2 ∧
      (source.withUnselected unselected).models.perform session =
        source.models.perform session := by
  refine ⟨?_, ?_, fun unselected => ⟨?_, ?_⟩⟩
  · obtain ⟨exchanges, course, leads⟩ := exists_course source converter {} session
    rw [← source.failure_documentation converter session] at course
    rw [← source.perform_documentation_snd converter {} session] at leads
    exact ⟨exchanges, course, leads, leads.sent⟩
  · obtain ⟨survey, disciplined, leads, fails⟩ := exists_models_survey source converter session
    exact ⟨survey, disciplined, fails, leads, leads.sent⟩
  · exact source.documentation_withUnselected unselected converter session
  · exact source.models_withUnselected unselected session

end ApiDoc
