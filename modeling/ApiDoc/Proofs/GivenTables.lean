/-
This file says which tables a run gets from a service that replies to its questions about tables by the
requests alone. Every table is then the one that the replies for its columns and their enumerations
give, whatever the run knows already and whichever tables came before; so the schemas of all tables
depend on the set of their names alone, and not on how their list repeats and orders them.
-/
import ApiDoc.Proofs.Compilation
import ApiDoc.Proofs.FirstOccurrences
import ApiDoc.Proofs.Ordering
import Mathlib.Data.List.Perm.Basic

namespace ApiDoc

/-! ### Reading lists in another order -/

/-- What can be read item by item in one order can be read so in any other. -/
theorem exists_perm_of_mapM {ε α β : Type} {read : α → Except ε β} {list others : List α}
    (perm : list.Perm others) {parts : List β} (reads : list.mapM read = .ok parts) :
    ∃ otherParts, others.mapM read = .ok otherParts ∧ parts.Perm otherParts := by
  obtain ⟨otherParts, related, same⟩ := List.perm_comp_forall₂ perm.symm (mapM_eq_ok_iff.mp reads)
  exact ⟨otherParts, mapM_eq_ok_iff.mpr related, same.symm⟩

theorem perm_eraseDups {first second : List Text} (same : ∀ name, name ∈ first ↔ name ∈ second) :
    first.eraseDups.Perm second.eraseDups := by
  have distinct (names : List Text) : names.eraseDups.Nodup :=
    newNames_nil_known names ▸ nodup_newNames [] names
  rw [List.perm_ext_iff_of_nodup (distinct first) (distinct second)]
  exact fun name => by rw [List.mem_eraseDups, List.mem_eraseDups, same]

namespace Source

variable {σ : Type} (source : Source σ) (reply : Http.Request → Http.Reply)

/-! ### Replies that depend on requests -/

/-- Where inquiries go that are for the service itself. -/
def addresses : Addresses where
  selected := source.connection.url source.environment
  authorization := source.authorization
  converter := []

/-- The service replies to the inquiries of a kind as it is given, by the request alone. -/
def RepliesBy (kind : Inquiry → Prop) : Prop :=
  ∀ inquiry, kind inquiry → ∀ request, (inquiry.request source.addresses).sent? = some request →
    ∀ state, (source.remote request state).1 = reply request

/-- The reply to an inquiry; there is one even if nothing can be sent. -/
def replyTo (inquiry : Inquiry) : Http.Reply :=
  (inquiry.request source.addresses).prepare >>= reply

/-- The columns of a table that the reply for them gives. -/
def columnsGiven (table : Text) : Feed Column :=
  source.columnsIn table (source.replyTo reply (.columnList table))

/-- The enumeration that the reply for it gives. -/
def enumerationGiven (name : Text) : Except Failure Enumeration :=
  source.enumerationIn name (source.replyTo reply (.enumeration name))

/-- The table that the replies give. -/
def tableGiven (name : Text) : Except Failure Table :=
  let columns := source.columnsGiven reply name
  let table := ((Column.counted name columns.items).mapM
    (Table.partOf (source.enumerationGiven reply) name)).map (Table.extend { name })
  table.bind fun table => columns.ending.map fun _ => table

variable {source reply}

/-- No conversion is asked for here, so that any converter will do. -/
theorem RepliesBy.send_eq {kind : Inquiry → Prop} (replies : source.RepliesBy reply kind)
    {inquiry : Inquiry} (asked : kind inquiry) (session : Http.Session σ) :
    (Exchanges.send source { url := [], remote := source.remote } inquiry session).1 =
      source.replyTo reply inquiry := by
  have request : Addresses.of source { url := [], remote := source.remote } = source.addresses := rfl
  have remote : Exchanges.remote source { url := [], remote := source.remote } inquiry =
      source.remote := by cases inquiry <;> rfl
  have answered := replies inquiry asked
  unfold Exchanges.send replyTo
  rw [request, remote]
  unfold Http.Session.send
  unfold Http.Request.sent? at answered
  cases prepared : (inquiry.request source.addresses).prepare with
  | ok request => exact answered request (by rw [prepared]; rfl) session.remote
  | error disruption => rfl

theorem RepliesBy.mono {kind narrower : Inquiry → Prop} (replies : source.RepliesBy reply kind)
    (narrows : ∀ inquiry, narrower inquiry → kind inquiry) : source.RepliesBy reply narrower :=
  fun inquiry asked => replies inquiry (narrows inquiry asked)

end Source

/-- The inquiry is for the list of tables, for the columns of a table or for an enumeration. -/
def Inquiry.isOfTables : Inquiry → Bool
  | .tableList | .columnList _ | .enumeration _ => true
  | .description | .conversion _ => false

/-- The inquiry is for the columns of one of some tables, or for an enumeration. -/
def Inquiry.IsAbout (names : List Text) : Inquiry → Prop
  | .columnList table => table ∈ names
  | .enumeration _ => True
  | .description | .conversion _ | .tableList => False

theorem Inquiry.IsAbout.isOfTables {names : List Text} {inquiry : Inquiry}
    (about : inquiry.IsAbout names) : inquiry.isOfTables = true := by
  cases inquiry with
  | columnList | enumeration => rfl
  | description | conversion | tableList => exact about.elim

namespace Source

variable {σ : Type} {source : Source σ} {reply : Http.Request → Http.Reply} {names : List Text}

/-! ### One table -/

theorem RepliesBy.answersBy (replies : source.RepliesBy reply (Inquiry.IsAbout names)) :
    EnumSource.AnswersBy source.queryEnumeration (source.enumerationGiven reply) := by
  intro name session
  have asked : Inquiry.IsAbout names (.enumeration name) := trivial
  rw [Exchanges.perform_queryEnumeration source { url := [], remote := source.remote }]
  exact congrArg (source.enumerationIn name) (replies.send_eq asked session)

/-- A table that is built is the one that the replies give, and the cache holds no more than they do. -/
theorem RepliesBy.outcome_buildTable (replies : source.RepliesBy reply (Inquiry.IsAbout names))
    {name : Text} (member : name ∈ names) {state : Cached (Http.Session σ)}
    (holds : state.cache.Holds (source.enumerationGiven reply)) :
    ((source.buildTable name).perform state).1 = source.tableGiven reply name ∧
      ((source.buildTable name).perform state).2.cache.Holds (source.enumerationGiven reply) := by
  have answers := replies.answersBy
  have asked : Inquiry.IsAbout names (.columnList name) := member
  have columns := congrArg (source.columnsIn name) (replies.send_eq asked state.rest)
  rw [perform_buildTable source { url := [], remote := source.remote }, columns]
  generalize (Exchanges.send source _ (.columnList name) state.rest).2 = rest
  have holds : EnumCache.Holds (source.enumerationGiven reply)
      ({ cache := state.cache, rest } : Cached (Http.Session σ)).cache := holds
  exact ⟨Table.outcome_build answers holds name _,
    (Table.transparent_build answers name _ _ _ holds holds).2⟩

/-- A table that the replies give has the name that it was asked for by. -/
theorem name_of_tableGiven {name : Text} {table : Table}
    (given : source.tableGiven reply name = .ok table) : table.name = name := by
  obtain ⟨extended, gives, ends⟩ := bind_eq_ok_iff.mp given
  obtain ⟨_, -, rfl⟩ := map_eq_ok_iff.mp ends
  obtain ⟨_, -, rfl⟩ := map_eq_ok_iff.mp gives
  rfl

/-! ### All tables -/

theorem RepliesBy.toExcept_tablesFrom (replies : source.RepliesBy reply (Inquiry.IsAbout names))
    (ending : Except Failure Unit) (seen : List Text) {rest : List Text} (among : rest ⊆ names)
    {state : Cached (Http.Session σ)}
    (holds : state.cache.Holds (source.enumerationGiven reply)) :
    (source.tablesFrom ending none seen rest state).1.toExcept =
      ((newNames seen rest).mapM (source.tableGiven reply)).bind fun tables =>
        ending.map fun _ => tables := by
  induction rest generalizing seen state with
  | nil => cases ending <;> rfl
  | cons name rest inductionHypothesis =>
    obtain ⟨member, amongRest⟩ := List.cons_subset.mp among
    by_cases known : name ∈ seen
    · rw [tablesFrom, if_pos known, newNames_cons_of_mem known]
      exact inductionHypothesis seen amongRest holds
    · obtain ⟨outcome, holdsAfter⟩ := replies.outcome_buildTable member holds
      rw [source.tablesFrom_cons ending known, newNames_cons_of_not_mem known, List.mapM_cons,
        ← outcome]
      generalize (source.buildTable name).perform state = built at holdsAfter
      obtain ⟨built, after⟩ := built
      cases built with
      | error failure => rfl
      | ok table =>
        dsimp only
        rw [Feed.toExcept_cons, inductionHypothesis (name :: seen) amongRest holdsAfter]
        generalize (newNames (name :: seen) rest).mapM (source.tableGiven reply) = others
        cases others <;> cases ending <;> rfl

/-- The tables of a run are the ones that the replies give for the names in the list of tables, each
name once and in the order in which they first come. -/
theorem RepliesBy.toExcept_tables {state : Cached (Http.Session σ)}
    (replies : source.RepliesBy reply (Inquiry.IsAbout (source.tableNames state.rest).1.items))
    (holds : state.cache.Holds (source.enumerationGiven reply)) :
    (source.tables none state).1.toExcept =
      ((source.tableNames state.rest).1.items.eraseDups.mapM (source.tableGiven reply)).bind
        fun tables => (source.tableNames state.rest).1.ending.map fun _ => tables := by
  rw [tables_eq, replies.toExcept_tablesFrom _ [] (List.Subset.refl _), newNames_nil_known]
  exact holds

/-! ### Schemas -/

/-- The schemas of tables under their names, in ascending order. -/
def schemasOf (tables : List Table) : Dict Json :=
  (Dict.ofEntries (tables.map fun table => (table.name, table.toJson))).sorted

theorem outcome_schemas (source : Source σ) (state : Cached (Http.Session σ)) :
    (source.schemas.perform state).1 = (source.tables none state).1.toExcept.map schemasOf := by
  unfold Source.schemas
  rw [Feed.perform_finished]
  dsimp only
  rfl

theorem names_of_tablesGiven {tables : List Table}
    (given : names.mapM (source.tableGiven reply) = .ok tables) : tables.map (·.name) = names := by
  induction names generalizing tables with
  | nil =>
    cases given
    rfl
  | cons name rest inductionHypothesis =>
    rw [List.mapM_cons] at given
    obtain ⟨table, givesTable, givesRest⟩ := bind_eq_ok_iff.mp given
    obtain ⟨others, givesOthers, same⟩ := bind_eq_ok_iff.mp givesRest
    cases same
    rw [List.map_cons, name_of_tableGiven givesTable, inductionHypothesis givesOthers]

/-- The order of tables with distinct names cannot be seen in their schemas. -/
theorem schemasOf_eq_of_perm {first second : List Table} (perm : first.Perm second)
    (distinct : (first.map (·.name)).Nodup) : schemasOf first = schemasOf second := by
  have keys (tables : List Table) :
      Dict.keys (tables.map fun table => (table.name, table.toJson)) = tables.map (·.name) := by
    simp [Dict.keys, Function.comp_def]
  unfold schemasOf
  rw [Dict.ofEntries_of_nodup, Dict.ofEntries_of_nodup]
  · exact Dict.sorted_eq_of_perm (by rwa [keys]) (perm.map _)
  · rw [keys]
    exact (perm.map _).nodup_iff.mp distinct
  · rwa [keys]

/-- Schemas that the replies give for names do not depend on the order of the names, nor does it
whether there are any. -/
theorem schemasGiven_eq_of_perm {first second : List Text} (perm : first.Perm second)
    (distinct : first.Nodup) :
    ((first.mapM (source.tableGiven reply)).map schemasOf).toOption =
      ((second.mapM (source.tableGiven reply)).map schemasOf).toOption := by
  cases givenFirst : first.mapM (source.tableGiven reply) with
  | ok tables =>
    obtain ⟨others, givenSecond, permTables⟩ := exists_perm_of_mapM perm givenFirst
    rw [givenSecond]
    refine congrArg some (schemasOf_eq_of_perm permTables ?_)
    rwa [names_of_tablesGiven givenFirst]
  | error failure =>
    cases givenSecond : second.mapM (source.tableGiven reply) with
    | error => rfl
    | ok others =>
      obtain ⟨tables, given, -⟩ := exists_perm_of_mapM perm.symm givenSecond
      cases givenFirst.symm.trans given

theorem tableGiven_congr {τ : Type} {other : Source τ}
    (connection : other.connection = source.connection)
    (environment : other.environment = source.environment)
    (limits : other.limits = source.limits) :
    other.tableGiven reply = source.tableGiven reply := by
  obtain ⟨_, _, _, _⟩ := other
  obtain ⟨_, _, _, _⟩ := source
  subst connection environment limits
  rfl

/-- The schemas that a run collects do not depend on the order of the list of tables. If two services
reply alike to the requests for the columns of their tables and for enumerations, and their lists of
tables end well and have the same names, in whatever order and however often, then both runs collect
the same schemas in the same order, or neither of them collects any. What either of them knew before
makes no difference. -/
theorem toOption_schemas_eq {τ : Type} {first : Source σ} {second : Source τ}
    (connection : second.connection = first.connection)
    (environment : second.environment = first.environment)
    (limits : second.limits = first.limits)
    {firstState : Cached (Http.Session σ)} {secondState : Cached (Http.Session τ)}
    (firstReplies :
      first.RepliesBy reply (Inquiry.IsAbout (first.tableNames firstState.rest).1.items))
    (secondReplies :
      second.RepliesBy reply (Inquiry.IsAbout (second.tableNames secondState.rest).1.items))
    (firstHolds : firstState.cache.Holds (first.enumerationGiven reply))
    (secondHolds : secondState.cache.Holds (second.enumerationGiven reply))
    (firstEnds : (first.tableNames firstState.rest).1.ending = .ok ())
    (secondEnds : (second.tableNames secondState.rest).1.ending = .ok ())
    (sameNames : ∀ name, name ∈ (first.tableNames firstState.rest).1.items ↔
      name ∈ (second.tableNames secondState.rest).1.items) :
    (first.schemas.perform firstState).1.toOption =
      (second.schemas.perform secondState).1.toOption := by
  have perm := perm_eraseDups sameNames
  rw [outcome_schemas, outcome_schemas, firstReplies.toExcept_tables firstHolds,
    secondReplies.toExcept_tables secondHolds, firstEnds, secondEnds,
    tableGiven_congr connection environment limits]
  have whole (outcome : Except Failure (List Table)) :
      (outcome.bind fun tables => (Except.ok () : Except Failure Unit).map fun _ => tables) =
        outcome := by
    cases outcome <;> rfl
  rw [whole, whole]
  exact schemasGiven_eq_of_perm perm (newNames_nil_known _ ▸ nodup_newNames [] _)

/-! ### A service with a given list of tables -/

end Source

/-- The text of an address ends in its path, if there is neither a query nor a fragment. -/
theorem Http.Url.path_suffix_toText {url : Http.Url} (query : url.query = none)
    (fragment : url.fragment = none) : url.path <:+ url.toText := by
  simp only [toText, Text.ofPieces, marked, query, fragment, List.flatten_cons, List.flatten_nil,
    List.append_nil]
  rw [← List.append_assoc]
  exact List.suffix_append _ _

/-- A request is sent to the normal form of its address. -/
theorem Http.Request.eq_of_sent? {request sent : Http.Request} (sends : request.sent? = some sent) :
    sent.method = request.method ∧ sent.url = (Http.Url.ofText request.url).toText := by
  obtain ⟨_, rfl⟩ := Http.Request.sent?_eq_some_iff.mp sends
  exact ⟨rfl, rfl⟩

namespace Source

/-- The path of the list of tables. -/
def listPath : Text := "/databaseinfo/tablelist.xml"

/-- A service with a given list of tables. Every table has one column, which is enumerated, and there
is one enumeration. -/
def listing (list : String) : Source Unit where
  connection := { productionUrl := "http://host/services", developmentUrl := "http://host/dev" }
  environment := .production
  remote := fun request state => match request.method with
    | .get =>
      if listPath.isSuffixOf request.url then (.ok (.success list), state)
      else (.ok (.success "<list><Table/><KindEnum required='true'/></list>"), state)
    | .post => (.ok (.success "[\x7b\"enumId\": 1, \"description\": \"A\"\x7d]"), state)

/-- What it replies beside the list. -/
def listingReply (request : Http.Request) : Http.Reply := match request.method with
  | .get => .ok (.success "<list><Table/><KindEnum required='true'/></list>")
  | .post => .ok (.success "[\x7b\"enumId\": 1, \"description\": \"A\"\x7d]")

/-- The addresses do not depend on the list. -/
theorem addresses_listing (list : String) : (listing list).addresses = (listing "").addresses := rfl

/-- A request for the columns of a table does not go to where the list of tables is. -/
theorem listPath_columnList {table : Text} (known : table ∈ (["Room", "Booking"] : List Text))
    {url : Http.Url}
    (asked : url = Http.Url.ofText
      ((Inquiry.columnList table).request (listing "").addresses).url) :
    listPath.isSuffixOf url.toText = false := by
  have parts : url.query = none ∧ url.fragment = none ∧ listPath.length ≤ url.path.length ∧
      ¬listPath <:+ url.path := by
    subst asked
    revert table
    decide +kernel
  obtain ⟨query, fragment, longer, elsewhere⟩ := parts
  rw [Bool.eq_false_iff, ne_eq, List.isSuffixOf_iff_suffix]
  intro suffix
  exact elsewhere
    (List.suffix_of_suffix_length_le suffix (Http.Url.path_suffix_toText query fragment) longer)

theorem repliesBy_listing (list : String) {names : List Text}
    (known : names ⊆ (["Room", "Booking"] : List Text)) :
    (listing list).RepliesBy listingReply (Inquiry.IsAbout names) := by
  intro inquiry asked request sent state
  rw [addresses_listing] at sent
  obtain ⟨sameMethod, sameUrl⟩ := Http.Request.eq_of_sent? sent
  unfold listing listingReply
  cases inquiry with
  | columnList table =>
    have elsewhere := listPath_columnList (known asked) rfl
    rw [← sameUrl] at elsewhere
    have get : request.method = .get := sameMethod
    simp only [get, elsewhere, Bool.false_eq_true, if_false]
  | enumeration name =>
    have post : request.method = .post := sameMethod
    simp only [post]
  | description | conversion | tableList => exact asked.elim

/-- Its list of tables is read from what is given. -/
theorem tableNames_listing (list : String) (session : Http.Session Unit) :
    ((listing list).tableNames session).1 =
      (listing list).tableNamesIn (.ok (.success list)) := by
  have replies : (listing list).RepliesBy (fun _ => .ok (.success list)) (· = .tableList) := by
    rintro inquiry rfl request sent state
    rw [addresses_listing] at sent
    obtain ⟨sameMethod, sameUrl⟩ := Http.Request.eq_of_sent? sent
    have get : request.method = .get := sameMethod
    have there : listPath.isSuffixOf request.url = true := by
      rw [sameUrl, List.isSuffixOf_iff_suffix]
      refine List.IsSuffix.trans ?_ (Http.Url.path_suffix_toText ?_ ?_) <;> decide +kernel
    unfold listing
    simp only [get, there, if_true]
  rw [Exchanges.tableNames_eq (listing list) { url := [], remote := (listing list).remote }]
  exact congrArg (listing list).tableNamesIn (replies.send_eq rfl session)

/-- One order of two tables, of which one comes again. -/
def firstListing : Source Unit := listing "<list><Room/><Booking/><Room/></list>"

/-- Another order. -/
def secondListing : Source Unit := listing "<list><Booking/><Room/></list>"

theorem tableNames_firstListing (session : Http.Session Unit) :
    (firstListing.tableNames session).1.items = (["Room", "Booking", "Room"] : List Text) ∧
      Failure.of? (firstListing.tableNames session).1.ending = none := by
  rw [firstListing, tableNames_listing]
  decide +kernel

theorem tableNames_secondListing (session : Http.Session Unit) :
    (secondListing.tableNames session).1.items = (["Booking", "Room"] : List Text) ∧
      Failure.of? (secondListing.tableNames session).1.ending = none := by
  rw [secondListing, tableNames_listing]
  decide +kernel

/-- A run that knows nothing yet. -/
def freshRun : Cached (Http.Session Unit) := { cache := {}, rest := { remote := () } }

/-- The two orders give the same schemas. -/
theorem toOption_schemas_eq_listing :
    (firstListing.tableNames freshRun.rest).1.items = (["Room", "Booking", "Room"] : List Text) ∧
      (secondListing.tableNames freshRun.rest).1.items = (["Booking", "Room"] : List Text) ∧
      (firstListing.schemas.perform freshRun).1.toOption =
        (secondListing.schemas.perform freshRun).1.toOption ∧
      (firstListing.schemas.perform freshRun).1.toOption.isSome = true := by
  obtain ⟨firstNames, firstEnds⟩ := tableNames_firstListing freshRun.rest
  obtain ⟨secondNames, secondEnds⟩ := tableNames_secondListing freshRun.rest
  have ends (ending : Except Failure Unit) (well : Failure.of? ending = none) :
      ending = .ok () := by
    cases ending with
    | ok => rfl
    | error failure => cases well
  have holds (answer : Text → Except Failure Enumeration) : freshRun.cache.Holds answer :=
    EnumCache.holds_empty
  have firstReplies : firstListing.RepliesBy listingReply
      (Inquiry.IsAbout (firstListing.tableNames freshRun.rest).1.items) := by
    rw [firstNames]
    exact repliesBy_listing _ (by decide)
  have secondReplies : secondListing.RepliesBy listingReply
      (Inquiry.IsAbout (secondListing.tableNames freshRun.rest).1.items) := by
    rw [secondNames]
    exact repliesBy_listing _ (by decide)
  have sameNames : ∀ name, name ∈ (firstListing.tableNames freshRun.rest).1.items ↔
      name ∈ (secondListing.tableNames freshRun.rest).1.items := by
    intro name
    rw [firstNames, secondNames]
    generalize Text.ofString "Room" = room
    generalize Text.ofString "Booking" = booking
    simp only [List.mem_cons, List.not_mem_nil, or_false]
    exact ⟨fun either => either.elim Or.inr id, Or.inr⟩
  have connection : secondListing.connection = firstListing.connection := rfl
  have environment : secondListing.environment = firstListing.environment := rfl
  have limits : secondListing.limits = firstListing.limits := rfl
  refine ⟨firstNames, secondNames, ?_, ?_⟩
  · exact toOption_schemas_eq connection environment limits firstReplies secondReplies (holds _)
      (holds _) (ends _ firstEnds) (ends _ secondEnds) sameNames
  · rw [outcome_schemas, firstReplies.toExcept_tables (holds _), firstNames, ends _ firstEnds]
    decide +kernel

end Source

end ApiDoc
