/-
This file follows a run through one table: its list of columns is asked for, and then, column by
column, every enumeration that the run does not know yet. The queries stop at the first failure,
whether it is that of a query, of a column that cannot be read or of the list itself.
-/
import ApiDoc.Proofs.Columns
import ApiDoc.Proofs.Exchanges

namespace ApiDoc

variable {σ α : Type}

/-! ### New names -/

/-- The names that are not known, each once, in the order in which they first come. -/
def newNames (known names : List Text) : List Text :=
  (names.filter (!known.contains ·)).eraseDups

theorem not_contains_iff {known : List Text} {name : Text} :
    (!known.contains name) = true ↔ name ∉ known := by
  rw [Bool.not_eq_true', ← Bool.not_eq_true, List.contains_iff_mem]

theorem newNames_nil_known (names : List Text) : newNames [] names = names.eraseDups :=
  congrArg List.eraseDups (List.filter_eq_self.mpr fun _ _ => rfl)

theorem newNames_cons_of_mem {known : List Text} {name : Text} (member : name ∈ known)
    (rest : List Text) : newNames known (name :: rest) = newNames known rest := by
  unfold newNames
  rw [List.filter_cons, if_neg (not_contains_iff.not.mpr (not_not_intro member))]

theorem newNames_cons_of_not_mem {known : List Text} {name : Text} (new : name ∉ known)
    (rest : List Text) :
    newNames known (name :: rest) = name :: newNames (name :: known) rest := by
  unfold newNames
  rw [List.filter_cons, if_pos (not_contains_iff.mpr new), List.eraseDups_cons, List.filter_filter]
  congr 2
  refine List.filter_congr fun other _ => ?_
  rw [Bool.eq_iff_iff, Bool.and_eq_true, not_contains_iff, not_contains_iff, List.mem_cons, not_or,
    Bool.not_eq_true', beq_eq_false_iff_ne]

theorem mem_newNames {known names : List Text} {name : Text} :
    name ∈ newNames known names ↔ name ∈ names ∧ name ∉ known := by
  unfold newNames
  rw [List.mem_eraseDups, List.mem_filter, not_contains_iff]

theorem newNames_congr {known others : List Text} (same : ∀ name, name ∈ known ↔ name ∈ others)
    (names : List Text) : newNames known names = newNames others names := by
  unfold newNames
  congr 1
  refine List.filter_congr fun name _ => ?_
  rw [Bool.eq_iff_iff, not_contains_iff, not_contains_iff, same]

theorem nodup_newNames (known names : List Text) : (newNames known names).Nodup := by
  induction names generalizing known with
  | nil => exact List.nodup_nil
  | cons name rest inductionHypothesis =>
    by_cases member : name ∈ known
    · rw [newNames_cons_of_mem member]
      exact inductionHypothesis known
    · rw [newNames_cons_of_not_mem member]
      refine List.nodup_cons.mpr ⟨fun again => ?_, inductionHypothesis _⟩
      exact (mem_newNames.mp again).2 List.mem_cons_self

/-! ### Queries -/

/-- The exchange of a query for an enumeration, which is a name with the reply to it. -/
def Exchange.ofQuery (query : Text × Http.Reply) : Exchange :=
  { inquiry := .enumeration query.1, reply := query.2 }

namespace Source

variable (source : Source σ)

/-- The failure of a query, if its reply is of no use. -/
def queryFailure? (query : Text × Http.Reply) : Option Failure :=
  Failure.of? (source.enumerationIn query.1 query.2)

/-- The first failure of queries, or else of columns. -/
def failureAmong? (queries : List (Text × Http.Reply)) (columns : List Column) : Option Failure :=
  (queries.findSome? source.queryFailure?).or (columns.findSome? Column.failure?)

/-- The queries ask, for columns one after the other, for each enumeration that is not known: in order
and once, up to the first query that fails and up to the first column that cannot be read. -/
structure Asks (known : List Text) (columns : List Column) (queries : List (Text × Http.Reply)) :
    Prop where
  inOrder : queries.map (·.1) <+: newNames known (Column.drawn (Column.readable columns))
  complete : (∀ query ∈ queries, source.queryFailure? query = none) →
    queries.map (·.1) = newNames known (Column.drawn (Column.readable columns))
  stops : ∀ query ∈ queries.dropLast, source.queryFailure? query = none

variable {source} {known : List Text} {columns : List Column} {queries : List (Text × Http.Reply)}

/-- Where there is nothing new, nothing is asked. -/
theorem Asks.none (nothing : newNames known (Column.drawn (Column.readable columns)) = []) :
    source.Asks known columns [] where
  inOrder := List.nil_prefix
  complete _ := nothing.symm
  stops _ member := nomatch member

theorem Asks.of_newNames_eq {others : List Text} {before : List Column}
    (asks : source.Asks known columns queries)
    (same : newNames others (Column.drawn (Column.readable before)) =
      newNames known (Column.drawn (Column.readable columns))) :
    source.Asks others before queries where
  inOrder := same ▸ asks.inOrder
  complete usable := same ▸ asks.complete usable
  stops := asks.stops

/-- A query that fails is the last. -/
theorem Asks.failing {name : Text} {reply : Http.Reply} {failure : Failure}
    (fails : source.queryFailure? (name, reply) = some failure) {others : List Text}
    (new : newNames known (Column.drawn (Column.readable columns)) = name :: others) :
    source.Asks known columns [(name, reply)] where
  inOrder := new ▸ ⟨others, rfl⟩
  complete usable := nomatch fails.symm.trans (usable _ List.mem_cons_self)
  stops _ member := nomatch member

/-- A query that does not fail comes before the others. -/
theorem Asks.cons {name : Text} {reply : Http.Reply} {before : List Column} {others : List Text}
    (usable : source.queryFailure? (name, reply) = Option.none)
    (asks : source.Asks known columns queries)
    (new : newNames others (Column.drawn (Column.readable before)) =
      name :: newNames known (Column.drawn (Column.readable columns))) :
    source.Asks others before ((name, reply) :: queries) where
  inOrder := by
    rw [new, List.map_cons]
    exact List.cons_prefix_cons.mpr ⟨rfl, asks.inOrder⟩
  complete all := by
    rw [new, List.map_cons, asks.complete fun query member => all query (.tail _ member)]
  stops query member := by
    cases queries with
    | nil => cases member
    | cons next rest =>
      rw [List.dropLast_cons_cons, List.mem_cons] at member
      rcases member with rfl | later
      · exact usable
      · exact asks.stops query later

end Source

/-! ### Working through columns -/

/-- The cache has the enumerations of these names and no others. -/
def EnumCache.Knows (cache : EnumCache) (names : List Text) : Prop :=
  ∀ name, name ∈ cache.definitions.keys ↔ name ∈ names

namespace EnumCache

theorem knows_empty : Knows {} [] := fun _ => Iff.rfl

namespace Knows

variable {cache : EnumCache} {known : List Text} {name : Text}

theorem mem_of_get? (knows : cache.Knows known) {definition : Enumeration}
    (found : cache.definitions.get? name = some definition) : name ∈ known :=
  (knows name).mp (Dict.mem_keys_of_get?_eq_some found)

theorem not_mem_of_get? (knows : cache.Knows known)
    (missing : cache.definitions.get? name = none) : name ∉ known := by
  rw [← knows name]
  exact (Dict.get?_eq_none_iff _ _).mp missing

/-- After an answer its enumeration is known too. -/
theorem afterAnswer (knows : cache.Knows known) (name : Text) (definition : Enumeration) :
    (cache.afterAnswer name (.ok definition)).Knows (name :: known) := by
  intro wanted
  show wanted ∈ (cache.definitions.insert name definition).keys ↔ _
  rw [Dict.mem_keys_insert, List.mem_cons, knows wanted]
  exact Or.comm

/-- The names that are known have no order. -/
theorem swap {others : List Text} (knows : cache.Knows (name :: known ++ others)) :
    cache.Knows (known ++ name :: others) := by
  intro wanted
  rw [knows wanted, List.cons_append, List.mem_cons, List.mem_append, List.mem_append, List.mem_cons]
  exact or_left_comm

end Knows

end EnumCache

open Exchanges (Lead send)

variable (source : Source σ) (converter : Converter σ)

/-- Work follows columns if, where some enumerations are known, all that it asks for are the others
that the columns draw from, it fails as the queries or else the columns do, and the enumerations of
the columns are known after it has not failed. -/
def Follows (known : List Text) (columns : List Column)
    (attempt : Attempt (Cached (Http.Session σ)) α) : Prop :=
  ∀ state : Cached (Http.Session σ), state.cache.Knows known →
    ∃ queries, source.Asks known columns queries ∧
      Lead source converter (queries.map .ofQuery) state.rest (attempt.perform state).2.rest ∧
      Failure.of? (attempt.perform state).1 = source.failureAmong? queries columns ∧
      (Failure.of? (attempt.perform state).1 = none →
        (attempt.perform state).2.cache.Knows (known ++ Column.drawn columns))

namespace Follows

variable {source converter} {known : List Text} {rest : List Column} {column : Column}

theorem drawn_cons_of_none (undrawn : Column.enumerationName? column.name = none) :
    Column.drawn (column :: rest) = Column.drawn rest :=
  List.filterMap_cons_none undrawn

theorem drawn_cons_of_some {name : Text}
    (draws : Column.enumerationName? column.name = some name) :
    Column.drawn (column :: rest) = name :: Column.drawn rest :=
  List.filterMap_cons_some draws

theorem readable_cons (readable : column.failure? = none) :
    Column.readable (column :: rest) = column :: Column.readable rest :=
  List.takeWhile_cons_of_pos (by rw [readable]; rfl)

theorem readable_cons_of_failure {failure : Failure} (fails : column.failure? = some failure) :
    Column.readable (column :: rest) = [] :=
  List.takeWhile_cons_of_neg (by rw [fails]; exact Bool.false_ne_true)

theorem failureAmong?_cons (readable : column.failure? = none)
    (queries : List (Text × Http.Reply)) :
    source.failureAmong? queries (column :: rest) = source.failureAmong? queries rest := by
  unfold Source.failureAmong?
  rw [List.findSome?_cons, readable]

theorem failureAmong?_failing {query : Text × Http.Reply} {failure : Failure}
    (fails : source.queryFailure? query = some failure) (columns : List Column) :
    source.failureAmong? [query] columns = some failure := by
  unfold Source.failureAmong?
  rw [List.findSome?_cons, fails]
  rfl

theorem failureAmong?_usable {query : Text × Http.Reply}
    (usable : source.queryFailure? query = none) (queries : List (Text × Http.Reply))
    (columns : List Column) :
    source.failureAmong? (query :: queries) columns = source.failureAmong? queries columns := by
  unfold Source.failureAmong?
  rw [List.findSome?_cons, usable]

/-- Where there are no columns, nothing is asked. -/
theorem pure (value : α) :
    Follows source converter known [] (Pure.pure value : Attempt (Cached (Http.Session σ)) α) := by
  intro state knows
  refine ⟨[], .none rfl, rfl, rfl, fun _ => ?_⟩
  rw [show Column.drawn [] = [] from rfl, List.append_nil]
  exact knows

/-- A column that cannot be read ends the work before anything is asked for it. -/
theorem unreadable {failure : Failure} (fails : column.failure? = some failure) :
    Follows source converter known (column :: rest)
      (throw failure : Attempt (Cached (Http.Session σ)) α) := by
  intro state _
  refine ⟨[], .none ?_, rfl, ?_, fun ends => nomatch ends⟩
  · rw [readable_cons_of_failure fails]
    rfl
  · unfold Source.failureAmong?
    rw [List.findSome?_cons, fails]
    rfl

/-- A column that draws from no enumeration is passed in silence. -/
theorem undrawn {attempt : Attempt (Cached (Http.Session σ)) α}
    (readable : column.failure? = none) (undrawn : Column.enumerationName? column.name = none)
    (follows : Follows source converter known rest attempt) :
    Follows source converter known (column :: rest) attempt := by
  intro state knows
  obtain ⟨queries, asks, leads, fails, knowsAfter⟩ := follows state knows
  refine ⟨queries, asks.of_newNames_eq ?_, leads, ?_, ?_⟩
  · rw [readable_cons readable, drawn_cons_of_none undrawn]
  · rw [fails, failureAmong?_cons readable]
  · rw [drawn_cons_of_none undrawn]
    exact knowsAfter

/-- An enumeration that the cache lacks is asked for. -/
theorem resolve_new (source : Source σ) (converter : Converter σ) {name : Text}
    {state : Cached (Http.Session σ)} (missing : state.cache.definitions.get? name = none) :
    (EnumCache.resolve source.queryEnumeration name).perform state =
      (source.enumerationIn name (send source converter (.enumeration name) state.rest).1,
        { cache := state.cache.afterAnswer name
            (source.enumerationIn name (send source converter (.enumeration name) state.rest).1)
          rest := (send source converter (.enumeration name) state.rest).2 }) := by
  rw [EnumCache.perform_resolve_of_none _ missing,
    Exchanges.perform_queryEnumeration source converter]

/-- A column that draws from an enumeration has it resolved before anything else is asked. -/
theorem drawing {name : Text} {next : Enumeration → Attempt (Cached (Http.Session σ)) α}
    (readable : column.failure? = none) (draws : Column.enumerationName? column.name = some name)
    (follows : ∀ definition, Follows source converter (name :: known) rest (next definition)) :
    Follows source converter known (column :: rest)
      (EnumCache.resolve source.queryEnumeration name >>= next) := by
  intro state knows
  have reached : Column.drawn (Column.readable (column :: rest)) =
      name :: Column.drawn (Column.readable rest) := by
    rw [readable_cons readable, drawn_cons_of_some draws]
  rw [drawn_cons_of_some draws]
  cases found : state.cache.definitions.get? name with
  | some definition =>
    have member := knows.mem_of_get? found
    have sameKnown : ∀ wanted, wanted ∈ known ↔ wanted ∈ name :: known := fun wanted =>
      ⟨List.mem_cons_of_mem name, fun either => (List.mem_cons.mp either).elim
        (fun same => same ▸ member) id⟩
    obtain ⟨queries, asks, leads, fails, knowsAfter⟩ := follows definition state
      fun wanted => (knows wanted).trans (sameKnown wanted)
    rw [Attempt.perform_bind_of_ok (EnumCache.perform_resolve_of_some _ found)]
    refine ⟨queries, asks.of_newNames_eq ?_, leads, ?_, fun succeeds => (knowsAfter succeeds).swap⟩
    · rw [reached, newNames_cons_of_mem member, newNames_congr sameKnown]
    · rw [fails, failureAmong?_cons readable]
  | none =>
    have new := knows.not_mem_of_get? found
    have resolved := resolve_new source converter found
    have leadsFirst := Exchanges.lead_send source converter (.enumeration name) state.rest
    generalize (send source converter (.enumeration name) state.rest) = sending at *
    obtain ⟨reply, after⟩ := sending
    cases answered : source.enumerationIn name reply with
    | error failure =>
      have fails : source.queryFailure? (name, reply) = some failure :=
        congrArg Failure.of? answered
      rw [answered] at resolved
      rw [Attempt.perform_bind_of_error resolved]
      exact ⟨[(name, reply)], .failing fails (reached ▸ newNames_cons_of_not_mem new _), leadsFirst,
        (failureAmong?_failing fails _).symm, fun ends => nomatch ends⟩
    | ok definition =>
      have usable : source.queryFailure? (name, reply) = none := congrArg Failure.of? answered
      rw [answered] at resolved
      obtain ⟨queries, asks, leads, fails, knowsAfter⟩ := follows definition
        { cache := state.cache.afterAnswer name (.ok definition), rest := after }
        (knows.afterAnswer name definition)
      rw [Attempt.perform_bind_of_ok resolved]
      refine ⟨(name, reply) :: queries, asks.cons usable ?_, leadsFirst.append leads, ?_,
        fun succeeds => (knowsAfter succeeds).swap⟩
      · rw [reached, newNames_cons_of_not_mem new]
      · rw [fails, failureAmong?_cons readable, failureAmong?_usable usable]

/-- The columns of a table are followed from the first to the last. -/
theorem addColumns (source : Source σ) (converter : Converter σ) (table : Table)
    (columns : List Column) :
    Follows source converter known (Column.pending table columns)
      (Table.addColumns source.queryEnumeration table columns) := by
  induction columns generalizing table known with
  | nil => exact Follows.pure table
  | cons column rest inductionHypothesis =>
    show Follows source converter known _
      (Table.addColumn source.queryEnumeration table column >>= fun next =>
        Table.addColumns source.queryEnumeration next rest)
    cases skips : table.skips column.name with
    | true =>
      rw [Table.addColumn_of_skips _ skips, Column.pending_cons_of_skips skips, pure_bind]
      exact inductionHypothesis table
    | false =>
      cases fails : column.failure? with
      | some failure =>
        rw [Table.addColumn_of_failure _ skips fails, Column.pending_cons_of_new skips default]
        exact Follows.unreadable fails
      | none =>
        cases draws : Column.enumerationName? column.name with
        | none =>
          rw [Table.addColumn_undrawn _ skips fails draws, pure_bind,
            Column.pending_cons_of_new skips (table.draftOf column).property]
          exact Follows.undrawn fails draws (inductionHypothesis _)
        | some name =>
          rw [Table.addColumn_drawing _ skips fails draws, bind_assoc,
            Column.pending_cons_of_new skips default]
          refine Follows.drawing fails draws fun definition => ?_
          rw [pure_bind, Column.pending_putProperty _ _ default
            ((table.draftOf column).property.asEnumerated.withValues definition)]
          exact inductionHypothesis _

end Follows

/-! ### Visits -/

/-- What a run exchanges about one table: the reply to the question for its columns, and the queries
that follow. -/
structure Visit where
  table : Text
  columnList : Http.Reply
  queries : List (Text × Http.Reply)

namespace Visit

variable (visit : Visit)

/-- The exchanges of a visit. -/
def exchanges : Exchanges :=
  { inquiry := .columnList visit.table, reply := visit.columnList } :: visit.queries.map .ofQuery

/-- The columns that the visit delivers. -/
def columns : Feed Column := source.columnsIn visit.table visit.columnList

/-- Those that count. -/
def counted : List Column := Column.counted visit.table (visit.columns source).items

/-- The enumerations that the table draws from. -/
def drawn : List Text := Column.drawn (visit.counted source)

/-- The failure of a visit: of a query, of a column, or of the list of columns in the end. -/
def failure? : Option Failure :=
  (source.failureAmong? visit.queries (visit.counted source)).or
    (Failure.of? (visit.columns source).ending)

/-- The queries of the visit ask for what is not known. -/
def Asks (known : List Text) : Prop := source.Asks known (visit.counted source) visit.queries

end Visit

/-- A table is built as far as its columns go, and then fails if their list does. -/
theorem perform_build {ρ : Type} (answers : EnumSource ρ) (name : Text) (columns : Feed Column)
    (state : Cached ρ) :
    ((Table.build answers name columns).perform state).2 =
        ((Table.addColumns answers { name } columns.items).perform state).2 ∧
      Failure.of? ((Table.build answers name columns).perform state).1 =
        (Failure.of? ((Table.addColumns answers { name } columns.items).perform state).1).or
          (Failure.of? columns.ending) := by
  unfold Table.build
  rw [Attempt.perform_bind]
  obtain ⟨outcome, after⟩ := (Table.addColumns answers { name } columns.items).perform state
  cases outcome with
  | error failure => exact ⟨rfl, rfl⟩
  | ok table => cases columns.ending <;> exact ⟨rfl, rfl⟩

theorem perform_beside {ρ : Type} (work : StateM ρ α) (state : Cached ρ) :
    (Attempt.ofWork (Cached.beside work)).perform state =
      (.ok (work state.rest).1, { cache := state.cache, rest := (work state.rest).2 }) := rfl

/-- The columns of a table are there before the table is built from them. -/
theorem perform_buildTable (table : Text) (state : Cached (Http.Session σ)) :
    (source.buildTable table).perform state =
      (Table.build source.queryEnumeration table (source.columnsIn table
        (send source converter (.columnList table) state.rest).1)).perform
          { cache := state.cache
            rest := (send source converter (.columnList table) state.rest).2 } := by
  unfold Source.buildTable
  rw [Attempt.perform_bind, perform_beside, Exchanges.columns_eq source converter]

/-- Building a table is a visit that asks for the enumerations which are not known. -/
theorem exists_visit {known : List Text} (table : Text) {state : Cached (Http.Session σ)}
    (knows : state.cache.Knows known) :
    ∃ visit : Visit, visit.table = table ∧ visit.Asks source known ∧
      Lead source converter visit.exchanges state.rest
        ((source.buildTable table).perform state).2.rest ∧
      Failure.of? ((source.buildTable table).perform state).1 = visit.failure? source ∧
      (visit.failure? source = none →
        ((source.buildTable table).perform state).2.cache.Knows (known ++ visit.drawn source)) := by
  rw [perform_buildTable source converter]
  have leadsFirst := Exchanges.lead_send source converter (.columnList table) state.rest
  generalize send source converter (.columnList table) state.rest = sending at *
  obtain ⟨reply, between⟩ := sending
  obtain ⟨queries, asks, leads, fails, knowsAfter⟩ := Follows.addColumns source converter
    { name := table } (source.columnsIn table reply).items
    { cache := state.cache, rest := between } knows
  rw [Column.pending_empty] at asks fails knowsAfter
  obtain ⟨sameState, sameFailure⟩ := perform_build source.queryEnumeration table
    (source.columnsIn table reply) { cache := state.cache, rest := between }
  refine ⟨⟨table, reply, queries⟩, rfl, asks, ?_, ?_, fun succeeds => ?_⟩
  · rw [sameState]
    exact leadsFirst.append leads
  · rw [sameFailure, fails]
    rfl
  · rw [sameState]
    refine knowsAfter (fails.trans ?_)
    exact (Option.or_eq_none_iff.mp succeeds).1

end ApiDoc
