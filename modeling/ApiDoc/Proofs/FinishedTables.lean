/-
This file says which tables a run finishes: one for every name in the list of tables, in the order in
which the names first come, and each of them plain.
-/
import ApiDoc.Proofs.Compilation
import ApiDoc.Proofs.PlainTables
import ApiDoc.Proofs.Visits

namespace ApiDoc.Source

variable {σ : Type} (source : Source σ)

/-! ### One table -/

theorem isShort_json {reply : Http.Reply} {limit : Nat} {url shown : Text}
    {describe : Json.BodyDefect → Malformation} {value : Json}
    (gives : reply.json limit url shown describe = .ok value) : value.IsShort := by
  obtain ⟨answer, _, wholly⟩ := bind_eq_ok_iff.mp gives
  obtain ⟨body, _, reads⟩ := bind_eq_ok_iff.mp wholly
  split at reads
  · rename_i read
    cases reads
    exact Json.isShort_readBody read
  · cases reads

/-- Whatever a service answers, the identifiers of its enumerations are short. -/
theorem givesShort_queryEnumeration : EnumSource.GivesShort source.queryEnumeration := by
  intro name session definition gives
  rw [Exchanges.perform_queryEnumeration source { url := [], remote := source.remote }] at gives
  obtain ⟨rows, read, given⟩ := bind_eq_ok_iff.mp gives
  exact Enumeration.isShort_ofJson (isShort_json read) given

theorem ensures_buildTable {name : Text} (proper : name.IsProper) :
    Attempt.Ensures (·.cache.IsShort) (Table.IsPlainNamed name) (source.buildTable name) := by
  refine (Cached.ensures_beside EnumCache.IsShort (source.isProper_columns name)).bind ?_
  exact fun feed => Table.ensures_build source.givesShort_queryEnumeration proper

/-! ### All tables -/

/-- The tables that a run gets are plain, and if their sequence ends well there is one for every name
that was not seen before. -/
theorem finished_tablesFrom (ending : Except Failure Unit) {names : List Text}
    (proper : ∀ name ∈ names, name.IsProper) (seen : List Text) {state : Cached (Http.Session σ)}
    (short : state.cache.IsShort) {tables : List Table}
    (finished : (source.tablesFrom ending none seen names state).1.toExcept = .ok tables) :
    (∀ table ∈ tables, table.IsPlain) ∧ tables.map (·.name) = newNames seen names := by
  induction names generalizing seen state tables with
  | nil =>
    cases ending with
    | error failure => cases finished
    | ok =>
      cases finished
      exact ⟨fun _ member => absurd member List.not_mem_nil, rfl⟩
  | cons name rest inductionHypothesis =>
    have properRest : ∀ other ∈ rest, other.IsProper := fun other member =>
      proper other (.tail _ member)
    by_cases member : name ∈ seen
    · rw [tablesFrom, if_pos member] at finished
      rw [newNames_cons_of_mem member]
      exact inductionHypothesis properRest seen short finished
    · obtain ⟨shortAfter, plain⟩ :=
        source.ensures_buildTable (proper name List.mem_cons_self) state short
      rw [source.tablesFrom_cons ending member] at finished
      rw [newNames_cons_of_not_mem member]
      generalize (source.buildTable name).perform state = built at *
      obtain ⟨outcome, after⟩ := built
      cases outcome with
      | error failure => cases finished
      | ok table =>
        obtain ⟨plainTable, named⟩ := plain table rfl
        dsimp only at finished
        rw [Feed.toExcept_cons] at finished
        obtain ⟨others, later, rfl⟩ := map_eq_ok_iff.mp finished
        obtain ⟨plainOthers, names⟩ :=
          inductionHypothesis properRest (name :: seen) shortAfter later
        refine ⟨List.forall_mem_cons.mpr ⟨plainTable, plainOthers⟩, ?_⟩
        rw [List.map_cons, named, names]

/-- A run that finishes its tables has one for every name in the list of tables, in the order in
which they first come, and all of them are plain. -/
theorem finished_tables {state : Cached (Http.Session σ)} (short : state.cache.IsShort)
    {tables : List Table} (finished : (source.tables none state).1.toExcept = .ok tables) :
    (∀ table ∈ tables, table.IsPlain) ∧
      tables.map (·.name) = (source.tableNames state.rest).1.items.eraseDups := by
  rw [tables_eq] at finished
  rw [← newNames_nil_known]
  refine source.finished_tablesFrom _ (source.isProper_tableNames state.rest) [] ?_ finished
  exact short

end ApiDoc.Source
