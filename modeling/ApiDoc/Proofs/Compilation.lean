/-
This file says how compilations end: with the tables that are finished if their sequence ends well, and
else with the failure that ends it.
-/
import ApiDoc.Compilation.Documentation
import ApiDoc.Compilation.Models
import ApiDoc.Proofs.Attempts

namespace ApiDoc

theorem Cached.perform_fresh {σ α : Type} (work : Attempt (Cached σ) α) (state : σ) :
    (Cached.fresh work).perform state =
      ((work.perform { cache := {}, rest := state }).1,
        (work.perform { cache := {}, rest := state }).2.rest) := rfl

theorem Feed.toExcept_cons {α : Type} (item : α) (feed : Feed α) :
    (feed.cons item).toExcept = feed.toExcept.map (item :: ·) := by
  obtain ⟨items, ending⟩ := feed
  cases ending <;> rfl

/-- What is made of the items of a stream is there if the stream ends well. -/
theorem Feed.perform_finished {σ α β : Type} (work : StateM σ (Feed α)) (next : List α → β)
    (state : σ) :
    (do
      let feed ← Attempt.ofWork work
      let items ← Attempt.ofExcept feed.toExcept
      return next items : Attempt σ β).perform state =
      ((work state).1.toExcept.map next, (work state).2) := by
  rw [Attempt.perform_bind, Attempt.perform_ofWork]
  obtain ⟨feed, after⟩ := work state
  show (Attempt.ofExcept feed.toExcept >>= fun items => pure (next items) :
    Attempt σ β).perform after = _
  rw [Attempt.perform_bind, Attempt.perform_ofExcept]
  cases feed.toExcept <;> rfl

namespace Source

variable {σ : Type} (source : Source σ)

/-- The tables of a run that starts with an empty cache, and what the run leaves behind. -/
def finish (session : Http.Session σ) : Feed Table × Cached (Http.Session σ) :=
  source.tables none { cache := {}, rest := session }

/-- A table that is not seen yet is built before the tables after it, and they only if it does not
fail. -/
theorem tablesFrom_cons (ending : Except Failure Unit) {seen : List Text}
    {name : Text} (new : name ∉ seen) (rest : List Text) (state : Cached (Http.Session σ)) :
    source.tablesFrom ending none seen (name :: rest) state =
      match (source.buildTable name).perform state with
      | (.error failure, after) => (.failed failure, after)
      | (.ok table, after) =>
        ((source.tablesFrom ending none (name :: seen) rest after).1.cons table,
          (source.tablesFrom ending none (name :: seen) rest after).2) := by
  rcases built : (source.buildTable name).perform state with ⟨outcome, after⟩
  have ran : (source.buildTable name).run state = (outcome, after) := built
  rw [tablesFrom, if_neg new]
  simp only [bind, StateT.bind, ran]
  cases outcome <;> rfl

/-- The tables of a run are those of its list of tables. -/
theorem tables_eq (state : Cached (Http.Session σ)) :
    source.tables none state =
      source.tablesFrom (source.tableNames state.rest).1.ending none []
        (source.tableNames state.rest).1.items
        { cache := state.cache, rest := (source.tableNames state.rest).2 } := by
  unfold tables Cached.beside
  simp only [bind, StateT.bind]
  cases source.tableNames state.rest
  rfl

/-- The schemas of the finished tables are the outcome, unless their sequence fails. -/
theorem perform_schemas (session : Http.Session σ) :
    (Cached.fresh source.schemas).perform session =
      ((source.finish session).1.toExcept.map fun tables =>
          (Dict.ofEntries (tables.map fun table => (table.name, table.toJson))).sorted,
        (source.finish session).2.rest) := by
  unfold Source.schemas finish
  rw [Cached.perform_fresh, Feed.perform_finished]

/-- The pieces of the text of all models: the members between braces. -/
def modelPieces (tables : List Table) : List Text :=
  ("\x7b" : Text) :: memberChunks tables ++ [("\x7d" : Text)]

/-- A consumer who never stops gets the pieces of all finished tables. -/
theorem modelChunks_none (state : Cached (Http.Session σ)) :
    ((source.modelChunks none state).1.toExcept, (source.modelChunks none state).2) =
      ((source.tables none state).1.toExcept.map modelPieces, (source.tables none state).2) := by
  unfold modelChunks
  rw [Option.any_none, Option.map_none, if_neg Bool.false_ne_true]
  simp only [bind, StateT.bind]
  obtain ⟨tables, after⟩ := source.tables none state
  unfold Feed.toExcept
  cases ended : tables.ending <;> simp only [ended] <;> rfl

/-- The models text is the pieces of all finished tables, unless their sequence fails. -/
theorem perform_models (session : Http.Session σ) :
    source.models.perform session =
      ((source.finish session).1.toExcept.map fun tables => Text.ofPieces (modelPieces tables),
        (source.finish session).2.rest) := by
  unfold Source.models
  rw [Cached.perform_fresh, Feed.perform_finished]
  have chunks := source.modelChunks_none { cache := {}, rest := session }
  rw [Prod.mk.injEq] at chunks
  rw [chunks.1, chunks.2]
  unfold finish
  cases (source.tables none { cache := {}, rest := session }).1.toExcept <;> rfl

/-- The documentation is composed in four steps, of which the first that fails ends it. -/
theorem perform_composition (converter : Converter σ) (room : Room) (session : Http.Session σ) :
    (source.composition converter room).perform session =
      match source.description.perform session with
      | (.error failure, after) => (.error failure, after)
      | (.ok description, after) => match (converter.convert description).perform after with
        | (.error failure, after) => (.error failure, after)
        | (.ok converted, after) => match source.corrected room converted with
          | .error failure => (.error failure, after)
          | .ok document => match (Cached.fresh source.schemas).perform after with
            | (.error failure, after) => (.error failure, after)
            | (.ok schemas, after) => (.ok (document.compose schemas), after) := by
  unfold Source.composition
  rw [Attempt.perform_bind]
  rcases source.description.perform session with ⟨described, after⟩
  cases described with
  | error failure => rfl
  | ok description =>
    dsimp only
    rw [Attempt.perform_bind]
    rcases (converter.convert description).perform after with ⟨answered, after⟩
    cases answered with
    | error failure => rfl
    | ok converted =>
      dsimp only
      rw [Attempt.perform_bind, Attempt.perform_ofExcept]
      cases source.corrected room converted with
      | error failure => rfl
      | ok document =>
        dsimp only
        rw [Attempt.perform_bind]
        rcases (Cached.fresh source.schemas).perform after with ⟨finished, after⟩
        cases finished <;> rfl

/-- What was composed is written down if there is room for it. -/
theorem perform_documentation_within (converter : Converter σ) (room : Room)
    (session : Http.Session σ) :
    (source.documentation converter room).perform session =
      (((source.composition converter room).perform session).1 >>= Document.serializeWithin room,
        ((source.composition converter room).perform session).2) := by
  unfold Source.documentation
  rw [Attempt.perform_bind]
  rcases (source.composition converter room).perform session with ⟨_ | composed, after⟩ <;> rfl

/-- To write down what was composed leaves nothing behind. -/
theorem perform_documentation_snd (converter : Converter σ) (room : Room)
    (session : Http.Session σ) :
    ((source.documentation converter room).perform session).2 =
      ((source.composition converter room).perform session).2 := by
  rw [perform_documentation_within]

/-- Where there is room for all a converted document is corrected if it can be read. -/
theorem corrected_of_room (converted : Json) :
    source.corrected {} converted =
      (Document.ofConverted converted).map (·.correct source.connection.servers) := by
  unfold Source.corrected
  cases Document.ofConverted converted with
  | error failure => rfl
  | ok document => exact if_pos (List.all_eq_true.mpr fun _ _ => rfl)

/-- The documentation is made in four steps, of which the first that fails ends it. -/
theorem perform_documentation (converter : Converter σ) (session : Http.Session σ) :
    (source.documentation converter).perform session =
      match source.description.perform session with
      | (.error failure, after) => (.error failure, after)
      | (.ok description, after) => match (converter.convert description).perform after with
        | (.error failure, after) => (.error failure, after)
        | (.ok converted, after) => match Document.ofConverted converted with
          | .error failure => (.error failure, after)
          | .ok document => match (Cached.fresh source.schemas).perform after with
            | (.error failure, after) => (.error failure, after)
            | (.ok schemas, after) =>
              (.ok (Document.serialize
                ((document.correct source.connection.servers).compose schemas)), after) := by
  rw [perform_documentation_within, perform_composition]
  rcases source.description.perform session with ⟨_ | description, after⟩
  · rfl
  dsimp only
  rcases (converter.convert description).perform after with ⟨_ | converted, after⟩
  · rfl
  dsimp only
  rw [corrected_of_room]
  cases Document.ofConverted converted with
  | error failure => rfl
  | ok document =>
    dsimp only [Except.map]
    rcases (Cached.fresh source.schemas).perform after with ⟨_ | schemas, after⟩ <;> rfl

/-- The documentation is there if all four steps succeed. -/
theorem perform_documentation_eq_ok {converter : Converter σ} {session after : Http.Session σ}
    {text : Text} (succeeds : (source.documentation converter).perform session = (.ok text, after)) :
    ∃ description asked converted between document schemas,
      source.description.perform session = (.ok description, asked) ∧
      (converter.convert description).perform asked = (.ok converted, between) ∧
      Document.ofJson converted = .valid document ∧
      (Cached.fresh source.schemas).perform between = (.ok schemas, after) ∧
      text = Document.serialize
        ((document.correct source.connection.servers).compose schemas) := by
  rw [perform_documentation] at succeeds
  rcases described : source.description.perform session with ⟨_ | description, asked⟩ <;>
    rw [described] at succeeds
  · cases succeeds
  dsimp only at succeeds
  rcases answered : (converter.convert description).perform asked with ⟨_ | converted, between⟩ <;>
    rw [answered] at succeeds
  · cases succeeds
  dsimp only at succeeds
  cases given : Document.ofJson converted with
  | invalid issues =>
    rw [Document.ofConverted, given] at succeeds
    cases succeeds
  | valid document =>
    rw [Document.ofConverted, given] at succeeds
    dsimp only at succeeds
    rcases collected : (Cached.fresh source.schemas).perform between with ⟨_ | schemas, finished⟩ <;>
      rw [collected] at succeeds
    · cases succeeds
    rw [Prod.mk.injEq, Except.ok.injEq] at succeeds
    obtain ⟨rfl, rfl⟩ := succeeds
    exact ⟨description, asked, converted, between, document, schemas, rfl, answered, given,
      collected, rfl⟩

/-- Once the document is there, the documentation depends on nothing but the schemas. -/
theorem outcome_documentation {converter : Converter σ} {session asked between : Http.Session σ}
    {description converted : Json} {document : Document}
    (describes : source.description.perform session = (.ok description, asked))
    (converts : (converter.convert description).perform asked = (.ok converted, between))
    (reads : Document.ofConverted converted = .ok document) :
    ((source.documentation converter).perform session).1 =
      ((Cached.fresh source.schemas).perform between).1.map fun schemas =>
        Document.serialize ((document.correct source.connection.servers).compose schemas) := by
  rw [perform_documentation, describes]
  dsimp only
  rw [converts]
  dsimp only
  rw [reads]
  dsimp only
  rcases (Cached.fresh source.schemas).perform between with ⟨_ | schemas, after⟩ <;> rfl

end Source

end ApiDoc
