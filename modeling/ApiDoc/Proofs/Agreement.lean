/-
This file proves that the two outputs of a run agree on the tables. Where the questions about tables
are replied to by the requests alone, every run gets the same tables or the same failure, whatever was
asked before. The models text holds their schemas in the order of the list of tables, and the
documentation holds the same schemas in ascending order of their names.
-/
import ApiDoc.Document.Reference
import ApiDoc.Proofs.GivenTables
import ApiDoc.Proofs.ModelsText

namespace ApiDoc

/-! ### Schemas of documents -/

/-- The schemas among the components of a document. -/
def Json.schemas? (document : Json) : Option Json :=
  (document.member? "components").bind (·.member? "schemas")

theorem Document.schemas?_compose (document : Document) (schemas : Dict Json) :
    (document.compose schemas).schemas? = some (.object schemas.sorted) := by
  obtain ⟨openapi, info, servers, paths, components, security, extra⟩ := document
  cases info <;> rfl

namespace Source

variable {σ : Type} {source : Source σ} {reply : Http.Request → Http.Reply}

/-! ### One outcome for every run -/

/-- All tables that the replies give, for the names in the list of tables that a reply gives. -/
def tablesGiven (source : Source σ) (reply : Http.Request → Http.Reply) :
    Except Failure (List Table) :=
  let names := source.tableNamesIn (source.replyTo reply .tableList)
  (names.items.eraseDups.mapM (source.tableGiven reply)).bind fun tables =>
    names.ending.map fun _ => tables

theorem RepliesBy.tableNames (replies : source.RepliesBy reply (·.isOfTables))
    (session : Http.Session σ) :
    (source.tableNames session).1 = source.tableNamesIn (source.replyTo reply .tableList) := by
  rw [Exchanges.tableNames_eq source { url := [], remote := source.remote }]
  have asked : Inquiry.tableList.isOfTables = true := rfl
  exact congrArg source.tableNamesIn (replies.send_eq asked session)

theorem RepliesBy.toExcept_finish (replies : source.RepliesBy reply (·.isOfTables))
    (session : Http.Session σ) :
    (source.finish session).1.toExcept = source.tablesGiven reply := by
  let state : Cached (Http.Session σ) := { cache := {}, rest := session }
  have about : source.RepliesBy reply (Inquiry.IsAbout (source.tableNames state.rest).1.items) :=
    replies.mono fun _ => Inquiry.IsAbout.isOfTables
  have outcome := about.toExcept_tables EnumCache.holds_empty
  rw [replies.tableNames state.rest] at outcome
  exact outcome

/-! ### Two outputs -/

/-- A models text and a documentation text are written of the same tables. -/
structure Agree (names : List Text) (tables : List Table) (models documentation : Text) : Prop where
  /-- The models text is an object with the schemas of the tables, written piece by piece. -/
  pieces : models = Text.ofPieces (modelPieces tables)
  /-- The tables are in the order in which their names come first, and the object can be read. -/
  isText : IsTextOf names tables models
  /-- The documentation text is a document that has the same schemas under the same names, in strictly
  ascending order of the names. -/
  documented : ∃ document schemas, documentation = Document.serialize document ∧
    document.schemas? = some (.object schemas) ∧
    schemas.Perm (tables.map fun table => (table.name, table.toJson)) ∧
    (Dict.keys schemas).Pairwise fun first second => second.le first = false

theorem agree_of_finish {session : Http.Session σ} {tables : List Table}
    (finished : (source.finish session).1.toExcept = .ok tables) (document : Document) :
    Agree (source.tableNames session).1.items tables (Text.ofPieces (modelPieces tables))
      (Document.serialize (document.compose (schemasOf tables))) := by
  have isText := source.isTextOf_modelPieces { cache := {}, rest := session }
    EnumCache.isShort_empty finished
  dsimp only at isText
  have keys : Dict.keys (tables.map fun table => (table.name, table.toJson)) =
      tables.map (·.name) := by
    simp [Dict.keys, Function.comp_def]
  have distinct := isText.distinct
  rw [← keys] at distinct
  have perm : (schemasOf tables).sorted.Perm
      (tables.map fun table => (table.name, table.toJson)) := by
    unfold schemasOf
    rw [Dict.ofEntries_of_nodup distinct]
    exact (Dict.perm_sorted _).trans (Dict.perm_sorted _)
  refine ⟨rfl, isText, _, _, rfl, document.schemas?_compose (schemasOf tables), perm, ?_⟩
  refine Dict.ascending_keys_sorted (Dict.nodup_keys_of_perm ?_ distinct)
  exact (Dict.perm_sorted _).symm.trans perm

variable (source) in
theorem outcome_models (session : Http.Session σ) :
    (source.models.perform session).1 =
      (source.finish session).1.toExcept.map fun tables => Text.ofPieces (modelPieces tables) := by
  rw [perform_models]

variable (source) in
theorem outcome_fresh_schemas (session : Http.Session σ) :
    ((Cached.fresh source.schemas).perform session).1 =
      (source.finish session).1.toExcept.map schemasOf := by
  rw [perform_schemas]
  dsimp only
  rfl

/-- The two outputs of a service agree on the schemas, if it replies to questions about tables by the
requests alone. Where there are models, the schemas are collected; where there is a documentation,
there are models, and both are written of the same tables; and where the document of a service is
there but its models fail, the documentation fails as they do. The sessions of the runs may differ:
what was asked before makes no difference. (Labels in which the halves of a surrogate pair meet are
the same in both objects; only what is read of the models text has them joined.) -/
theorem outputs_agree (replies : source.RepliesBy reply (·.isOfTables))
    (converter : Converter σ) (session other : Http.Session σ) :
    (∀ models, (source.models.perform session).1 = .ok models →
      ∃ schemas, ((Cached.fresh source.schemas).perform other).1 = .ok schemas) ∧
    (∀ documentation, ((source.documentation converter).perform other).1 = .ok documentation →
      ∃ tables models, (source.models.perform session).1 = .ok models ∧
        Agree (source.tableNames session).1.items tables models documentation) ∧
    ∀ description asked converted between document failure,
      source.description.perform other = (.ok description, asked) →
      (converter.convert description).perform asked = (.ok converted, between) →
      Document.ofConverted converted = .ok document →
      (source.models.perform session).1 = .error failure →
      ((source.documentation converter).perform other).1 = .error failure := by
  have models := source.outcome_models session
  have schemas := source.outcome_fresh_schemas
  simp only [replies.toExcept_finish] at models schemas
  rw [models]
  refine ⟨?collected, ?documented, ?failed⟩
  case collected =>
    intro text succeeds
    obtain ⟨tables, given, -⟩ := map_eq_ok_iff.mp succeeds
    exact ⟨schemasOf tables, by rw [schemas, given]; rfl⟩
  case documented =>
    intro text succeeds
    obtain ⟨_, _, _, between, document, collected, -, -, -, collects, rfl⟩ :=
      source.perform_documentation_eq_ok (Prod.ext succeeds rfl)
    have outcome := congrArg Prod.fst collects
    rw [schemas between] at outcome
    obtain ⟨tables, given, rfl⟩ := map_eq_ok_iff.mp outcome
    refine ⟨tables, _, by rw [given]; rfl, ?_⟩
    exact agree_of_finish ((replies.toExcept_finish session).trans given) _
  case failed =>
    intro description asked converted between document failure describes converts reads fails
    have given : source.tablesGiven reply = .error failure := by
      cases given : source.tablesGiven reply with
      | ok => rw [given] at fails; cases fails
      | error other => rw [given] at fails; cases fails; rfl
    rw [source.outcome_documentation describes converts reads, schemas, given]
    rfl

/-! ### Two services -/

/-- A service with the same two names of tables and of columns, of which one column draws from an
enumeration with given rows. -/
def enumerating (rows : String) : Source Unit where
  connection := { productionUrl := "http://host/services", developmentUrl := "http://host/dev" }
  environment := .production
  remote := fun request state => match request.method with
    | .get =>
      if request.accept = "application/json" then (.ok (.success "\x7b\x7d"), state)
      else (.ok (.success "<list><Room/><KindEnum/></list>"), state)
    | .post => (.ok (.success rows), state)

/-- A converter that answers with an empty document. -/
def emptyConverter : Converter Unit where
  url := "http://host/convert"
  remote := fun _ state => (.ok (.success "\x7b\x7d"), state)

theorem repliesBy_enumerating (rows : String) (kind : Inquiry → Prop) :
    (enumerating rows).RepliesBy (fun request => ((enumerating rows).remote request ()).1) kind :=
  fun _ _ _ _ _ => rfl

theorem eq_ok_of_toOption {ρ α : Type} {result : Except Failure α × ρ} {value : α}
    (succeeds : result.1.toOption = some value) : result = (.ok value, result.2) := by
  obtain ⟨outcome, after⟩ := result
  cases outcome with
  | error failure => cases succeeds
  | ok given => exact congrArg (Except.ok · , after) (Option.some_inj.mp succeeds)

theorem exists_eq_ok_of_isSome {α : Type} {outcome : Except Failure α}
    (succeeds : outcome.toOption.isSome = true) : ∃ value, outcome = .ok value := by
  cases outcome with
  | error failure => cases succeeds
  | ok value => exact ⟨value, rfl⟩

theorem exists_documentation_enumerating :
    ∃ documentation,
      (((enumerating "[]").documentation emptyConverter).perform { remote := () }).1 =
        .ok documentation :=
  exists_eq_ok_of_isSome (by decide +kernel)

/-- With rows that can be read, there are both outputs; with others, there is neither. -/
theorem outputs_agree_enumerating :
    (∃ documentation tables models,
      (((enumerating "[]").documentation emptyConverter).perform { remote := () }).1 =
        .ok documentation ∧
      ((enumerating "[]").models.perform { remote := () }).1 = .ok models ∧
      Agree ((enumerating "[]").tableNames { remote := () }).1.items tables models documentation) ∧
    ∃ failure,
      ((enumerating "0").models.perform { remote := () }).1 = .error failure ∧
      (((enumerating "0").documentation emptyConverter).perform { remote := () }).1 =
        .error failure := by
  constructor
  · obtain ⟨documentation, documented⟩ := exists_documentation_enumerating
    obtain ⟨tables, models, written, agree⟩ :=
      (outputs_agree (repliesBy_enumerating "[]" _) emptyConverter { remote := () }
        { remote := () }).2.1 documentation documented
    exact ⟨documentation, tables, models, documented, written, agree⟩
  · have fails : ((enumerating "0").models.perform { remote := () }).1.toOption = none := by
      decide +kernel
    have describes : ((enumerating "0").description.perform { remote := () }).1.toOption =
        some (.object []) := by
      decide +kernel
    have converts : ((emptyConverter.convert (.object [])).perform
        ((enumerating "0").description.perform { remote := () }).2).1.toOption =
          some (.object []) := by
      decide +kernel
    cases outcome : ((enumerating "0").models.perform { remote := () }).1 with
    | ok models =>
      rw [outcome] at fails
      cases fails
    | error failure =>
      exact ⟨failure, rfl, (outputs_agree (repliesBy_enumerating "0" _) emptyConverter
        { remote := () } { remote := () }).2.2 _ _ _ _ _ failure (eq_ok_of_toOption describes)
          (eq_ok_of_toOption converts) rfl outcome⟩

end Source

end ApiDoc
