/-
This file says what the correction of a document leaves as it is. Every operation has a source among
the given ones and keeps what is unknown of it; where no queries are taken, it keeps its description,
its body and its parameters, but for the formats that are listed and a parameter that may be added. The
rest of the document stays, and gains at most basic authentication.
-/
import ApiDoc.Proofs.ImpliedMethods

namespace ApiDoc

/-! ### Parameters -/

namespace Parameter

/-- The keys of a schema that tell the formats. -/
def formatKeys : List Text := ["enum", "default"]

/-- The schema that the formats are listed in: a schema of strings, if there is none. -/
def baseSchema (parameter : Parameter) : Dict Json :=
  match parameter.schema with
  | none | some [] => stringSchema
  | some schema => schema

/-- What becomes of a parameter: only a parameter of format changes, and only in the keys of its schema
that tell the formats. -/
structure Kept (given result : Parameter) : Prop where
  other : given.name ≠ some "format" → result = given
  format : given.name = some "format" → ∃ schema,
    result = { given with schema := some schema } ∧
      schema.get? "enum" = some (.array (formats.map .string)) ∧
      schema.get? "default" = some (.string defaultFormat) ∧
      schema.without formatKeys = given.baseSchema.without formatKeys

theorem listFormats_schema (parameter : Parameter) :
    listFormats (parameter.schema.getD []) =
      (parameter.baseSchema.insert "enum" (.array (formats.map .string))).insert "default"
        (.string defaultFormat) := by
  unfold listFormats baseSchema
  rcases parameter.schema with - | - | ⟨entry, rest⟩ <;> rfl

theorem kept_withFormats (parameter : Parameter) : Kept parameter parameter.withFormats where
  other different := if_neg different
  format same := by
    refine ⟨listFormats (parameter.schema.getD []), if_pos same, ?_, ?_, ?_⟩
    · rw [listFormats_schema, Dict.get?_insert_of_ne _ (by decide), Dict.get?_insert_self]
    · rw [listFormats_schema, Dict.get?_insert_self]
    · rw [listFormats_schema, Dict.without_insert (by decide), Dict.without_insert (by decide)]

theorem forall₂_kept_withFormats (parameters : List Parameter) :
    List.Forall₂ Kept parameters (parameters.map withFormats) := by
  rw [List.forall₂_map_right_iff, List.forall₂_same]
  exact fun parameter _ => parameter.kept_withFormats

end Parameter

/-! ### Operations -/

namespace Operation

/-- The parameter that an operation under a path lacks, if any: the format of a report, or the type of
the answer where no format is told. -/
def lacking (path : Text) (operation : Operation) : List Parameter :=
  if Path.isReport path then
    if operation.hasParameter "format" "path" then [] else [Parameter.format.withFormats]
  else if Path.hasFormat path || operation.hasParameter "Accept" "header" then []
  else [.accept]

/-- What an operation keeps of its source under a path. -/
structure Kept (path : Text) (source result : Operation) : Prop where
  extra : result.extra = source.extra
  responses : result.responses = Response.all path
  description : Path.isQuery path = false → result.description = source.description
  requestBody : Path.isQuery path = false → result.requestBody = source.requestBody
  parameters : Path.isQuery path = false → ∃ kept,
    List.Forall₂ Parameter.Kept source.parameters kept ∧
      result.parameters = kept ++ source.lacking path

variable {path : Text}

@[simp] theorem asked_description (path : Text) (operation : Operation) :
    (operation.asked path).description = operation.description := by
  unfold asked addReportFormat
  split
  · split <;> rfl
  · rfl

theorem parameters_completed (formatted : Path.isReport path = true → Path.hasFormat path = true)
    (operation : Operation) :
    (operation.completed path).parameters =
      operation.parameters.map Parameter.withFormats ++ operation.lacking path := by
  unfold completed asked lacking correct
  cases report : Path.isReport path with
  | true =>
    rw [if_pos rfl, if_pos rfl, if_pos (formatted report), addReportFormat]
    dsimp only
    split
    · rw [addFormats_parameters, List.append_nil]
    · rw [addFormats_parameters, addParameter, List.map_append]
      rfl
  | false =>
    rw [if_neg Bool.false_ne_true, if_neg Bool.false_ne_true]
    cases Path.hasFormat path with
    | true => exact (addFormats_parameters _).trans (List.append_nil _).symm
    | false =>
      rw [if_neg Bool.false_ne_true, addAccept, Bool.false_or]
      dsimp only
      split
      · rw [addFormats_parameters, List.append_nil]
      · rw [addFormats_parameters, addParameter, List.map_append]
        rfl

theorem kept_completed (formatted : Path.isReport path = true → Path.hasFormat path = true)
    (operation : Operation) : operation.Kept path (operation.completed path) where
  extra := by simp [completed]
  responses := rfl
  description _ := by simp [completed]
  requestBody _ := by simp [completed]
  parameters _ :=
    ⟨_, Parameter.forall₂_kept_withFormats _, parameters_completed formatted operation⟩

/-- An operation that a query makes of another keeps no more than what is unknown of it. -/
theorem kept_of_isQuery (queries : Path.isQuery path = true) {source operation : Operation}
    (same : operation.extra = source.extra) : Kept path source (operation.correct path) where
  extra := (correct_extra path operation).trans same
  responses := rfl
  description ordinary := absurd (queries.symm.trans ordinary) Bool.true_eq_false.mp
  requestBody ordinary := absurd (queries.symm.trans ordinary) Bool.true_eq_false.mp
  parameters ordinary := absurd (queries.symm.trans ordinary) Bool.true_eq_false.mp

theorem kept_posted (formatted : Path.isReport path = true → Path.hasFormat path = true)
    (post : Operation) : post.Kept path ((post.posted path).correct path) := by
  cases queries : Path.isQuery path with
  | true => exact kept_of_isQuery queries (posted_extra path post)
  | false =>
    rw [posted, queries]
    exact kept_completed formatted post

end Operation

/-! ### Path items -/

namespace PathItem

variable {path : Text} {item : PathItem}

theorem addMissing_extra (path : Text) (item : PathItem) :
    (item.addMissing path).extra = item.extra := by
  unfold addMissing addStarql
  split
  · rfl
  · split
    · split <;> rfl
    · rfl

theorem correctMethods_extra (path : Text) (item : PathItem) :
    (item.correctMethods path).extra = item.extra := by
  have choice := methodChoice_correctMethods path item
  generalize item.correctMethods path = chosen at choice
  cases choice <;> rfl

theorem corrected_extra (path : Text) (item : PathItem) :
    (item.corrected path).extra = item.extra :=
  (correctMethods_extra path (item.addMissing path)).trans (addMissing_extra path item)

/-- An operation under a method comes from the POST, if the path has put it there or nothing else was
there, and else from the operation under the same method. -/
def ComesFrom (path : Text) (given : PathItem) (method origin : Method) : Prop :=
  origin = .post ∧
      (Path.PutsUnder path (given.sendsBody path) method ∨ given.operation? method = none) ∨
    origin = method ∧
      (given.post = none ∨ ¬ Path.PutsUnder path (given.sendsBody path) method)

/-- What an item keeps under a path. -/
structure Kept (path : Text) (given result : PathItem) : Prop where
  extra : result.extra = given.extra
  operations : ∀ method operation, result.operation? method = some operation →
    ∃ origin source, given.operation? origin = some source ∧ ComesFrom path given method origin ∧
      source.Kept path operation

/-- What stands under a method is what the path makes of the POST, if it puts that there or nothing was
there; else it has stayed. -/
theorem put_or_stayed {post : Operation} (given : item.post = some post) {method : Method}
    {operation : Operation} (found : (item.corrected path).operation? method = some operation) :
    (Path.PutsUnder path (item.sendsBody path) method ∨ item.operation? method = none) ∧
        (some ((post.posted path).correct path) = some operation ∨
          Path.isQuery path = true ∧ some (post.asStarqlGet.correct path) = some operation) ∨
      ¬ Path.PutsUnder path (item.sendsBody path) method ∧
        (method = .post ∧ some ((post.posted path).correct path) = some operation ∨
          (item.operation? method).map (Operation.completed path) = some operation) := by
  have gotten : item.get = item.operation? .get := rfl
  rw [operation?_corrected_of_posted given] at found
  rw [Path.PutsUnder]
  grind

theorem kept_corrected (formatted : Path.isReport path = true → Path.hasFormat path = true)
    (item : PathItem) : Kept path item (item.corrected path) where
  extra := corrected_extra path item
  operations method operation found := by
    cases given : item.post with
    | none =>
      rw [operation?_corrected_of_unposted given, Option.map_eq_some_iff] at found
      obtain ⟨source, known, rfl⟩ := found
      exact ⟨method, source, known, Or.inr ⟨rfl, Or.inl given⟩, source.kept_completed formatted⟩
    | some post =>
      rcases put_or_stayed given found with ⟨put, made⟩ | ⟨unput, stays⟩
      · refine ⟨.post, post, given, Or.inl ⟨rfl, put⟩, ?_⟩
        rcases made with same | ⟨queries, same⟩
        · exact Option.some_inj.mp same ▸ post.kept_posted formatted
        · exact Option.some_inj.mp same ▸ Operation.kept_of_isQuery queries rfl
      · rcases stays with ⟨rfl, same⟩ | kept
        · exact ⟨.post, post, given, Or.inr ⟨rfl, Or.inr unput⟩,
            Option.some_inj.mp same ▸ post.kept_posted formatted⟩
        · obtain ⟨source, known, rfl⟩ := Option.map_eq_some_iff.mp kept
          exact ⟨method, source, known, Or.inr ⟨rfl, Or.inr unput⟩,
            source.kept_completed formatted⟩

end PathItem

namespace Document

/-- What a document keeps, and what it gains. -/
structure Kept (servers : List (Dict Json)) (given result : Document) : Prop where
  paths : List.Forall₂ (fun before after =>
    after.1 = Path.corrected before.1 ∧ before.2.Kept after.1 after.2) given.paths result.paths
  openapi : result.openapi = given.openapi
  info : result.info = given.info
  extra : result.extra = given.extra
  schemas : result.components.schemas = given.components.schemas
  componentsExtra : result.components.extra = given.components.extra
  securitySchemes : result.components.securitySchemes = given.components.securitySchemes ++
    if basicSchemeName ∈ given.components.securitySchemes.keys then []
    else [(basicSchemeName, basicScheme)]
  security : result.security = given.security ++
    if basicRequirement ∈ given.security then [] else [basicRequirement]
  servers : result.servers = servers

/-- Where no two paths become the same, the correction changes nothing but what it is for. -/
theorem correct_keeps (servers : List (Dict Json)) {document : Document}
    (distinct : document.correctedPaths.Nodup) :
    Kept servers document (document.correct servers) where
  paths := by
    rw [paths_correct_of_nodup servers distinct, List.forall₂_map_right_iff, List.forall₂_same]
    intro entry _
    exact ⟨rfl, PathItem.kept_corrected Path.hasFormat_of_isReport entry.2⟩
  openapi := rfl
  info := rfl
  extra := rfl
  schemas := rfl
  componentsExtra := rfl
  securitySchemes := by
    show Dict.insertIfNew document.components.securitySchemes basicSchemeName basicScheme = _
    unfold Dict.insertIfNew
    simp only [Dict.hasKey_iff]
    split
    · rw [List.append_nil]
    · rfl
  security := by
    show (if document.security.contains basicRequirement then document.security
      else document.security ++ [basicRequirement]) = _
    simp only [List.contains_iff_mem]
    split
    · rw [List.append_nil]
    · rfl
  servers := rfl

/-- A photo that is posted, beside a report that lists formats of its own, with further members
everywhere. -/
def photoAndReport : Document where
  info := some [("title", .string "Rooms")]
  paths :=
    [("/photo/{tablename}",
        { post := some
            { description := some "Photo"
              parameters := [{ name := some "tablename", location := some "path" }]
              extra := [("operationId", .string "Photo")] }
          extra := [("summary", .string "Photos")] }),
      ("/getreport/{id}",
        { get := some
            { parameters := [{ name := some "format", schema := some [("type", .string "text"),
                ("enum", .array [])] }]
              extra := [("tags", .array [])] } })]
  components :=
    { schemas := [("Room", .object [])]
      securitySchemes := [("Basic", [("type", .string "apiKey")])]
      extra := [("links", .object [])] }
  security := [[("Key", [])]]
  extra := [("tags", .array [])]

theorem correct_keeps_photoAndReport :
    photoAndReport.correctedPaths.Nodup ∧
      Kept [[("url", .string "/")]] photoAndReport (photoAndReport.correct [[("url", .string "/")]]) :=
  have distinct : photoAndReport.correctedPaths.Nodup := by decide +kernel
  ⟨distinct, correct_keeps _ distinct⟩

end Document

end ApiDoc
