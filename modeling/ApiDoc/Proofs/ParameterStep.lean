/-
This file says what the step that adds missing parameters does to a corrected document when it is
run alone. No path changes and no operation comes or goes, but the step puts the GET of a query
together anew from the POST, with the query as its only parameter. So it takes from such a GET the
header that the correction gave it, and it leaves a corrected document as it is exactly if there is
no such GET.
-/
import ApiDoc.Proofs.QueryPaths

namespace ApiDoc

/-! ### Operations -/

namespace Operation

/-- The operation without the header that asks for a type of answer. -/
def withoutAccept (operation : Operation) : Operation :=
  { operation with
    parameters := operation.parameters.filter fun parameter =>
      parameter.name ≠ some "Accept" ∨ parameter.location ≠ some "header" }

variable {path : Text}

/-- The GET that is put together anew is the corrected one without its header. -/
theorem asStarqlGet_asStarqlPost_correct (path : Text) (post : Operation) :
    (post.asStarqlPost.correct path).asStarqlGet =
      (post.asStarqlGet.correct path).withoutAccept := by
  rw [asStarqlGet_correct, correct_asStarqlGet, withoutAccept]
  cases Path.hasFormat path <;> rfl

/-- Where the path tells the format, the GET of a query has no header to lose. -/
theorem withoutAccept_correct_asStarqlGet_of_hasFormat (formatted : Path.hasFormat path = true)
    (post : Operation) :
    (post.asStarqlGet.correct path).withoutAccept = post.asStarqlGet.correct path := by
  rw [correct_asStarqlGet, if_pos formatted]
  rfl

/-- Elsewhere it has one. -/
theorem withoutAccept_correct_asStarqlGet_ne (unformatted : Path.hasFormat path = false)
    (post : Operation) :
    (post.asStarqlGet.correct path).withoutAccept ≠ post.asStarqlGet.correct path := by
  rw [correct_asStarqlGet, unformatted]
  intro same
  have parameters : [Parameter.query] = [.query, .accept] := congrArg Operation.parameters same
  exact absurd (congrArg List.length parameters) (by decide)

end Operation

/-! ### Path items -/

namespace PathItem

/-- The item without the header that its GET asks for a type of answer with. -/
def withoutGetAccept (item : PathItem) : PathItem :=
  { item with get := item.get.map Operation.withoutAccept }

/-- Queries are sent to the item in the body of a POST, and their path does not tell the format of
the answer. -/
structure LosesAccept (path : Text) (item : PathItem) : Prop where
  posted : item.post.isSome = true
  asks : path.mentions "query" = true
  unreported : path.mentions "getreport" = false
  unformatted : path.mentions "\x7bformat\x7d" = false

instance (path : Text) (item : PathItem) : Decidable (item.LosesAccept path) :=
  decidable_of_iff
    (item.post.isSome = true ∧ path.mentions "query" = true ∧ path.mentions "getreport" = false ∧
      path.mentions "\x7bformat\x7d" = false)
    ⟨fun ⟨posted, asks, unreported, unformatted⟩ => ⟨posted, asks, unreported, unformatted⟩,
      fun loses => ⟨loses.posted, loses.asks, loses.unreported, loses.unformatted⟩⟩

variable {path : Text} {item : PathItem}

theorem LosesAccept.isQuery (loses : item.LosesAccept path) : Path.isQuery path = true := by
  rw [Path.isQuery, loses.asks, Path.isReport, loses.unreported]
  rfl

/-- A query path that has a POST after its correction had one before, and its GET is of the same
origin. -/
theorem exists_query_of_post_corrected (queries : Path.isQuery path = true) {kept : Operation}
    (posts : (item.corrected path).post = some kept) :
    ∃ post : Operation, kept = post.asStarqlPost.correct path ∧
      (item.corrected path).get = some (post.asStarqlGet.correct path) := by
  cases given : item.post with
  | none =>
    have unposted : (item.corrected path).post = item.post.map (Operation.completed path) :=
      operation?_corrected_of_unposted given .post
    rw [unposted, given] at posts
    cases posts
  | some post =>
    have stands := operation?_corrected_of_isQuery queries given .post
    rw [show (item.corrected path).operation? .post = some kept from posts,
      if_neg (by decide), if_pos rfl] at stands
    refine ⟨post, ?_, operation?_corrected_of_isQuery queries given .get⟩
    split at stands
    · exact Option.some_inj.mp stands
    · cases stands

/-- Putting the queries of a corrected item together anew takes the header from its GET. -/
theorem addStarql_corrected (queries : Path.isQuery path = true)
    (posts : (item.corrected path).post.isSome = true) :
    (item.corrected path).addStarql = (item.corrected path).withoutGetAccept := by
  obtain ⟨kept, posted⟩ := Option.isSome_iff_exists.mp posts
  obtain ⟨post, rfl, gets⟩ := exists_query_of_post_corrected queries posted
  unfold addStarql withoutGetAccept
  rw [posted, gets]
  dsimp only
  rw [Operation.asStarqlPost_correct, Operation.asStarqlGet_asStarqlPost_correct, ← posted]
  rfl

theorem addMissing_corrected_of_losesAccept (loses : (item.corrected path).LosesAccept path) :
    (item.corrected path).addMissing path = (item.corrected path).withoutGetAccept := by
  rw [addMissing_eq_addStarql loses.isQuery, addStarql_corrected loses.isQuery loses.posted]

/-- Nothing else is missing from a corrected item: a report has its format, a query without a POST
has nothing to be put together from, and one whose path tells the format has no header. -/
theorem addMissing_corrected_of_not_losesAccept
    (keeps : ¬ (item.corrected path).LosesAccept path) :
    (item.corrected path).addMissing path = item.corrected path := by
  by_cases reports : Path.isReport path = true
  · rw [addMissing, if_pos reports, corrected, addMissing, if_pos reports, addReportFormat_correct]
  by_cases asking : path.mentions "query" = true
  · have unreported : Path.isReport path = false := Bool.not_eq_true _ ▸ reports
    have queries : Path.isQuery path = true := by rw [Path.isQuery, asking, unreported]; rfl
    rw [addMissing_eq_addStarql queries]
    cases posted : (item.corrected path).post with
    | none => exact addStarql_of_post_none posted
    | some kept =>
      have posts : (item.corrected path).post.isSome = true := Option.isSome_of_mem posted
      have formatted : Path.hasFormat path = true := Bool.of_not_eq_false fun unformatted =>
        keeps ⟨posts, asking, unreported, unformatted⟩
      obtain ⟨post, -, gets⟩ := exists_query_of_post_corrected queries posted
      rw [addStarql_corrected queries posts, withoutGetAccept, gets, Option.map_some,
        Operation.withoutAccept_correct_asStarqlGet_of_hasFormat formatted, ← gets]
  · rw [addMissing, if_neg reports, if_neg asking]

theorem addMissing_corrected (path : Text) (item : PathItem) :
    (item.corrected path).addMissing path =
      if (item.corrected path).LosesAccept path then (item.corrected path).withoutGetAccept
      else item.corrected path := by
  split
  · rename_i loses
    exact addMissing_corrected_of_losesAccept loses
  · rename_i keeps
    exact addMissing_corrected_of_not_losesAccept keeps

/-- A header that is lost was there. -/
theorem withoutGetAccept_corrected_ne (loses : (item.corrected path).LosesAccept path) :
    (item.corrected path).withoutGetAccept ≠ item.corrected path := by
  obtain ⟨kept, posted⟩ := Option.isSome_iff_exists.mp loses.posted
  obtain ⟨post, -, gets⟩ := exists_query_of_post_corrected loses.isQuery posted
  intro same
  have sameGet := congrArg PathItem.get same
  rw [withoutGetAccept, gets, Option.map_some, Option.some_inj] at sameGet
  exact Operation.withoutAccept_correct_asStarqlGet_ne loses.unformatted post sameGet

end PathItem

/-! ### Documents -/

namespace Document

theorem mapItems_congr {first second : Text → PathItem → PathItem} {document : Document}
    (agree : ∀ path item, (path, item) ∈ document.paths → first path item = second path item) :
    document.mapItems first = document.mapItems second := by
  have changed : document.paths.mapEntries first = document.paths.mapEntries second :=
    List.map_congr_left fun entry member => Prod.ext rfl (agree entry.1 entry.2 member)
  rw [mapItems, changed, mapItems]

theorem mapItems_eq_self_iff (change : Text → PathItem → PathItem) (document : Document) :
    document.mapItems change = document ↔
      ∀ path item, (path, item) ∈ document.paths → change path item = item := by
  refine ⟨fun same path item member => ?_, mapItems_eq_self⟩
  have unchanged : document.paths.mapEntries change = document.paths := congrArg paths same
  have fixed := List.map_inj_left.mp (unchanged.trans (List.map_id _).symm) (path, item) member
  exact congrArg Prod.snd fixed

/-- What the step does to a corrected document is to drop the Accept header of the GETs of queries,
where the path has kept its POST and does not tell the format. All else stays as it is, so the
document stays as it is exactly if it has no such path. -/
theorem addMissingParameters_correct_iff (servers : List (Dict Json)) (document : Document) :
    ((document.correct servers).addMissingParameters = document.correct servers ↔
      ∀ path item, (path, item) ∈ (document.correct servers).paths → ¬ item.LosesAccept path) ∧
    (document.correct servers).addMissingParameters =
      (document.correct servers).mapItems fun path item =>
        if item.LosesAccept path then item.withoutGetAccept else item := by
  have completes : (document.correct servers).addMissingParameters =
      (document.correct servers).mapItems fun path item =>
        if item.LosesAccept path then item.withoutGetAccept else item := by
    rw [addMissingParameters_of_stable (nodup_keys_correct servers document)
      fun _ _ member => (corrected_of_mem_paths member).1]
    refine mapItems_congr fun path item member => ?_
    obtain ⟨-, origin, rfl⟩ := corrected_of_mem_paths member
    exact PathItem.addMissing_corrected path origin
  refine ⟨?_, completes⟩
  rw [completes, mapItems_eq_self_iff]
  refine forall₃_congr fun path item member => ?_
  obtain ⟨-, origin, rfl⟩ := corrected_of_mem_paths member
  rw [ite_eq_right_iff]
  exact ⟨fun fixed loses => PathItem.withoutGetAccept_corrected_ne loses (fixed loses),
    fun keeps loses => absurd loses keeps⟩

/-- A document with one path, to which queries are sent. -/
def queried : Document :=
  { paths :=
      [("/services/query", { post := some { extra := [("operationId", .string "Query")] } })] }

/-- The names of the parameters that the GETs of a document have. -/
def getParameterNames (document : Document) : List Text :=
  document.paths.flatMap fun entry =>
    (entry.2.get.elim [] Operation.parameters).filterMap Parameter.name

/-- The GET that the correction gives it has the header until the step is run again. -/
theorem queried_loses_accept :
    (queried.correct []).addMissingParameters ≠ queried.correct [] ∧
      (queried.correct []).getParameterNames = (["q", "Accept"] : List Text) ∧
      (queried.correct []).addMissingParameters.getParameterNames = (["q"] : List Text) := by
  have before : (queried.correct []).getParameterNames = (["q", "Accept"] : List Text) := by
    decide +kernel
  have after : (queried.correct []).addMissingParameters.getParameterNames =
      (["q"] : List Text) := by
    decide +kernel
  refine ⟨fun same => ?_, before, after⟩
  rw [same, before] at after
  exact absurd after (by decide)

end Document

end ApiDoc
