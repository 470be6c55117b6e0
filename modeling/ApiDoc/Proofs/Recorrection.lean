/-
This file proves that correcting a corrected document changes nothing. Paths are stable once they are
corrected, so only the operations are in question. Two facts carry them: the correction of an
operation can be repeated and does not touch whether a body is expected, so it commutes with the
choice of methods; and the query operations that a second run puts together differ from those of the
first run only in what the correction of operations sets anyway.
-/
import ApiDoc.Proofs.MethodChoice
import ApiDoc.Proofs.OperationCorrection
import ApiDoc.Proofs.PathStability

namespace ApiDoc

/-! ### Path items -/

namespace PathItem

theorem mapOperations_correct_correct (path : Text) (item : PathItem) :
    (item.mapOperations (Operation.correct path)).mapOperations (Operation.correct path) =
      item.mapOperations (Operation.correct path) := by
  rw [mapOperations_mapOperations]
  simp only [Operation.correct_correct]

/-- Every operation of a corrected report has its format. -/
theorem addReportFormat_correct (path : Text) (item : PathItem) :
    ((item.mapOperations Operation.addReportFormat).correct path).mapOperations
        Operation.addReportFormat =
      (item.mapOperations Operation.addReportFormat).correct path := by
  refine mapOperations_eq_self fun method operation found => ?_
  rw [correct, operation?_mapOperations, Option.map_eq_some_iff] at found
  obtain ⟨chosen, foundChosen, rfl⟩ := found
  obtain ⟨origin, known⟩ := drawnFrom_correctMethods path _ method chosen foundChosen
  rw [operation?_mapOperations, Option.map_eq_some_iff] at known
  obtain ⟨first, _, rfl⟩ := known
  exact Operation.addReportFormat_of_hasParameter
    (Operation.hasParameter_correct (Operation.hasParameter_addReportFormat first))

theorem addStarql_of_post_none {item : PathItem} (absent : item.post = none) :
    item.addStarql = item := by
  unfold addStarql
  rw [absent]

/-- A POST that takes queries keeps its place beside its GET only if no method is chosen for it. -/
theorem correctMethods_addStarql_of_post {path : Text} {item : PathItem} {kept : Operation}
    (stays : (item.addStarql.correctMethods path).post = some kept) :
    item.addStarql.correctMethods path = item.addStarql := by
  have choice := methodChoice_correctMethods path item.addStarql
  generalize item.addStarql.correctMethods path = chosen at choice stays
  cases choice with
  | absent | keep => rfl
  | read | delete | update => cases stays
  | query post posted _ _ _ _ ungotten =>
    cases given : item.post with
    | none =>
      rw [addStarql_of_post_none given, given] at posted
      cases posted
    | some first =>
      unfold addStarql at ungotten
      rw [given] at ungotten
      cases ungotten

/-- The query operations that are put together anew have the correction that they had. -/
theorem addStarql_correct (path : Text) (item : PathItem) :
    (item.addStarql.correct path).addStarql.mapOperations (Operation.correct path) =
      item.addStarql.correct path := by
  cases posted : (item.addStarql.correctMethods path).post with
  | none =>
    have absent : (item.addStarql.correct path).post = none := by
      rw [correct, mapOperations, posted, Option.map_none]
    rw [addStarql_of_post_none absent, correct, mapOperations_correct_correct]
  | some kept =>
    rw [correct, correctMethods_addStarql_of_post posted]
    rw [correctMethods_addStarql_of_post posted] at posted
    cases given : item.post with
    | none =>
      rw [addStarql_of_post_none given, given] at posted
      cases posted
    | some first =>
      have queried : item.addStarql =
          { item with post := some first.asStarqlPost, get := some first.asStarqlGet } := by
        unfold addStarql
        rw [given]
      rw [queried]
      refine ext_operations (fun method => ?_) rfl
      cases method with
      | get => exact congrArg some (Operation.correct_asStarqlGet_correct path first)
      | post =>
        show some (((first.asStarqlPost.correct path).asStarqlPost).correct path) = _
        rw [Operation.asStarqlPost_correct, Operation.correct_correct]
        rfl
      | put | delete | options | head | patch | trace =>
        simp [operation?, mapOperations, addStarql, Operation.correct_correct, Function.comp_def]

/-- What is missing from a corrected item is at most what its correction supplies. -/
theorem addMissing_correct (path : Text) (item : PathItem) :
    (((item.addMissing path).correct path).addMissing path).mapOperations
        (Operation.correct path) =
      (item.addMissing path).correct path := by
  unfold addMissing
  split
  · rw [addReportFormat_correct, correct, mapOperations_correct_correct]
  · split
    · exact addStarql_correct path item
    · rw [correct, mapOperations_correct_correct]

/-- An item that has been corrected stays as it is when it is corrected again. -/
theorem correct_addMissing_correct (path : Text) (item : PathItem) :
    (((item.addMissing path).correct path).addMissing path).correct path =
      (item.addMissing path).correct path := by
  have sameBody := Operation.correct_requestBody path
  rw [correct, ← correctMethods_mapOperations sameBody, addMissing_correct, correct,
    correctMethods_mapOperations sameBody, correctMethods_correctMethods]

end PathItem

/-! ### Documents -/

namespace Document

/-- Every path of a corrected document was given, as it was spelled then, with the item that has been
corrected under it. -/
theorem exists_given_of_mem_paths {servers : List (Dict Json)} {document : Document}
    {path : Text} {item : PathItem} (member : (path, item) ∈ (document.correct servers).paths) :
    ∃ spelled origin, (spelled, origin) ∈ document.paths ∧ path = Path.corrected spelled ∧
      item = (origin.addMissing path).correct path := by
  obtain ⟨⟨key, completed⟩, completedMember, same⟩ := List.mem_map.mp member
  obtain ⟨rfl, rfl⟩ := Prod.mk.inj same
  obtain ⟨⟨renamed, _⟩, renamedMember, same⟩ :=
    List.mem_map.mp (Dict.mem_of_mem_ofEntries completedMember)
  obtain ⟨rfl, rfl⟩ := Prod.mk.inj same
  obtain ⟨⟨first, origin⟩, given, same⟩ := List.mem_map.mp (Dict.mem_of_mem_ofEntries renamedMember)
  obtain ⟨rfl, rfl⟩ := Prod.mk.inj same
  exact ⟨first, origin, given, rfl, rfl⟩

/-- Every path of a corrected document is stable, and its item has been corrected. -/
theorem corrected_of_mem_paths {servers : List (Dict Json)} {document : Document}
    {path : Text} {item : PathItem} (member : (path, item) ∈ (document.correct servers).paths) :
    Path.IsStable path ∧ ∃ origin : PathItem, item = (origin.addMissing path).correct path := by
  obtain ⟨spelled, origin, _, rfl, same⟩ := exists_given_of_mem_paths member
  exact ⟨Path.isStable_corrected spelled, origin, same⟩

/-- No path of a corrected document stands twice. -/
theorem nodup_keys_correct (servers : List (Dict Json)) (document : Document) :
    (document.correct servers).paths.keys.Nodup := by
  show (Dict.mapEntries PathItem.correct document.renameTableTemplates.addMissingParameters.paths
    ).keys.Nodup
  rw [Dict.keys_mapEntries]
  exact Dict.nodup_keys_ofEntries _

/-- Stable paths that stand once are not renamed. -/
theorem renameTableTemplates_eq_self {document : Document} (distinct : document.paths.keys.Nodup)
    (stable : ∀ path item, (path, item) ∈ document.paths → Path.IsStable path) :
    document.renameTableTemplates = document := by
  have unchanged : document.paths.map (fun entry => (Path.withTableName entry.1, entry.2)) =
      document.paths := by
    refine (List.map_congr_left fun entry member => ?_).trans (List.map_id _)
    exact Prod.ext (stable entry.1 entry.2 member).1 rfl
  unfold renameTableTemplates
  rw [show document.paths.map _ = _ from unchanged, Dict.ofEntries_of_nodup distinct]

/-- On stable paths that stand once only the items are completed. -/
theorem addMissingParameters_of_stable {document : Document}
    (distinct : document.paths.keys.Nodup)
    (stable : ∀ path item, (path, item) ∈ document.paths → Path.IsStable path) :
    document.addMissingParameters = document.mapItems PathItem.addMissing := by
  have completed : document.paths.map (fun entry =>
      (Path.withReportFormat entry.1, entry.2.addMissing (Path.withReportFormat entry.1))) =
      document.paths.mapEntries PathItem.addMissing := by
    refine List.map_congr_left fun entry member => ?_
    have same := (stable entry.1 entry.2 member).2
    dsimp only
    rw [same]
  have distinctCompleted : (document.paths.mapEntries PathItem.addMissing).keys.Nodup := by
    rw [Dict.keys_mapEntries]
    exact distinct
  unfold addMissingParameters
  rw [show document.paths.map _ = _ from completed, Dict.ofEntries_of_nodup distinctCompleted]
  rfl

theorem mapItems_eq_self {change : Text → PathItem → PathItem} {document : Document}
    (fixed : ∀ path item, (path, item) ∈ document.paths → change path item = item) :
    document.mapItems change = document := by
  have unchanged : document.paths.mapEntries change = document.paths := by
    refine (List.map_congr_left fun entry member => ?_).trans (List.map_id _)
    exact Prod.ext rfl (fixed entry.1 entry.2 member)
  rw [mapItems, unchanged]

theorem mapItems_mapItems (first second : Text → PathItem → PathItem) (document : Document) :
    (document.mapItems first).mapItems second =
      document.mapItems (fun path item => second path (first path item)) := by
  simp [mapItems, Dict.mapEntries, Function.comp_def]

/-- Basic authentication is declared and required once, however often it is asked for. -/
theorem addBasicAuth_addBasicAuth (document : Document) :
    document.addBasicAuth.addBasicAuth = document.addBasicAuth := by
  have required : document.addBasicAuth.security.contains basicRequirement = true := by
    unfold addBasicAuth
    dsimp only
    split
    · assumption
    · simp
  have declared : document.addBasicAuth.components.securitySchemes.insertIfNew basicSchemeName
      basicScheme = document.addBasicAuth.components.securitySchemes :=
    Dict.insertIfNew_insertIfNew _ _ _
  rw [addBasicAuth.eq_def document.addBasicAuth, declared, if_pos required]

/-- Correcting a corrected document changes nothing: neither a path or its place, nor an operation,
nor the schemes, requirements and servers. -/
theorem correct_idempotent (servers : List (Dict Json)) (document : Document) :
    (document.correct servers).correct servers = document.correct servers := by
  have distinct := nodup_keys_correct servers document
  have stable : ∀ path item, (path, item) ∈ (document.correct servers).paths →
      Path.IsStable path := fun _ _ member => (corrected_of_mem_paths member).1
  have settled : ((document.correct servers).renameTableTemplates.addMissingParameters).mapItems
      PathItem.correct = document.correct servers := by
    rw [renameTableTemplates_eq_self distinct stable,
      addMissingParameters_of_stable distinct stable, mapItems_mapItems]
    refine mapItems_eq_self fun path item member => ?_
    obtain ⟨_, origin, rfl⟩ := corrected_of_mem_paths member
    exact PathItem.correct_addMissing_correct path origin
  rw [correct, settled]
  -- The requirement of basic authentication does not look at the servers.
  exact congrArg (fun secured : Document => (secured.setServers servers).setServers servers)
    (addBasicAuth_addBasicAuth
      (document.renameTableTemplates.addMissingParameters.mapItems PathItem.correct))

end Document

end ApiDoc
