/-
This file says which endpoints a corrected document has. Its paths are what the given paths become,
each once. Where no two paths become the same, every path keeps its place and its own item; where two
do, one of their items is lost, and no endpoint is lost in any other way.
-/
import ApiDoc.Document.Correction
import ApiDoc.Proofs.Dictionary
import ApiDoc.Proofs.Recorrection
import Mathlib.Data.Finset.Card

namespace ApiDoc

/-- The item after both of its corrections under a corrected path. -/
def PathItem.corrected (path : Text) (item : PathItem) : PathItem :=
  (item.addMissing path).correct path

namespace Document

/-- What becomes of a path and its item. -/
def correctedEntry (entry : Text × PathItem) : Text × PathItem :=
  (Path.corrected entry.1, entry.2.corrected (Path.corrected entry.1))

/-- What the paths of a document become, in their order. -/
def correctedPaths (document : Document) : List Text :=
  document.paths.map fun entry => Path.corrected entry.1

variable (servers : List (Dict Json)) (document : Document)

/-! ### The paths -/

theorem keys_correct : (document.correct servers).paths.keys =
    document.renameTableTemplates.addMissingParameters.paths.keys :=
  Dict.keys_mapEntries _ _

theorem mem_keys_renameTableTemplates (path : Text) :
    path ∈ document.renameTableTemplates.paths.keys ↔
      ∃ entry ∈ document.paths, Path.withTableName entry.1 = path := by
  refine (Dict.mem_keys_ofEntries _ path).trans ?_
  simp [Dict.keys]

theorem mem_keys_addMissingParameters (path : Text) :
    path ∈ document.addMissingParameters.paths.keys ↔
      ∃ name ∈ document.paths.keys, Path.withReportFormat name = path := by
  refine (Dict.mem_keys_ofEntries _ path).trans ?_
  simp [Dict.keys]

/-- The paths of a corrected document are those that the given paths become. -/
theorem mem_keys_correct (path : Text) :
    path ∈ (document.correct servers).paths.keys ↔ path ∈ document.correctedPaths := by
  rw [keys_correct, mem_keys_addMissingParameters, correctedPaths, List.mem_map]
  constructor
  · rintro ⟨name, known, rfl⟩
    obtain ⟨entry, member, rfl⟩ := (mem_keys_renameTableTemplates document name).mp known
    exact ⟨entry, member, rfl⟩
  · rintro ⟨entry, member, rfl⟩
    exact ⟨_, (mem_keys_renameTableTemplates document _).mpr ⟨entry, member, rfl⟩, rfl⟩

/-- There are as many paths after the correction as the given paths become different ones. -/
theorem length_paths_correct :
    (document.correct servers).paths.length = document.correctedPaths.dedup.length := by
  have same : (document.correct servers).paths.keys.toFinset = document.correctedPaths.toFinset := by
    ext path
    rw [List.mem_toFinset, List.mem_toFinset, mem_keys_correct]
  have counted := congrArg Finset.card same
  rwa [List.toFinset_card_of_nodup (nodup_keys_correct servers document), List.card_toFinset,
    Dict.keys, List.length_map] at counted

variable {document}

/-- Where no two paths become the same, every path keeps its place and its own item. -/
theorem paths_correct_of_nodup (distinct : document.correctedPaths.Nodup) :
    (document.correct servers).paths = document.paths.map correctedEntry := by
  have renamed : document.renameTableTemplates.paths =
      document.paths.map fun entry => (Path.withTableName entry.1, entry.2) := by
    refine Dict.ofEntries_of_nodup (List.Nodup.of_map Path.withReportFormat ?_)
    rw [Dict.keys, List.map_map, List.map_map]
    exact distinct
  have completed : document.renameTableTemplates.addMissingParameters.paths =
      document.paths.map fun entry =>
        (Path.corrected entry.1, entry.2.addMissing (Path.corrected entry.1)) := by
    rw [addMissingParameters, renamed, List.map_map]
    refine Dict.ofEntries_of_nodup ?_
    rw [Dict.keys, List.map_map]
    exact distinct
  show Dict.mapEntries PathItem.correct
    document.renameTableTemplates.addMissingParameters.paths = _
  rw [completed, Dict.mapEntries, List.map_map]
  rfl

/-- An item is found under what its path becomes, if no other path becomes the same. -/
theorem get?_correct_of_nodup (distinct : document.correctedPaths.Nodup) {path : Text}
    {item : PathItem} (member : (path, item) ∈ document.paths) :
    (document.correct servers).paths.get? (Path.corrected path) =
      some (item.corrected (Path.corrected path)) := by
  refine Dict.get?_of_mem (nodup_keys_correct servers document) ?_
  rw [paths_correct_of_nodup servers distinct]
  exact List.mem_map.mpr ⟨_, member, rfl⟩

variable (document)

/-! ### The endpoints -/

/-- A corrected document has every endpoint in its place, and as many as before, exactly if no two
paths become the same. -/
theorem paths_correct_iff :
    ((document.correct servers).paths = document.paths.map correctedEntry ↔
        document.correctedPaths.Nodup) ∧
      ((document.correct servers).paths.length = document.paths.length ↔
        document.correctedPaths.Nodup) := by
  have counted : (document.correct servers).paths.length = document.paths.length →
      document.correctedPaths.Nodup := by
    intro same
    have listed : document.correctedPaths.length = document.paths.length := List.length_map _
    rw [length_paths_correct, ← listed] at same
    exact List.dedup_eq_self.mp ((List.dedup_sublist _).eq_of_length same)
  have placed : document.correctedPaths.Nodup →
      (document.correct servers).paths = document.paths.map correctedEntry :=
    paths_correct_of_nodup servers
  refine ⟨⟨fun same => counted ?_, placed⟩, ⟨counted, fun distinct => ?_⟩⟩
  · rw [same, List.length_map]
  · rw [placed distinct, List.length_map]

/-- A path that is given in both spellings of its table template, with another path between them. -/
def spelledTwice : Document where
  paths :=
    [("/select/\x7btablename\x7d", { post := some { extra := [("operationId", .string "Select")] } }),
      ("/photo/\x7bentryID\x7d", { post := some { extra := [("operationId", .string "Photo")] } }),
      ("/select/\x7btableName\x7d", { post := some { extra := [("operationId", .string "Again")] } })]

/-- Of the two spellings only one endpoint remains: the last one, in the place of the first. -/
theorem spelledTwice_loses_endpoint :
    spelledTwice.paths.length = 3 ∧ (spelledTwice.correct []).paths.length = 2 ∧
      (spelledTwice.correct []).paths =
        [correctedEntry spelledTwice.paths[2], correctedEntry spelledTwice.paths[1]] :=
  ⟨rfl, by decide +kernel, by rfl⟩

end Document

end ApiDoc
