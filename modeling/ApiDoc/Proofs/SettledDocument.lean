/-
This file says what holds of every document after its correction, whatever was given: how its paths
are spelled, what every operation under them asks for and documents, and how it is secured and
served. An operation is settled by the last change that reaches it, wherever the operation has come
from.
-/
import ApiDoc.Proofs.Recorrection

namespace ApiDoc

/-! ### Parameters -/

namespace Parameter

/-- The schema of the parameter lists the formats that can be asked for, and which is used if none
is. -/
def ListsFormats (parameter : Parameter) : Prop :=
  ∃ schema, parameter.schema = some schema ∧
    schema.get? "enum" = some (.array
      [.string "atom", .string "csv", .string "htm", .string "html", .string "html-xml",
        .string "json", .string "xml"]) ∧
    schema.get? "default" = some (.string "xml")

theorem listsFormats_withFormats {parameter : Parameter}
    (ofFormat : parameter.name = some "format") :
    parameter.withFormats.ListsFormats := by
  refine ⟨listFormats (parameter.schema.getD []), ?_, ?_, Dict.get?_insert_self _ _ _⟩
  · rw [withFormats, if_pos ofFormat]
  · rw [listFormats, Dict.get?_insert_of_ne _ (by decide), Dict.get?_insert_self]
    rfl

end Parameter

/-! ### Responses -/

namespace Response

/-- The content in JSON that the response of a code tells. -/
def jsonContent? (responses : Dict (Dict Json)) (code : Text) : Option Json :=
  (responses.get? code).bind fun response => (response.get? "content").bind (·.member? mediaType)

theorem keys_all (path : Text) : (all path).keys = ["200", "400", "403", "404"] := by
  unfold all
  rw [Dict.keys_cons, Dict.keys_mapEntries]
  rfl

/-- A success tells what it yields exactly on the path of a query. -/
theorem isSome_jsonContent?_all (path : Text) :
    (jsonContent? (all path) "200").isSome = path.mentions "query" := by
  have found : (all path).get? "200" = some (success path) := if_pos rfl
  rw [jsonContent?, found, Option.bind_some, success]
  cases path.mentions "query" <;> rfl

end Response

/-! ### Operations -/

namespace Operation

/-- What holds of every operation under a corrected path. -/
structure Settled (path : Text) (operation : Operation) : Prop where
  responses : operation.responses = Response.all path
  codes : operation.responses.keys = ["200", "400", "403", "404"]
  content : (Response.jsonContent? operation.responses "200").isSome = path.mentions "query"
  accepts : path.mentions "\x7bformat\x7d" = false → operation.hasParameter "Accept" "header" = true
  asks : path.mentions "getreport" = true → operation.hasParameter "format" "path" = true
  formats : ∀ parameter ∈ operation.parameters,
    parameter.name = some "format" → parameter.ListsFormats

/-- The correction of an operation settles it, but for the format of a report, which has to be asked
for before. -/
theorem settled_correct {path : Text} {operation : Operation}
    (asks : Path.isReport path = true → operation.hasParameter "format" "path" = true) :
    (operation.correct path).Settled path where
  responses := rfl
  codes := Response.keys_all path
  content := Response.isSome_jsonContent?_all path
  accepts unformatted := by
    have lacking : ¬ Path.hasFormat path = true := by
      rw [Path.hasFormat, show path.mentions Path.formatTemplate = false from unformatted]
      exact Bool.false_ne_true
    unfold correct
    rw [if_neg lacking]
    exact (hasParameter_addFormats _ _ _).trans (hasParameter_addAccept operation)
  asks report := hasParameter_correct (asks report)
  formats parameter member named := by
    unfold correct at member
    obtain ⟨given, _, rfl⟩ := List.mem_map.mp member
    exact Parameter.listsFormats_withFormats ((Parameter.withFormats_name given).symm.trans named)

end Operation

/-! ### Path items -/

namespace PathItem

/-- Under the path of a report every operation asks for the format, wherever it has been moved. -/
theorem hasParameter_format_correctMethods {path : Text} {item : PathItem} {method : Method}
    {operation : Operation} (report : Path.isReport path = true)
    (found : ((item.addMissing path).correctMethods path).operation? method = some operation) :
    operation.hasParameter "format" "path" = true := by
  obtain ⟨origin, known⟩ := drawnFrom_correctMethods path _ method operation found
  rw [addMissing, if_pos report, operation?_mapOperations, Option.map_eq_some_iff] at known
  obtain ⟨first, _, rfl⟩ := known
  exact Operation.hasParameter_addReportFormat first

/-- Every operation of a corrected item is settled: the given ones, and those that were moved,
copied or put together. -/
theorem settled_operation?_correct {path : Text} {item : PathItem} {method : Method}
    {operation : Operation}
    (found : ((item.addMissing path).correct path).operation? method = some operation) :
    operation.Settled path := by
  rw [correct, operation?_mapOperations, Option.map_eq_some_iff] at found
  obtain ⟨chosen, foundChosen, rfl⟩ := found
  exact Operation.settled_correct fun report =>
    hasParameter_format_correctMethods report foundChosen

end PathItem

/-! ### Documents -/

namespace Document

/-- What holds of a corrected document. -/
structure Settled (servers : List (Dict Json)) (document : Document) : Prop where
  /-- No path spells its table template wrongly. -/
  tables : ∀ path ∈ document.paths.keys, path.mentions "tablename" = false
  /-- Every report says its format at the end. -/
  reports : ∀ path ∈ document.paths.keys, path.mentions "getreport" = true →
    (".\x7bformat\x7d" : Text) <:+ path
  operations : ∀ entry ∈ document.paths, ∀ method operation,
    entry.2.operation? method = some operation → operation.Settled entry.1
  security : ([("Basic", [])] : Dict (List Text)) ∈ document.security
  securitySchemes : ("Basic" : Text) ∈ document.components.securitySchemes.keys
  servers : document.servers = servers

theorem mem_security_addBasicAuth (document : Document) :
    basicRequirement ∈ document.addBasicAuth.security := by
  unfold addBasicAuth
  dsimp only
  split
  · exact List.contains_iff_mem.mp ‹_›
  · exact List.mem_append_right _ List.mem_cons_self

theorem mem_securitySchemes_addBasicAuth (document : Document) :
    basicSchemeName ∈ document.addBasicAuth.components.securitySchemes.keys := by
  show basicSchemeName ∈ (Dict.insertIfNew document.components.securitySchemes _ _).keys
  unfold Dict.insertIfNew
  split
  · exact (Dict.hasKey_iff _ _).mp ‹_›
  · rw [Dict.keys_append]
    exact List.mem_append_right _ List.mem_cons_self

/-- Every document is settled by its correction. -/
theorem correct_settles (servers : List (Dict Json)) (document : Document) :
    Settled servers (document.correct servers) where
  tables path known := by
    obtain ⟨entry, member, rfl⟩ := List.mem_map.mp known
    have stable := (corrected_of_mem_paths member).1.1
    rw [← Bool.not_eq_true, Text.mentions_iff, ← stable]
    exact Path.not_misspelled_withTableName entry.1
  reports path known report := by
    obtain ⟨entry, member, rfl⟩ := List.mem_map.mp known
    have stable := (corrected_of_mem_paths member).1.2
    rw [← stable] at report ⊢
    exact Path.formatEnding_suffix_withReportFormat report
  operations entry member method operation found := by
    obtain ⟨_, origin, same⟩ := corrected_of_mem_paths member
    rw [same] at found
    exact PathItem.settled_operation?_correct found
  security := mem_security_addBasicAuth
    (document.renameTableTemplates.addMissingParameters.mapItems PathItem.correct)
  securitySchemes := mem_securitySchemes_addBasicAuth
    (document.renameTableTemplates.addMissingParameters.mapItems PathItem.correct)
  servers := rfl

end Document

end ApiDoc
