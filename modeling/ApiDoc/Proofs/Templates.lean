/-
This file says how the templates of paths and the parameters that declare them fare in a correction.
Paths keep their templates, in the right spelling, and a report has its format besides; operations
keep the parameters that they declare, except where a query of its own takes the place of a GET.
-/
import ApiDoc.Document.Template
import ApiDoc.Proofs.Cutting
import ApiDoc.Proofs.ImpliedMethods
import ApiDoc.Proofs.PathStability

namespace ApiDoc

/-! ### Templates of a path -/

namespace Path

theorem templateName?_withTableName (piece : Text) :
    templateName? (withTableName piece) = (templateName? piece).map withTableName := by
  unfold templateName? withTableName
  rw [Text.cutFirst?_replacing (by decide) (by decide) (by decide), Option.map_map, Option.map_map]
  rfl

/-- In a path with the right table template every template is spelled so. -/
theorem templates_withTableName (path : Text) :
    templates (withTableName path) = (templates path).map withTableName := by
  have pieces : (withTableName path).splitAtMark (.char '\x7b') =
      (path.splitAtMark (.char '\x7b')).map withTableName :=
    Text.splitAtMark_replacing (by decide) (by decide) (by decide) path
  rw [templates, pieces, ← List.map_tail, List.filterMap_map, templates, List.map_filterMap]
  exact List.filterMap_congr fun piece _ => templateName?_withTableName piece

/-- A code point at the end that closes no template names no other one. -/
theorem templateName?_concat {point : CodePoint} (closes : point ≠ .char '\x7d') (piece : Text) :
    templateName? (piece ++ [point]) = templateName? piece := by
  unfold templateName?
  by_cases closed : CodePoint.char '\x7d' ∈ piece
  · obtain ⟨before, after, rfl, first⟩ := List.eq_append_cons_of_mem closed
    rw [List.append_assoc, List.cons_append, Text.cutFirst?_append_cons first,
      Text.cutFirst?_append_cons first]
    rfl
  · have still : CodePoint.char '\x7d' ∉ piece ++ [point] := by
      rw [List.mem_append, List.mem_singleton, not_or]
      exact ⟨closed, Ne.symm closes⟩
    rw [Text.cutFirst?_of_not_mem closed, Text.cutFirst?_of_not_mem still]

theorem templates_concat {point : CodePoint} (starts : point ≠ .char '\x7b')
    (closes : point ≠ .char '\x7d') (path : Text) :
    templates (path ++ [point]) = templates path := by
  obtain ⟨pieces, last, cut, cutLonger⟩ := Text.exists_splitAtMark_concat starts path
  rw [templates, templates, cut, cutLonger]
  cases pieces with
  | nil => rfl
  | cons first others =>
    rw [List.cons_append, List.tail_cons, List.cons_append, List.tail_cons, List.filterMap_append,
      List.filterMap_append, List.filterMap_cons, List.filterMap_cons,
      templateName?_concat closes]

/-- The format of a report is one more template. -/
theorem templates_append_formatEnding (path : Text) :
    templates (path ++ formatEnding) = templates path ++ [("format" : Text)] := by
  have ending : path ++ formatEnding =
      (path ++ [CodePoint.char '.']) ++ .char '\x7b' :: ("format\x7d" : Text) := by
    rw [List.append_assoc]
    rfl
  have unmarked : CodePoint.char '\x7b' ∉ ("format\x7d" : Text) := by decide
  have closed : templateName? "format\x7d" = some ("format" : Text) := by decide
  have dotted : templates (path ++ [CodePoint.char '.']) = templates path :=
    templates_concat (by decide) (by decide) path
  rw [← dotted, ending, templates, Text.splitAtMark_append_cons,
    Text.splitAtMark_of_not_mem unmarked, List.tail_append_of_ne_nil (Text.splitAtMark_ne_nil _ _),
    List.filterMap_append, List.filterMap_cons, closed]
  rfl

/-- A path that runs a report still does so with more at its end. -/
theorem isReport_append {path : Text} (reports : isReport path = true) (ending : Text) :
    isReport (path ++ ending) = true := by
  rw [isReport, Text.mentions_iff] at reports ⊢
  exact reports.trans (List.prefix_append path ending).isInfix

/-- The templates of a corrected path are those of the path, in the right spelling, and the format of
a report. -/
theorem mem_templates_corrected {path name : Text} (member : name ∈ templates (corrected path)) :
    (isReport (corrected path) = true ∧ name = "format") ∨
      ∃ spelled ∈ templates path, withTableName spelled = name := by
  by_cases lacking :
      (isReport (withTableName path) && !formatEnding.isSuffixOf (withTableName path)) = true
  · have ended : corrected path = withTableName path ++ formatEnding := if_pos lacking
    rw [ended, templates_append_formatEnding, templates_withTableName, List.mem_append,
      List.mem_map, List.mem_singleton] at member
    rcases member with spelled | format
    · exact Or.inr spelled
    · rw [Bool.and_eq_true] at lacking
      rw [ended]
      exact Or.inl ⟨isReport_append lacking.1 _, format⟩
  · have unended : corrected path = withTableName path := if_neg lacking
    rw [unended, templates_withTableName, List.mem_map] at member
    exact Or.inr member

/-- A name that does not spell the table template wrongly is not changed. -/
theorem withTableName_eq_or_mentions (name : Text) :
    withTableName name = name ∨ name.mentions misspelledTable = true := by
  rw [Text.mentions_iff]
  by_cases absent : misspelledTable <:+: name
  · exact Or.inr absent
  · exact Or.inl (withTableName_of_not_misspelled absent)

end Path

/-! ### Parameters of an operation -/

namespace Operation

variable {path name location : Text} {operation : Operation}

theorem hasParameter_asked (has : operation.hasParameter name location = true) :
    (operation.asked path).hasParameter name location = true := by
  unfold asked
  split
  · exact hasParameter_addReportFormat_of_hasParameter has
  · exact has

/-- A POST keeps its parameters wherever it goes. -/
theorem hasParameter_posted (has : operation.hasParameter name location = true) :
    (operation.posted path).hasParameter name location = true := by
  unfold posted
  split
  · exact has
  · exact hasParameter_asked has

/-- Under the path of a report an operation has the format. -/
theorem hasParameter_format_asked (reports : Path.isReport path = true) (operation : Operation) :
    (operation.asked path).hasParameter "format" "path" = true := by
  rw [asked, if_pos reports]
  exact hasParameter_addReportFormat operation

theorem hasParameter_format_posted (reports : Path.isReport path = true) (operation : Operation) :
    (operation.posted path).hasParameter "format" "path" = true := by
  have ordinary : Path.isQuery path = false := by
    rw [Path.isQuery, reports, Bool.not_true, Bool.and_false]
  rw [posted, ordinary, if_neg Bool.false_ne_true]
  exact hasParameter_format_asked reports operation

end Operation

/-! ### Documents -/

theorem PathItem.declares_iff (item : PathItem) (name : Text) :
    item.declares name = true ↔ ∀ method operation, item.operation? method = some operation →
      operation.hasParameter name "path" = true := by
  simp only [declares, List.all_eq_true, Prod.forall, mem_operations_iff]
  rfl

namespace Document

theorem declaresTemplates_iff (document : Document) :
    document.declaresTemplates = true ↔ ∀ path item, (path, item) ∈ document.paths →
      ∀ name ∈ Path.templates path, item.declares name = true := by
  simp only [declaresTemplates, List.all_eq_true, Prod.forall]

/-- If a document declares its templates, then every operation of the corrected document declares the
templates of its path, but for the GET that a query of its own comes as. A template whose spelling has
been corrected is declared as it was spelled. -/
theorem templates_declared (servers : List (Dict Json)) {document : Document}
    (declared : document.declaresTemplates = true) {key : Text} {result : PathItem}
    (member : (key, result) ∈ (document.correct servers).paths) :
    ∃ path item, (path, item) ∈ document.paths ∧ key = Path.corrected path ∧
      ∀ name ∈ Path.templates key, ∀ method operation,
        result.operation? method = some operation →
          ¬ (method = .get ∧ Path.isQuery key = true ∧ item.post.isSome = true) →
            operation.hasParameter name "path" = true ∨
              ∃ spelled ∈ Path.templates path, spelled.mentions Path.misspelledTable = true ∧
                Path.withTableName spelled = name ∧ operation.hasParameter spelled "path" = true := by
  obtain ⟨path, item, given, rfl, rfl⟩ := exists_given_of_mem_paths member
  refine ⟨path, item, given, rfl, fun name template method operation found ordinary => ?_⟩
  obtain ⟨origin, source, known, becomes⟩ := PathItem.exists_origin found ordinary
  rcases Path.mem_templates_corrected template with ⟨reports, rfl⟩ | ⟨spelled, among, rfl⟩
  · left
    rcases becomes with rfl | rfl
    · exact Operation.hasParameter_correct (Operation.hasParameter_format_asked reports source)
    · exact Operation.hasParameter_correct (Operation.hasParameter_format_posted reports source)
  · have has : source.hasParameter spelled "path" = true :=
      (item.declares_iff spelled).mp
        (document.declaresTemplates_iff.mp declared path item given spelled among) origin source known
    have keeps : operation.hasParameter spelled "path" = true := by
      rcases becomes with rfl | rfl
      · exact Operation.hasParameter_correct (Operation.hasParameter_asked has)
      · exact Operation.hasParameter_correct (Operation.hasParameter_posted has)
    rcases Path.withTableName_eq_or_mentions spelled with same | misspelled
    · exact Or.inl (same.symm ▸ keeps)
    · exact Or.inr ⟨spelled, among, misspelled, rfl, keeps⟩

/-! ### Templates that are declared no longer -/

/-- A document with one path, whose POST has path parameters of the given names. -/
def withParameters (path : Text) (names : List Text) : Document where
  paths := [(path, { post := some { parameters := names.map fun name =>
    { name := some name, location := some "path", required := some true } } })]

/-- A report of a table, with the table template spelled wrongly. -/
def tableReport : Document :=
  withParameters "/getreport/\x7btablename\x7d/\x7bid\x7d" ["tablename", "id"]

theorem paths_correct_tableReport :
    (tableReport.correct []).paths = [correctedEntry tableReport.paths[0]] := by
  rfl

theorem templates_declared_tableReport :
    tableReport.declaresTemplates = true ∧
      correctedEntry tableReport.paths[0] ∈ (tableReport.correct []).paths ∧
      ∃ path item, (path, item) ∈ tableReport.paths ∧
        (correctedEntry tableReport.paths[0]).1 = Path.corrected path ∧
        ∀ name ∈ Path.templates (correctedEntry tableReport.paths[0]).1, ∀ method operation,
          (correctedEntry tableReport.paths[0]).2.operation? method = some operation →
            ¬ (method = .get ∧ Path.isQuery (correctedEntry tableReport.paths[0]).1 = true ∧
              item.post.isSome = true) →
              operation.hasParameter name "path" = true ∨
                ∃ spelled ∈ Path.templates path, spelled.mentions Path.misspelledTable = true ∧
                  Path.withTableName spelled = name ∧
                  operation.hasParameter spelled "path" = true :=
  have declared : tableReport.declaresTemplates = true := by decide +kernel
  have member : correctedEntry tableReport.paths[0] ∈ (tableReport.correct []).paths :=
    paths_correct_tableReport ▸ List.mem_cons_self
  ⟨declared, member, templates_declared [] declared member⟩

/-- The path that is renamed leaves its parameter behind, and the query of its own has no parameter for
the template. -/
theorem templates_not_declared :
    (withParameters "/select/\x7btablename\x7d" ["tablename"]).declaresTemplates = true ∧
      ((withParameters "/select/\x7btablename\x7d" ["tablename"]).correct
        []).declaresTemplates = false ∧
      (withParameters "/query/\x7bid\x7d" ["id"]).declaresTemplates = true ∧
      ((withParameters "/query/\x7bid\x7d" ["id"]).correct []).declaresTemplates = false := by
  decide +kernel

end Document

end ApiDoc
