/-
This file proves that a corrected path is stable: none of the corrections of a path finds anything to
do on a path that has been corrected.
-/
import ApiDoc.Document.Path
import ApiDoc.Proofs.Fragment

namespace ApiDoc.Path

/-- The table template as it is spelled wrongly. -/
def misspelledTable : Text := "tablename"

/-- A path is stable if both corrections leave it as it is. -/
def IsStable (path : Text) : Prop :=
  withTableName path = path ∧ withReportFormat path = path

/-- A path with the right table template does not mention the wrong one. -/
theorem not_misspelled_withTableName (path : Text) :
    ¬ misspelledTable <:+: withTableName path :=
  Text.not_infix_replaceFrom (.char 't') (by decide) (by decide) (by decide) (by decide)
    0 path

/-- A path that does not mention the wrong table template stays as it is. -/
theorem withTableName_of_not_misspelled {path : Text}
    (absent : ¬ misspelledTable <:+: path) : withTableName path = path :=
  Text.replaceFrom_of_not_infix absent

/-- The format at the end of a path does not spell a table template. -/
theorem not_misspelled_append_formatEnding {path : Text} (absent : ¬ misspelledTable <:+: path) :
    ¬ misspelledTable <:+: path ++ formatEnding := by
  intro occurrence
  have lacks : CodePoint.char '.' ∉ misspelledTable := by decide
  rcases Text.infix_of_infix_append_cons lacks occurrence with before | after
  · exact absent before
  · exact absurd ((Text.mentions_iff _ _).mpr after) (by decide)

theorem not_misspelled_withReportFormat {path : Text} (absent : ¬ misspelledTable <:+: path) :
    ¬ misspelledTable <:+: withReportFormat path := by
  unfold withReportFormat
  split
  · exact not_misspelled_append_formatEnding absent
  · exact absent

/-- A report that has its format does not get it again. -/
theorem withReportFormat_withReportFormat (path : Text) :
    withReportFormat (withReportFormat path) = withReportFormat path := by
  by_cases lacking : (isReport path && !formatEnding.isSuffixOf path) = true
  · have ending : formatEnding.isSuffixOf (path ++ formatEnding) = true := by
      rw [List.isSuffixOf_iff_suffix]
      exact List.suffix_append path formatEnding
    rw [withReportFormat.eq_def path, if_pos lacking, withReportFormat, ending, Bool.not_true,
      Bool.and_false, if_neg Bool.false_ne_true]
  · have unchanged : withReportFormat path = path := if_neg lacking
    rw [unchanged, unchanged]

/-- The path of a report ends in its format once that has been added where it lacked. -/
theorem formatEnding_suffix_withReportFormat {path : Text}
    (report : isReport (withReportFormat path) = true) : formatEnding <:+ withReportFormat path := by
  unfold withReportFormat at report ⊢
  split
  · exact List.suffix_append path formatEnding
  · rename_i ready
    rw [if_neg ready] at report
    rw [report, Bool.true_and, Bool.not_eq_true, Bool.not_eq_false', List.isSuffixOf_iff_suffix]
      at ready
    exact ready

/-- So the corrected path of a report says its format. -/
theorem hasFormat_of_isReport {path : Text} (report : isReport (corrected path) = true) :
    hasFormat (corrected path) = true :=
  (Text.mentions_iff _ _).mpr
    ((List.suffix_cons _ _).trans (formatEnding_suffix_withReportFormat report)).isInfix

/-- A path is stable after both corrections. -/
theorem isStable_corrected (path : Text) : IsStable (corrected path) :=
  ⟨withTableName_of_not_misspelled
      (not_misspelled_withReportFormat (not_misspelled_withTableName path)),
    withReportFormat_withReportFormat (withTableName path)⟩

end ApiDoc.Path
