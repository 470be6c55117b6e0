/-
This file says what the correction of an operation does: which parameters the operation has after
it, what it leaves as it is, and that correcting the operation again does nothing more. The same
holds of the parameters, whose formats are listed once, and of the operations that take queries.
-/
import ApiDoc.Document.Correction
import ApiDoc.Proofs.Dictionary

namespace ApiDoc

/-! ### Parameters -/

namespace Parameter

@[simp] theorem withFormats_name (parameter : Parameter) :
    parameter.withFormats.name = parameter.name := by
  unfold withFormats
  split <;> rfl

@[simp] theorem withFormats_location (parameter : Parameter) :
    parameter.withFormats.location = parameter.location := by
  unfold withFormats
  split <;> rfl

/-- A schema that lists the formats stays as it is when they are listed again. -/
theorem listFormats_listFormats (schema : Dict Json) :
    listFormats (listFormats schema) = listFormats schema := by
  have nonempty : (listFormats schema).isEmpty = false := Dict.isEmpty_insert _ _ _
  have listed : (listFormats schema).get? "enum" = some (.array (formats.map .string)) := by
    rw [listFormats, Dict.get?_insert_of_ne _ (by decide), Dict.get?_insert_self]
  have preferred : (listFormats schema).get? "default" = some (.string defaultFormat) :=
    Dict.get?_insert_self _ _ _
  rw [listFormats.eq_def (listFormats schema), nonempty]
  show Dict.insert (Dict.insert (listFormats schema) _ _) _ _ = listFormats schema
  rw [Dict.insert_eq_self listed, Dict.insert_eq_self preferred]

theorem withFormats_withFormats (parameter : Parameter) :
    parameter.withFormats.withFormats = parameter.withFormats := by
  by_cases ofFormat : parameter.name = some "format"
  · simp only [withFormats, if_pos ofFormat, Option.getD_some, listFormats_listFormats]
  · simp only [withFormats, if_neg ofFormat]

end Parameter

/-! ### Operations -/

namespace Operation

/-- The operation has a parameter of a name in a location, wherever it stands. -/
theorem hasParameter_iff (operation : Operation) (name location : Text) :
    operation.hasParameter name location = true ↔
      ∃ parameter ∈ operation.parameters,
        parameter.name = some name ∧ parameter.location = some location := by
  simp [hasParameter, findParameter?, List.find?_isSome]

@[simp] theorem addFormats_parameters (operation : Operation) :
    operation.addFormats.parameters = operation.parameters.map Parameter.withFormats := rfl

/-- Listing formats neither adds nor drops a parameter. -/
theorem hasParameter_addFormats (operation : Operation) (name location : Text) :
    operation.addFormats.hasParameter name location = operation.hasParameter name location := by
  rw [Bool.eq_iff_iff, hasParameter_iff, hasParameter_iff]
  simp

theorem hasParameter_addAccept (operation : Operation) :
    operation.addAccept.hasParameter "Accept" "header" = true := by
  unfold addAccept
  split
  · assumption
  · rw [hasParameter_iff]
    exact ⟨.accept, by simp [addParameter], rfl, rfl⟩

/-- A parameter that an operation has is still there with one more at the end. -/
theorem hasParameter_addParameter {operation : Operation} {name location : Text}
    (has : operation.hasParameter name location = true) (added : Parameter) :
    (operation.addParameter added).hasParameter name location = true := by
  rw [hasParameter_iff] at has ⊢
  obtain ⟨parameter, member, named⟩ := has
  exact ⟨parameter, List.mem_append_left _ member, named⟩

theorem hasParameter_addAccept_of_hasParameter {operation : Operation} {name location : Text}
    (has : operation.hasParameter name location = true) :
    operation.addAccept.hasParameter name location = true := by
  unfold addAccept
  split
  · exact has
  · exact hasParameter_addParameter has .accept

theorem hasParameter_addReportFormat_of_hasParameter {operation : Operation} {name location : Text}
    (has : operation.hasParameter name location = true) :
    operation.addReportFormat.hasParameter name location = true := by
  unfold addReportFormat
  split
  · exact has
  · exact hasParameter_addParameter has .format

theorem hasParameter_addReportFormat (operation : Operation) :
    operation.addReportFormat.hasParameter "format" "path" = true := by
  unfold addReportFormat
  split
  · assumption
  · rw [hasParameter_iff]
    exact ⟨.format, by simp [addParameter], rfl, rfl⟩

theorem addAccept_of_hasParameter {operation : Operation}
    (has : operation.hasParameter "Accept" "header" = true) : operation.addAccept = operation :=
  if_pos has

theorem addReportFormat_of_hasParameter {operation : Operation}
    (has : operation.hasParameter "format" "path" = true) :
    operation.addReportFormat = operation :=
  if_pos has

theorem addFormats_addFormats (operation : Operation) :
    operation.addFormats.addFormats = operation.addFormats := by
  simp [addFormats, Parameter.withFormats_withFormats, Function.comp_def]

/-! What the correction of an operation leaves as it is. -/

@[simp] theorem addAccept_description (operation : Operation) :
    operation.addAccept.description = operation.description := by
  unfold addAccept
  split <;> rfl

@[simp] theorem addAccept_requestBody (operation : Operation) :
    operation.addAccept.requestBody = operation.requestBody := by
  unfold addAccept
  split <;> rfl

@[simp] theorem addAccept_extra (operation : Operation) :
    operation.addAccept.extra = operation.extra := by
  unfold addAccept
  split <;> rfl

@[simp] theorem correct_description (path : Text) (operation : Operation) :
    (operation.correct path).description = operation.description := by
  unfold correct addFormats
  split <;> simp

@[simp] theorem correct_requestBody (path : Text) (operation : Operation) :
    (operation.correct path).requestBody = operation.requestBody := by
  unfold correct addFormats
  split <;> simp

@[simp] theorem correct_extra (path : Text) (operation : Operation) :
    (operation.correct path).extra = operation.extra := by
  unfold correct addFormats
  split <;> simp

/-- Where nothing is missing from an operation, its correction does nothing. -/
theorem correct_eq_self {path : Text} {operation : Operation}
    (accepts : Path.hasFormat path = true ∨ operation.hasParameter "Accept" "header" = true)
    (listed : operation.addFormats = operation)
    (documented : operation.responses = Response.all path) :
    operation.correct path = operation := by
  have accepted : (if Path.hasFormat path then operation else operation.addAccept) = operation := by
    split
    · rfl
    · rename_i lacking
      exact addAccept_of_hasParameter (accepts.resolve_left lacking)
  unfold correct
  rw [accepted]
  show { operation.addFormats with responses := Response.all path } = operation
  rw [listed, ← documented]

theorem correct_correct (path : Text) (operation : Operation) :
    (operation.correct path).correct path = operation.correct path := by
  refine correct_eq_self ?_ ?_ rfl
  · by_cases formatted : Path.hasFormat path = true
    · exact Or.inl formatted
    · refine Or.inr ?_
      unfold correct
      rw [if_neg formatted]
      exact (hasParameter_addFormats _ _ _).trans (hasParameter_addAccept operation)
  · unfold correct
    exact congrArg (fun settled : Operation => { settled with responses := Response.all path })
      (addFormats_addFormats _)

/-- The correction of an operation drops no parameter. -/
theorem hasParameter_correct {path name location : Text} {operation : Operation}
    (has : operation.hasParameter name location = true) :
    (operation.correct path).hasParameter name location = true := by
  unfold correct
  refine (hasParameter_addFormats _ _ _).trans ?_
  split
  · exact has
  · exact hasParameter_addAccept_of_hasParameter has

/-- An operation that takes a query in its body does so after its correction, without being told
again. -/
theorem asStarqlPost_correct (path : Text) (operation : Operation) :
    (operation.asStarqlPost.correct path).asStarqlPost = operation.asStarqlPost.correct path := by
  have described := correct_description path operation.asStarqlPost
  have expected := correct_requestBody path operation.asStarqlPost
  show { operation.asStarqlPost.correct path with
    description := operation.asStarqlPost.description
    requestBody := operation.asStarqlPost.requestBody } = _
  rw [← described, ← expected]

/-- The correction of an operation does not look at the responses that it replaces. -/
theorem correct_setResponses (path : Text) (operation : Operation)
    (responses : Dict (Dict Json)) :
    ({ operation with responses } : Operation).correct path = operation.correct path := by
  unfold correct
  split
  · rfl
  · have accepted : ({ operation with responses } : Operation).addAccept =
        { operation.addAccept with responses } := by
      unfold addAccept
      rw [show ({ operation with responses } : Operation).hasParameter "Accept" "header" =
        operation.hasParameter "Accept" "header" from rfl]
      split <;> rfl
    rw [accepted]
    rfl

/-- After its correction an operation that takes a query as a parameter has one more, for the type of
its answer, and none where the path tells the format. -/
theorem correct_asStarqlGet (path : Text) (operation : Operation) :
    operation.asStarqlGet.correct path =
      { operation.asStarqlGet with
        parameters := .query :: if Path.hasFormat path then [] else [.accept]
        responses := Response.all path } := by
  unfold correct
  cases Path.hasFormat path <;> rfl

/-- The query without a body that is put together from a corrected operation documents the responses
of the path, and is otherwise the one that is put together from the operation as it was given. -/
theorem asStarqlGet_correct (path : Text) (operation : Operation) :
    (operation.asStarqlPost.correct path).asStarqlGet =
      { operation.asStarqlGet with responses := Response.all path } :=
  congrArg (fun extra : Dict Json => { operation.asStarqlGet with
    responses := Response.all path
    extra }) (correct_extra path operation.asStarqlPost)

/-- The query operations of an operation and of its corrected form have the same correction. -/
theorem correct_asStarqlGet_correct (path : Text) (operation : Operation) :
    ((operation.asStarqlPost.correct path).asStarqlGet).correct path =
      operation.asStarqlGet.correct path := by
  rw [asStarqlGet_correct, correct_setResponses]

end Operation

end ApiDoc
