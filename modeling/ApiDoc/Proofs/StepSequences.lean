/-
This file proves that the steps of the correction add nothing twice, in whatever order they are taken
and however often. An operation whose parameters differ in name or location keeps that, because a
parameter is only added where there is none like it; the requirement of basic authentication is added
where there is none; and no step doubles the format at the end of a path.
-/
import ApiDoc.Document.Step
import ApiDoc.Proofs.Endpoints

namespace ApiDoc

/-! ### Parameters of an operation -/

/-- The name and the location of a parameter, which tell it from others. -/
def Parameter.place (parameter : Parameter) : Option Text × Option Text :=
  (parameter.name, parameter.location)

@[simp] theorem Parameter.place_withFormats (parameter : Parameter) :
    parameter.withFormats.place = parameter.place := by
  simp [place]

namespace Operation

/-- The names and locations of the parameters. -/
def places (operation : Operation) : List (Option Text × Option Text) :=
  operation.parameters.map Parameter.place

/-- No two parameters have the same name and location. -/
def IsDistinct (operation : Operation) : Prop := operation.places.Nodup

instance : DecidablePred IsDistinct := fun operation =>
  inferInstanceAs (Decidable operation.places.Nodup)

theorem hasParameter_iff_mem_places (operation : Operation) (name location : Text) :
    operation.hasParameter name location = true ↔ (some name, some location) ∈ operation.places := by
  rw [hasParameter_iff, places, List.mem_map]
  refine exists_congr fun parameter => and_congr_right fun _ => ?_
  rw [Parameter.place, Prod.mk.injEq]

@[simp] theorem places_addFormats (operation : Operation) :
    operation.addFormats.places = operation.places := by
  simp [places, Function.comp_def]

variable {operation : Operation}

/-- A parameter that is new may be added. -/
theorem IsDistinct.addParameter (distinct : operation.IsDistinct) {name location : Text}
    (new : ¬ operation.hasParameter name location = true) {parameter : Parameter}
    (placed : parameter.place = (some name, some location)) :
    (operation.addParameter parameter).IsDistinct := by
  rw [hasParameter_iff_mem_places, ← placed] at new
  rw [IsDistinct, places, Operation.addParameter, List.map_append, List.map_singleton,
    List.nodup_append_comm, List.singleton_append, List.nodup_cons]
  exact ⟨new, distinct⟩

theorem IsDistinct.addAccept (distinct : operation.IsDistinct) : operation.addAccept.IsDistinct := by
  unfold Operation.addAccept
  split
  · exact distinct
  · rename_i new
    exact distinct.addParameter new rfl

theorem IsDistinct.addReportFormat (distinct : operation.IsDistinct) :
    operation.addReportFormat.IsDistinct := by
  unfold Operation.addReportFormat
  split
  · exact distinct
  · rename_i new
    exact distinct.addParameter new rfl

theorem IsDistinct.addFormats (distinct : operation.IsDistinct) :
    operation.addFormats.IsDistinct := by
  rw [IsDistinct, places_addFormats]
  exact distinct

theorem IsDistinct.correct (distinct : operation.IsDistinct) (path : Text) :
    (operation.correct path).IsDistinct := by
  unfold Operation.correct
  dsimp only
  split
  · exact distinct.addFormats
  · exact distinct.addAccept.addFormats

/-- A parameter that an operation has it has once. -/
theorem IsDistinct.count_places (distinct : operation.IsDistinct) {name location : Text}
    (has : operation.hasParameter name location = true) :
    operation.places.count (some name, some location) = 1 :=
  List.count_eq_one_of_mem distinct ((hasParameter_iff_mem_places _ _ _).mp has)

end Operation

/-! ### Operations of an item -/

namespace PathItem

/-- No operation has two parameters of the same name and location. -/
def IsDistinct (item : PathItem) : Prop := ∀ entry ∈ item.operations, entry.2.IsDistinct

instance : DecidablePred IsDistinct := fun item =>
  inferInstanceAs (Decidable (∀ entry ∈ item.operations, entry.2.IsDistinct))

theorem isDistinct_iff (item : PathItem) :
    item.IsDistinct ↔
      ∀ method operation, item.operation? method = some operation → operation.IsDistinct := by
  simp only [IsDistinct, Prod.forall, mem_operations_iff]

variable {item : PathItem}

theorem IsDistinct.mapOperations (distinct : item.IsDistinct) {change : Operation → Operation}
    (keeps : ∀ operation : Operation, operation.IsDistinct → (change operation).IsDistinct) :
    (item.mapOperations change).IsDistinct := by
  rw [isDistinct_iff] at distinct ⊢
  intro method operation found
  rw [operation?_mapOperations, Option.map_eq_some_iff] at found
  obtain ⟨origin, given, rfl⟩ := found
  exact keeps origin (distinct method origin given)

/-- Moving or copying an operation does not touch its parameters. -/
theorem IsDistinct.correctMethods (distinct : item.IsDistinct) (path : Text) :
    (item.correctMethods path).IsDistinct := by
  rw [isDistinct_iff] at distinct ⊢
  intro method operation found
  obtain ⟨origin, given⟩ := drawnFrom_correctMethods path item method operation found
  exact distinct origin operation given

theorem IsDistinct.addStarql (distinct : item.IsDistinct) : item.addStarql.IsDistinct := by
  cases posted : item.post with
  | none =>
    rw [addStarql_of_post_none posted]
    exact distinct
  | some post =>
    have queried : item.addStarql =
        (item.setOperation .post (some post.asStarqlPost)).setOperation .get
          (some post.asStarqlGet) := by
      unfold PathItem.addStarql
      rw [posted]
      rfl
    rw [isDistinct_iff] at distinct ⊢
    intro method operation found
    rw [queried, operation?_setOperation, operation?_setOperation] at found
    split at found
    · obtain rfl := Option.some_inj.mp found
      exact List.nodup_singleton _
    · split at found
      · obtain rfl := Option.some_inj.mp found
        exact distinct .post post posted
      · exact distinct method operation found

theorem IsDistinct.addMissing (distinct : item.IsDistinct) (path : Text) :
    (item.addMissing path).IsDistinct := by
  unfold PathItem.addMissing
  split
  · exact distinct.mapOperations fun _ => Operation.IsDistinct.addReportFormat
  · split
    · exact distinct.addStarql
    · exact distinct

theorem IsDistinct.correct (distinct : item.IsDistinct) (path : Text) :
    (item.correct path).IsDistinct :=
  (distinct.correctMethods path).mapOperations fun _ kept => kept.correct path

end PathItem

/-! ### Endings of paths -/

namespace Path

/-- The path ends in its format twice. -/
def EndsTwice (path : Text) : Prop := (formatEnding ++ formatEnding) <:+ path

theorem endsTwice_of_withTableName {path : Text} (twice : EndsTwice (withTableName path)) :
    EndsTwice path := by
  have lacks : ¬ ("tableName" : Text) <:+: formatTemplate ++ formatEnding := by
    rw [← Text.mentions_iff]
    decide
  exact Text.suffix_of_suffix_replaceFrom (by decide) lacks twice

/-- A format is added only where there is none. -/
theorem endsTwice_of_withReportFormat {path : Text} (twice : EndsTwice (withReportFormat path)) :
    EndsTwice path := by
  unfold withReportFormat at twice
  split at twice
  · rename_i lacking
    rw [Bool.and_eq_true, Bool.not_eq_true', ← Bool.not_eq_true, List.isSuffixOf_iff_suffix]
      at lacking
    exact absurd ((List.suffix_append_inj_of_length_eq rfl).mp twice).1 lacking.2
  · exact twice

end Path

namespace Document

/-! ### What every step keeps -/

/-- No operation of any path has two parameters of the same name and location. -/
def IsDistinct (document : Document) : Prop := ∀ entry ∈ document.paths, entry.2.IsDistinct

instance : DecidablePred IsDistinct := fun document =>
  inferInstanceAs (Decidable (∀ entry ∈ document.paths, entry.2.IsDistinct))

/-- Some path ends in its format twice. -/
def EndsTwice (document : Document) : Prop := ∃ path ∈ document.paths.keys, Path.EndsTwice path

variable {document : Document}

theorem IsDistinct.mapItems (distinct : document.IsDistinct) {change : Text → PathItem → PathItem}
    (keeps : ∀ path (item : PathItem), item.IsDistinct → (change path item).IsDistinct) :
    (document.mapItems change).IsDistinct := by
  intro entry member
  obtain ⟨origin, given, rfl⟩ := List.mem_map.mp member
  exact keeps origin.1 origin.2 (distinct origin given)

theorem IsDistinct.renameTableTemplates (distinct : document.IsDistinct) :
    document.renameTableTemplates.IsDistinct := by
  intro entry member
  obtain ⟨origin, given, rfl⟩ := List.mem_map.mp (Dict.mem_of_mem_ofEntries member)
  exact distinct origin given

theorem IsDistinct.addMissingParameters (distinct : document.IsDistinct) :
    document.addMissingParameters.IsDistinct := by
  intro entry member
  obtain ⟨origin, given, rfl⟩ := List.mem_map.mp (Dict.mem_of_mem_ofEntries member)
  exact (distinct origin given).addMissing _

/-- No step gives an operation a parameter that it has. -/
theorem IsDistinct.apply (distinct : document.IsDistinct) (step : Step) :
    (step.apply document).IsDistinct := by
  cases step with
  | renameTableTemplates => exact distinct.renameTableTemplates
  | addMissingParameters => exact distinct.addMissingParameters
  | correctMethods => exact distinct.mapItems fun path _ kept => kept.correctMethods path
  | addAccept =>
    exact distinct.mapItems fun _ _ kept =>
      kept.mapOperations fun _ => Operation.IsDistinct.addAccept
  | addFormats =>
    exact distinct.mapItems fun _ _ kept =>
      kept.mapOperations fun _ => Operation.IsDistinct.addFormats
  | addBasicAuth | setServers => exact distinct
  | correct =>
    exact distinct.renameTableTemplates.addMissingParameters.mapItems fun path _ kept =>
      kept.correct path

/-- Basic authentication is required at least once after it was asked for, and no more often than
before if it was required already. -/
theorem count_addBasicAuth (document : Document) :
    document.addBasicAuth.security.count basicRequirement =
      max 1 (document.security.count basicRequirement) := by
  unfold addBasicAuth
  dsimp only
  split
  · rename_i required
    exact (max_eq_right (List.count_pos_iff.mpr (List.contains_iff_mem.mp required))).symm
  · rename_i lacking
    have absent : document.security.count basicRequirement = 0 :=
      List.count_eq_zero.mpr fun member => lacking (List.contains_iff_mem.mpr member)
    rw [List.count_append, absent, List.count_singleton_self]
    rfl

theorem count_apply (step : Step) (document : Document) :
    (step.apply document).security.count basicRequirement =
      if step.secures then max 1 (document.security.count basicRequirement)
      else document.security.count basicRequirement := by
  cases step with
  | addBasicAuth => exact count_addBasicAuth document
  | correct =>
    exact count_addBasicAuth
      (document.renameTableTemplates.addMissingParameters.mapItems PathItem.correct)
  | _ => rfl

theorem endsTwice_of_mapItems {change : Text → PathItem → PathItem}
    (twice : (document.mapItems change).EndsTwice) : document.EndsTwice := by
  unfold EndsTwice mapItems at twice
  rw [Dict.keys_mapEntries] at twice
  exact twice

theorem endsTwice_of_renameTableTemplates (twice : document.renameTableTemplates.EndsTwice) :
    document.EndsTwice := by
  obtain ⟨path, known, ends⟩ := twice
  obtain ⟨entry, given, rfl⟩ := (mem_keys_renameTableTemplates document path).mp known
  exact ⟨entry.1, List.mem_map_of_mem given, Path.endsTwice_of_withTableName ends⟩

theorem endsTwice_of_addMissingParameters (twice : document.addMissingParameters.EndsTwice) :
    document.EndsTwice := by
  obtain ⟨path, known, ends⟩ := twice
  obtain ⟨name, given, rfl⟩ := (mem_keys_addMissingParameters document path).mp known
  exact ⟨name, given, Path.endsTwice_of_withReportFormat ends⟩

/-- No step doubles the format at the end of a path. -/
theorem endsTwice_of_apply (step : Step) (twice : (step.apply document).EndsTwice) :
    document.EndsTwice := by
  cases step with
  | renameTableTemplates => exact endsTwice_of_renameTableTemplates twice
  | addMissingParameters => exact endsTwice_of_addMissingParameters twice
  | correctMethods | addAccept | addFormats => exact endsTwice_of_mapItems twice
  | addBasicAuth | setServers => exact twice
  | correct =>
    exact endsTwice_of_renameTableTemplates
      (endsTwice_of_addMissingParameters (endsTwice_of_mapItems twice))

/-! ### What a step puts in place -/

/-- Every report says its format, and every operation of it asks for the format once. -/
def Reports (document : Document) : Prop :=
  ∀ entry ∈ document.paths, Path.isReport entry.1 = true →
    Path.formatEnding <:+ entry.1 ∧ ∀ method operation,
      entry.2.operation? method = some operation →
        operation.places.count Parameter.format.place = 1

/-- Every operation asks once for the type of its answer. -/
def Accepts (document : Document) : Prop :=
  ∀ entry ∈ document.paths, ∀ method operation, entry.2.operation? method = some operation →
    operation.places.count Parameter.accept.place = 1

theorem reports_addMissingParameters (distinct : document.IsDistinct) :
    document.addMissingParameters.Reports := by
  intro entry member report
  have kept := (PathItem.isDistinct_iff _).mp (distinct.addMissingParameters entry member)
  obtain ⟨origin, given, rfl⟩ := List.mem_map.mp (Dict.mem_of_mem_ofEntries member)
  refine ⟨Path.formatEnding_suffix_withReportFormat report, fun method operation found => ?_⟩
  refine (kept method operation found).count_places ?_
  dsimp only at report found
  rw [PathItem.addMissing, if_pos report, PathItem.operation?_mapOperations,
    Option.map_eq_some_iff] at found
  obtain ⟨first, _, rfl⟩ := found
  exact Operation.hasParameter_addReportFormat first

theorem accepts_addAccept (distinct : document.IsDistinct) :
    (document.mapOperations Operation.addAccept).Accepts := by
  intro entry member method operation found
  have kept := (PathItem.isDistinct_iff _).mp (distinct.apply .addAccept entry member)
  refine (kept method operation found).count_places ?_
  obtain ⟨origin, given, rfl⟩ := List.mem_map.mp member
  rw [PathItem.operation?_mapOperations, Option.map_eq_some_iff] at found
  obtain ⟨first, _, rfl⟩ := found
  exact Operation.hasParameter_addAccept first

/-! ### Sequences of steps -/

theorem afterSteps_concat (document : Document) (steps : List Step) (step : Step) :
    document.afterSteps (steps ++ [step]) = step.apply (document.afterSteps steps) :=
  List.foldl_concat _ _ _ _

theorem IsDistinct.afterSteps (distinct : document.IsDistinct) (steps : List Step) :
    (document.afterSteps steps).IsDistinct := by
  induction steps using List.reverseRecOn with
  | nil => exact distinct
  | append_singleton steps step inductionHypothesis =>
    rw [afterSteps_concat]
    exact inductionHypothesis.apply step

theorem count_afterSteps (steps : List Step) (document : Document) :
    (document.afterSteps steps).security.count basicRequirement =
      if steps.any Step.secures then max 1 (document.security.count basicRequirement)
      else document.security.count basicRequirement := by
  induction steps using List.reverseRecOn with
  | nil => rfl
  | append_singleton steps step inductionHypothesis =>
    rw [afterSteps_concat, count_apply, inductionHypothesis, List.any_append, List.any_cons,
      List.any_nil, Bool.or_false]
    cases steps.any Step.secures <;> cases step.secures <;> simp

theorem endsTwice_of_afterSteps (steps : List Step)
    (twice : (document.afterSteps steps).EndsTwice) : document.EndsTwice := by
  induction steps using List.reverseRecOn with
  | nil => exact twice
  | append_singleton steps step inductionHypothesis =>
    rw [afterSteps_concat] at twice
    exact inductionHypothesis (endsTwice_of_apply step twice)

/-- What steps that have been taken on a given document leave: nothing that stands twice, but for what
stood twice before. -/
structure Unrepeated (given : Document) (steps : List Step) (document : Document) : Prop where
  /-- No operation has two parameters of the same name and location. -/
  distinct : document.IsDistinct
  /-- Basic authentication is required once by the steps that ask for it, if it was not before. -/
  required : document.security.count basicRequirement =
    if steps.any Step.secures then max 1 (given.security.count basicRequirement)
    else given.security.count basicRequirement
  /-- No path ends in its format twice, unless a given one does. -/
  ends : document.EndsTwice → given.EndsTwice
  /-- The format of reports is there, once, as soon as it has been added. -/
  reports : steps.getLast? = some .addMissingParameters → document.Reports
  /-- So is the type of an answer. -/
  accepts : steps.getLast? = some .addAccept → document.Accepts

/-- Steps of the correction add nothing twice, in whatever order they are taken and however often. -/
theorem afterSteps_unrepeated (distinct : document.IsDistinct) (steps : List Step) :
    Unrepeated document steps (document.afterSteps steps) where
  distinct := distinct.afterSteps steps
  required := count_afterSteps steps document
  ends := endsTwice_of_afterSteps steps
  reports last := by
    obtain ⟨before, rfl⟩ := List.getLast?_eq_some_iff.mp last
    rw [afterSteps_concat]
    exact reports_addMissingParameters (distinct.afterSteps before)
  accepts last := by
    obtain ⟨before, rfl⟩ := List.getLast?_eq_some_iff.mp last
    rw [afterSteps_concat]
    exact accepts_addAccept (distinct.afterSteps before)

/-- A query and a report whose operations have some of the parameters that they need. -/
def queryAndReport : Document where
  paths :=
    [("/query",
        { post := some { parameters := [{ name := some "Accept", location := some "header" }] } }),
      ("/getreport/{tablename}",
        { get := some { parameters := [{ name := some "format", location := some "query" }] }
          post := some { parameters := [.format] } })]
  security := [basicRequirement, basicRequirement]

theorem afterSteps_unrepeated_queryAndReport :
    queryAndReport.IsDistinct ∧
      Unrepeated queryAndReport [.correct [], .addMissingParameters, .addFormats, .addAccept]
        (queryAndReport.afterSteps [.correct [], .addMissingParameters, .addFormats, .addAccept]) :=
  have distinct : queryAndReport.IsDistinct := by decide
  ⟨distinct, afterSteps_unrepeated distinct _⟩

end Document

end ApiDoc
