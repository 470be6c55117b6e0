/-
This file proves that no reference dangles in a composed document. The correction of a document makes
up no reference, no more than its reading and its writing, and the schemas of tables hold none. So
every reference that is left stood in the converted document, outside of its schemas: those give way
to the schemas of the tables, and it is in these that references have to find what they refer to.
-/
import ApiDoc.Document.Composition
import ApiDoc.Proofs.FinishedTables
import ApiDoc.Proofs.Recorrection
import ApiDoc.Proofs.References

namespace ApiDoc

/-! ### Correction -/

section Correction

variable {known : List Text}

theorem Dict.refersWithin_of_memberReferences_eq_nil {members : Dict Json}
    (free : Json.memberReferences members = []) : members.RefersWithin known :=
  Json.refersWithin_object.mp (Json.refersWithin_of_references_eq_nil free)

namespace Parameter

theorem refersWithin_format : Parameter.format.RefersWithin known where
  schema _ given := Option.mem_some_iff.mp given ▸ Dict.refersWithin_of_memberReferences_eq_nil rfl
  extra := List.forall_mem_nil _

theorem refersWithin_query : Parameter.query.RefersWithin known where
  schema _ given := Option.mem_some_iff.mp given ▸ Dict.refersWithin_of_memberReferences_eq_nil rfl
  extra := List.forall_mem_nil _

theorem refersWithin_accept : Parameter.accept.RefersWithin known where
  schema _ given := Option.mem_some_iff.mp given ▸ Dict.refersWithin_of_memberReferences_eq_nil rfl
  extra := List.forall_mem_nil _

theorem refersWithin_listFormats {schema : Dict Json} (within : schema.RefersWithin known) :
    (listFormats schema).RefersWithin known := by
  have listed : (Json.array (formats.map .string)).RefersWithin known :=
    Json.refersWithin_of_references_eq_nil rfl
  refine (Dict.RefersWithin.insert ?_ (.of_ne (by decide) listed)).insert
    (.of_ne (by decide) (Json.refersWithin_string defaultFormat))
  split
  · exact Dict.refersWithin_of_memberReferences_eq_nil rfl
  · exact within

theorem RefersWithin.withFormats {parameter : Parameter} (within : parameter.RefersWithin known) :
    parameter.withFormats.RefersWithin known := by
  unfold Parameter.withFormats
  split
  · refine ⟨fun schema given => ?_, within.extra⟩
    obtain rfl := Option.mem_some_iff.mp given
    refine refersWithin_listFormats ?_
    cases declared : parameter.schema with
    | none => exact List.forall_mem_nil _
    | some schema => exact within.schema schema declared
  · exact within

end Parameter

theorem Response.refersWithin_all (path : Text) :
    ∀ response ∈ all path, Dict.RefersWithin known response.2 := by
  refine List.forall_mem_cons.mpr ⟨?success, List.forall_mem_map.mpr fun error _ => ?error⟩
  case success =>
    refine Dict.refersWithin_of_memberReferences_eq_nil ?_
    unfold success
    split <;> rfl
  case error => exact Dict.refersWithin_of_memberReferences_eq_nil rfl

namespace Operation.RefersWithin

variable {operation : Operation} (within : operation.RefersWithin known)

include within

theorem addParameter {parameter : Parameter} (new : parameter.RefersWithin known) :
    (operation.addParameter parameter).RefersWithin known where
  parameters := List.forall_mem_append.mpr
    ⟨within.parameters, List.forall_mem_singleton.mpr new⟩
  requestBody := within.requestBody
  responses := within.responses
  extra := within.extra

theorem addReportFormat : operation.addReportFormat.RefersWithin known := by
  unfold Operation.addReportFormat
  split
  · exact within
  · exact within.addParameter Parameter.refersWithin_format

theorem addAccept : operation.addAccept.RefersWithin known := by
  unfold Operation.addAccept
  split
  · exact within
  · exact within.addParameter Parameter.refersWithin_accept

theorem addFormats : operation.addFormats.RefersWithin known where
  parameters := List.forall_mem_map.mpr fun parameter member =>
    (within.parameters parameter member).withFormats
  requestBody := within.requestBody
  responses := within.responses
  extra := within.extra

theorem asStarqlPost : operation.asStarqlPost.RefersWithin known where
  parameters := within.parameters
  requestBody body given := by
    obtain rfl := Option.mem_some_iff.mp given
    exact ⟨List.forall_mem_singleton.mpr (List.forall_mem_nil _), List.forall_mem_nil _⟩
  responses := within.responses
  extra := within.extra

theorem asStarqlGet : operation.asStarqlGet.RefersWithin known where
  parameters := List.forall_mem_singleton.mpr Parameter.refersWithin_query
  requestBody _ given := nomatch given
  responses := within.responses
  extra := within.extra

theorem correct (path : Text) : (operation.correct path).RefersWithin known := by
  have completed : RefersWithin known
      (if Path.hasFormat path then operation else operation.addAccept) := by
    split
    · exact within
    · exact within.addAccept
  exact { completed.addFormats with responses := Response.refersWithin_all path }

end Operation.RefersWithin

namespace PathItem.RefersWithin

variable {item : PathItem} (within : item.RefersWithin known)

include within

theorem mapOperations {change : Operation → Operation}
    (keeps : ∀ operation : Operation, operation.RefersWithin known →
      (change operation).RefersWithin known) :
    (item.mapOperations change).RefersWithin known where
  operation? method operation found := by
    rw [operation?_mapOperations] at found
    obtain ⟨origin, given, rfl⟩ := Option.map_eq_some_iff.mp found
    exact keeps origin (within.operation? method origin given)
  extra := within.extra

theorem setOperation (method : Method) {operation? : Option Operation}
    (new : ∀ operation ∈ operation?, operation.RefersWithin known) :
    (item.setOperation method operation?).RefersWithin known where
  operation? other operation found := by
    rw [operation?_setOperation] at found
    split at found
    · exact new operation found
    · exact within.operation? other operation found
  extra := by cases method <;> exact within.extra

theorem addStarql : item.addStarql.RefersWithin known := by
  unfold PathItem.addStarql
  split
  · exact within
  · rename_i post posted
    have given := within.operation? .post post posted
    show RefersWithin known ((item.setOperation .post (some post.asStarqlPost)).setOperation .get
      (some post.asStarqlGet))
    refine (within.setOperation .post ?post).setOperation .get ?get
    case post => exact fun _ same => Option.mem_some_iff.mp same ▸ given.asStarqlPost
    case get => exact fun _ same => Option.mem_some_iff.mp same ▸ given.asStarqlGet

theorem addMissing (path : Text) : (item.addMissing path).RefersWithin known := by
  unfold PathItem.addMissing
  split
  · exact within.mapOperations fun _ => Operation.RefersWithin.addReportFormat
  · split
    · exact within.addStarql
    · exact within

theorem correctMethods (path : Text) : (item.correctMethods path).RefersWithin known where
  operation? method operation found := by
    obtain ⟨origin, given⟩ := drawnFrom_correctMethods path item method operation found
    exact within.operation? origin operation given
  extra := by
    unfold PathItem.correctMethods
    repeat' split
    all_goals exact within.extra

theorem correct (path : Text) : (item.correct path).RefersWithin known :=
  (within.correctMethods path).mapOperations fun _ given => given.correct path

end PathItem.RefersWithin

/-- The correction of a document makes up no reference, if the servers hold none of their own. -/
theorem Document.RefersWithin.correct {document : Document} (within : document.RefersWithin known)
    {servers : List (Dict Json)} (served : ∀ server ∈ servers, Dict.RefersWithin known server) :
    (document.correct servers).RefersWithin known where
  info := within.info
  servers := served
  paths := by
    rintro ⟨path, _⟩ member
    obtain ⟨spelled, origin, given, rfl, rfl⟩ := exists_given_of_mem_paths member
    exact ((within.paths _ given).addMissing _).correct _
  components :=
    { extra := within.components.extra
      securitySchemes := by
        show ∀ entry ∈ Dict.insertIfNew document.components.securitySchemes basicSchemeName
          basicScheme, Dict.RefersWithin known entry.2
        unfold Dict.insertIfNew
        split
        · exact within.components.securitySchemes
        · exact List.forall_mem_append.mpr ⟨within.components.securitySchemes,
            List.forall_mem_singleton.mpr (Dict.refersWithin_of_memberReferences_eq_nil rfl)⟩ }
  extra := within.extra

theorem Connection.refersWithin_servers (connection : Connection) :
    ∀ server ∈ connection.servers, Dict.RefersWithin known server := by
  simp only [servers, List.forall_mem_cons]
  exact ⟨Dict.refersWithin_of_memberReferences_eq_nil rfl,
    Dict.refersWithin_of_memberReferences_eq_nil rfl, List.forall_mem_nil _⟩

end Correction

/-! ### Schemas of tables -/

section Tables

variable {known : List Text}

namespace Property.IsPlain

variable {property : Property} (plain : property.IsPlain)

include plain

/-- A plain property holds no reference, so whatever is known. -/
theorem refersWithin_toJson : property.toJson.RefersWithin known := by
  refine Json.refersWithin_object.mpr (Dict.refersWithin_ofParts ?_)
  simp only [List.forall_mem_cons]
  refine ⟨?type, ?format, ?description, ?maxLength, ?nullable, ?enum, ?oneOf, List.forall_mem_nil _⟩
  case type | format | description =>
    exact Dict.refersWithin_optionalText (by decide) _
  case maxLength =>
    exact Dict.refersWithin_optionalPart (by decide) fun _ _ =>
      Json.refersWithin_of_references_eq_nil rfl
  case nullable =>
    split
    · exact Dict.refersWithin_of_memberReferences_eq_nil rfl
    · exact List.forall_mem_nil _
  case enum =>
    split
    · exact List.forall_mem_nil _
    · refine Dict.refersWithin_singleton (by decide) (Json.refersWithin_array.mpr ?_)
      intro entry member
      have listed := plain.enum entry member
      cases entry with
      | null | string | integer => exact Json.refersWithin_of_references_eq_nil rfl
      | bool | double | array | object => cases listed
  case oneOf =>
    refine Dict.refersWithin_optionalPart (by decide) fun choices given => ?_
    rw [plain.oneOf choices given]
    exact Json.refersWithin_of_references_eq_nil rfl

end Property.IsPlain

theorem Table.IsPlain.refersWithin_toJson {table : Table} (plain : table.IsPlain) :
    table.toJson.RefersWithin known := by
  refine Json.refersWithin_object.mpr (Dict.refersWithin_ofParts ?_)
  simp only [List.forall_mem_cons]
  refine ⟨?type, ?required, ?properties, List.forall_mem_nil _⟩
  case type => exact Dict.refersWithin_singleton (by decide) (Json.refersWithin_string _)
  case required =>
    unfold requiredMember
    split
    · exact List.forall_mem_nil _
    · refine Dict.refersWithin_singleton (by decide) (Json.refersWithin_array.mpr ?_)
      exact List.forall_mem_map.mpr fun name _ => Json.refersWithin_string name
  case properties =>
    refine Dict.refersWithin_singleton (by decide) (Json.refersWithin_object.mpr ?_)
    exact List.forall_mem_map.mpr fun entry member =>
      .object (plain.properties entry member).2.refersWithin_toJson

/-- The schemas that a run collects hold no reference. -/
theorem Source.memberReferences_schemas {σ : Type} (source : Source σ)
    (session : Http.Session σ) {schemas : Dict Json}
    (collected : ((Cached.fresh source.schemas).perform session).1 = .ok schemas) :
    Json.memberReferences schemas = [] := by
  rw [perform_schemas] at collected
  dsimp only at collected
  obtain ⟨tables, finished, rfl⟩ := map_eq_ok_iff.mp collected
  obtain ⟨plain, _⟩ := source.finished_tables EnumCache.isShort_empty finished
  refine List.eq_nil_of_subset_nil (Json.refersWithin_object.mpr fun member among => ?_)
  have given := Dict.mem_of_mem_ofEntries ((Dict.mem_sorted_iff _ _).mp among)
  obtain ⟨table, isTable, rfl⟩ := List.mem_map.mp given
  exact .object (plain table isTable).refersWithin_toJson

end Tables

/-! ### Composition -/

namespace Document

/-- A composed document names the schemas of the tables, in ascending order, and no others. -/
theorem schemaNames_compose (document : Document) (schemas : Dict Json) :
    (document.compose schemas).schemaNames = schemas.sorted.keys := by
  obtain ⟨openapi, info, servers, paths, components, security, extra⟩ := document
  cases info <;> rfl

variable {converted : Json} {document : Document}

/-- Every reference in a composed document stood in the converted document outside of its schemas, or
stands in the schemas of the tables. -/
theorem references_compose_subset (read : ofJson converted = .valid document)
    (connection : Connection) (schemas : Dict Json) :
    ((document.correct connection.servers).compose schemas).references ⊆
      converted.withoutSchemas.references ++ Json.memberReferences schemas := by
  have given : document.RefersWithin _ := refersWithin_ofJson read
    (List.subset_append_left _ (Json.memberReferences schemas))
  have tables : schemas.RefersWithin
      (converted.withoutSchemas.references ++ Json.memberReferences schemas) :=
    Json.refersWithin_object.mp (List.subset_append_right _ _)
  have corrected := given.correct connection.refersWithin_servers
  refine RefersWithin.toJson ⟨corrected.info, corrected.servers, corrected.paths,
    ⟨corrected.components.securitySchemes, corrected.components.extra⟩, corrected.extra⟩ ?_
  exact fun member among => tables member ((Dict.mem_sorted_iff _ _).mp among)

/-- No reference dangles in a composed document if those of the converted document, outside of its
schemas, and those in the schemas of the tables are to tables. Whether the converted document has
schemas for them does not matter. -/
theorem references_resolve (read : ofJson converted = .valid document)
    (connection : Connection) {schemas : Dict Json}
    (outside : converted.withoutSchemas.references ⊆ schemas.keys)
    (inside : Json.memberReferences schemas ⊆ schemas.keys) :
    ((document.correct connection.servers).compose schemas).references ⊆
      ((document.correct connection.servers).compose schemas).schemaNames := by
  intro name named
  rw [schemaNames_compose, Dict.mem_keys_sorted]
  exact List.append_subset.mpr ⟨outside, inside⟩
    (references_compose_subset read connection schemas named)

end Document

/-- The documentation of a run is composed of the converted description and the schemas that the run
collects, and every reference in it stood in the former outside of its schemas. -/
theorem Source.references_documentation {σ : Type} (source : Source σ) (converter : Converter σ)
    {session after : Http.Session σ} {text : Text}
    (succeeds : (source.documentation converter).perform session = (.ok text, after)) :
    ∃ converted between document schemas,
      (source.description >>= converter.convert).perform session = (.ok converted, between) ∧
      Document.ofJson converted = .valid document ∧
      (Cached.fresh source.schemas).perform between = (.ok schemas, after) ∧
      text = Document.serialize
        ((document.correct source.connection.servers).compose schemas) ∧
      ((document.correct source.connection.servers).compose schemas).references ⊆
        converted.withoutSchemas.references := by
  obtain ⟨description, asked, converted, between, document, schemas, described, answered, given,
    collected, rfl⟩ := source.perform_documentation_eq_ok succeeds
  have among := Document.references_compose_subset given source.connection schemas
  rw [source.memberReferences_schemas between (congrArg Prod.fst collected),
    List.append_nil] at among
  refine ⟨converted, between, document, schemas, ?_, given, collected, rfl, among⟩
  rw [Attempt.perform_bind, described]
  exact answered

namespace Document

/-! ### References that dangle -/

/-- A reference to the schema of a name. -/
def referenceTo (name : Text) : Json :=
  .object [(Json.referenceKey, .string (Json.schemaPlace ++ name))]

/-- A converted document with one operation, whose body refers to the one schema of the document. -/
def sending (name : Text) : Json :=
  .object
    [("paths", .object [("/create", .object [("post", .object [("requestBody", .object
      [("content", .object [("application/json", .object [("schema", referenceTo name)])])])])])]),
      ("components", .object [("schemas", .object [(name, .object [])])])]

/-- The schemas of a service with one table. -/
def booking : Dict Json := [("Booking", .object [])]

/-- The connection of a service without addresses. -/
def unaddressed : Connection := { productionUrl := [], developmentUrl := [] }

/-- What is composed of a document that is read from a converted one. -/
def composed (converted : Json) (schemas : Dict Json) : Option Json :=
  match ofJson converted with
  | .valid document => some ((document.correct unaddressed.servers).compose schemas)
  | .invalid _ => none

theorem references_resolve_sending :
    ∃ document, ofJson (sending "Booking") = .valid document ∧
      (sending "Booking").withoutSchemas.references ⊆ booking.keys ∧
      Json.memberReferences booking ⊆ booking.keys ∧
      ((document.correct unaddressed.servers).compose booking).references ⊆
        ((document.correct unaddressed.servers).compose booking).schemaNames :=
  have outside : (sending "Booking").withoutSchemas.references ⊆ booking.keys := by decide
  have inside : Json.memberReferences booking ⊆ booking.keys := by decide
  ⟨_, rfl, outside, inside, references_resolve rfl unaddressed outside inside⟩

/-- A reference to a schema of the document itself dangles if no table has its name, and so does a
reference in the schema of a table. -/
theorem references_dangle :
    ((sending "Legacy").withoutSchemas.references ⊆ (sending "Legacy").schemaNames ∧
      ∃ json, composed (sending "Legacy") booking = some json ∧
        ¬ json.references ⊆ json.schemaNames) ∧
      (Json.object []).withoutSchemas.references ⊆ (Json.object []).schemaNames ∧
        ∃ json, composed (.object []) [("Booking", referenceTo "Room")] = some json ∧
          ¬ json.references ⊆ json.schemaNames :=
  ⟨⟨by decide, _, rfl, by decide +kernel⟩, by decide, _, rfl, by decide +kernel⟩

end Document

end ApiDoc
