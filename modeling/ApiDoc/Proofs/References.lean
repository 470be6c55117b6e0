/-
This file says that reading a document and writing it make up no reference to a schema: if all
references in a JSON value are to known schemas, then so are those in the document that is read from
it, and so are those in the JSON value that the document is written as. The schemas of a document
are set aside, since they are replaced.
-/
import ApiDoc.Document.Reference
import ApiDoc.Document.Writing
import ApiDoc.Proofs.MethodChoice
import ApiDoc.Proofs.Reading

namespace ApiDoc

/-! ### References within known names -/

namespace Json

theorem mem_itemReferences {items : List Json} {name : Text} :
    name ∈ itemReferences items ↔ ∃ item ∈ items, name ∈ item.references := by
  induction items with
  | nil => simp [itemReferences]
  | cons item rest inductionHypothesis => simp [itemReferences, inductionHypothesis]

theorem mem_memberReferences {members : Dict Json} {name : Text} :
    name ∈ memberReferences members ↔
      ∃ member ∈ members, reference? member.1 member.2 = some name ∨
        name ∈ member.2.references := by
  induction members with
  | nil => simp [memberReferences]
  | cons member rest inductionHypothesis => simp [memberReferences, inductionHypothesis, or_assoc]

variable {known : List Text}

/-- The references in a value are to known schemas. -/
def RefersWithin (known : List Text) (value : Json) : Prop := value.references ⊆ known

/-- A member and the references in its value refer to known schemas. -/
structure MemberRefersWithin (known : List Text) (member : Text × Json) : Prop where
  own : ∀ name, reference? member.1 member.2 = some name → name ∈ known
  value : member.2.RefersWithin known

end Json

/-- Members and the references in their values refer to known schemas. -/
def Dict.RefersWithin (known : List Text) (members : Dict Json) : Prop :=
  ∀ member ∈ members, Json.MemberRefersWithin known member

namespace Json

variable {known : List Text}

theorem refersWithin_array {items : List Json} :
    (array items).RefersWithin known ↔ ∀ item ∈ items, item.RefersWithin known := by
  constructor
  · exact fun within item member name named =>
      within (mem_itemReferences.mpr ⟨item, member, named⟩)
  · intro within name named
    obtain ⟨item, member, inside⟩ := mem_itemReferences.mp named
    exact within item member inside

theorem refersWithin_object {members : Dict Json} :
    (object members).RefersWithin known ↔ Dict.RefersWithin known members := by
  constructor
  · exact fun within member among =>
      ⟨fun name refers => within (mem_memberReferences.mpr ⟨member, among, Or.inl refers⟩),
        fun name inside => within (mem_memberReferences.mpr ⟨member, among, Or.inr inside⟩)⟩
  · intro within name named
    obtain ⟨member, among, refers | inside⟩ := mem_memberReferences.mp named
    · exact (within member among).own name refers
    · exact (within member among).value inside

/-- Under any key but that of references only the value counts. -/
theorem MemberRefersWithin.of_ne {key : Text} (other : key ≠ referenceKey) {value : Json}
    (within : value.RefersWithin known) : MemberRefersWithin known (key, value) where
  own name refers := by
    cases value with
    | string target => simp [reference?, other] at refers
    | null | bool | integer | double | array | object => cases refers
  value := within

/-- Under any key only what is in an object counts. -/
theorem MemberRefersWithin.object {key : Text} {members : Dict Json}
    (within : (Json.object members).RefersWithin known) :
    MemberRefersWithin known (key, .object members) where
  own name refers := by cases refers
  value := within

theorem refersWithin_string (text : Text) : (string text).RefersWithin known :=
  List.nil_subset known

theorem refersWithin_bool (value : Bool) : (bool value).RefersWithin known := List.nil_subset known

/-- What a member makes of a document without its schemas. -/
theorem memberRefersWithin_of_withoutSchemas {members : Dict Json}
    (within : (object members).withoutSchemas.RefersWithin known) {key : Text} {value : Json}
    (among : (key, value) ∈ members) : MemberRefersWithin known
      (key, if key = "components" then value.withoutMember "schemas" else value) :=
  refersWithin_object.mp within _ (List.mem_map.mpr ⟨(key, value), among, rfl⟩)

theorem refersWithin_of_references_eq_nil {value : Json} (free : value.references = []) :
    value.RefersWithin known := by
  rw [RefersWithin, free]
  exact List.nil_subset known

end Json

namespace Dict

variable {α : Type} {known : List Text} {members : Dict Json}

theorem RefersWithin.of_subset (within : members.RefersWithin known) {fewer : Dict Json}
    (subset : fewer ⊆ members) : fewer.RefersWithin known :=
  fun member among => within member (subset among)

theorem RefersWithin.withoutNulls (within : members.RefersWithin known) :
    members.withoutNulls.RefersWithin known :=
  within.of_subset List.filter_sublist.subset

theorem RefersWithin.unknown (within : members.RefersWithin known) (fields : List Field) :
    RefersWithin known (Field.unknown members fields) :=
  within.of_subset List.filter_sublist.subset

theorem RefersWithin.insert (within : members.RefersWithin known) {key : Text} {value : Json}
    (new : Json.MemberRefersWithin known (key, value)) :
    (members.insert key value).RefersWithin known := by
  intro member among
  rcases mem_of_mem_insert among with rfl | before
  · exact new
  · exact within member before

theorem refersWithin_ofParts {parts : List (Dict Json)}
    (within : ∀ part ∈ parts, part.RefersWithin known) : (ofParts parts).RefersWithin known := by
  intro member among
  obtain ⟨part, isPart, inside⟩ := List.mem_flatten.mp among
  exact within part isPart member inside

theorem refersWithin_singleton {key : Text} (other : key ≠ Json.referenceKey) {value : Json}
    (within : value.RefersWithin known) : RefersWithin known [(key, value)] :=
  List.forall_mem_singleton.mpr (.of_ne other within)

theorem refersWithin_optionalPart {key : Text} (other : key ≠ Json.referenceKey)
    {write : α → Json} {value? : Option α}
    (within : ∀ value ∈ value?, (write value).RefersWithin known) :
    RefersWithin known (optionalPart key write value?) := by
  cases value? with
  | none => exact List.forall_mem_nil _
  | some value => exact refersWithin_singleton other (within value rfl)

theorem refersWithin_optionalText {key : Text} (other : key ≠ Json.referenceKey)
    (text? : Option Text) : RefersWithin known (optionalPart key .string text?) :=
  refersWithin_optionalPart other fun text _ => Json.refersWithin_string text

theorem refersWithin_nestedToJson {dict : Dict (Dict Json)}
    (within : ∀ entry ∈ dict, RefersWithin known entry.2) :
    dict.nestedToJson.RefersWithin known := by
  refine Json.refersWithin_object.mpr (List.forall_mem_map.mpr fun entry member => ?_)
  exact .object (Json.refersWithin_object.mpr (within entry member))

end Dict

/-! ### Parts of a document

A part refers to known schemas if all the JSON does that it was given and keeps as it is. -/

section Parts

variable (known : List Text)

structure Parameter.RefersWithin (parameter : Parameter) : Prop where
  schema : ∀ schema ∈ parameter.schema, Dict.RefersWithin known schema
  extra : parameter.extra.RefersWithin known

structure RequestBody.RefersWithin (body : RequestBody) : Prop where
  content : ∀ entry ∈ body.content, Dict.RefersWithin known entry.2
  extra : body.extra.RefersWithin known

structure Operation.RefersWithin (operation : Operation) : Prop where
  parameters : ∀ parameter ∈ operation.parameters, parameter.RefersWithin known
  requestBody : ∀ body ∈ operation.requestBody, body.RefersWithin known
  responses : ∀ entry ∈ operation.responses, Dict.RefersWithin known entry.2
  extra : operation.extra.RefersWithin known

structure PathItem.RefersWithin (item : PathItem) : Prop where
  operation? : ∀ method, ∀ operation ∈ item.operation? method, operation.RefersWithin known
  extra : item.extra.RefersWithin known

/-- The schemas do not count. -/
structure Components.RefersWithin (components : Components) : Prop where
  securitySchemes : ∀ entry ∈ components.securitySchemes, Dict.RefersWithin known entry.2
  extra : components.extra.RefersWithin known

/-- The schemas do not count. -/
structure Document.RefersWithin (document : Document) : Prop where
  info : ∀ info ∈ document.info, Dict.RefersWithin known info
  servers : ∀ server ∈ document.servers, Dict.RefersWithin known server
  paths : ∀ entry ∈ document.paths, entry.2.RefersWithin known
  components : document.components.RefersWithin known
  extra : document.extra.RefersWithin known

end Parts

/-! ### Reading -/

namespace Lenient

variable {α : Type} {known : List Text}

/-- What a kind reads from a value whose references are to known schemas satisfies a condition. -/
def Keeps (known : List Text) (kind : Json → Validated α) (condition : α → Prop) : Prop :=
  ∀ json value, kind json = .valid value → json.RefersWithin known → condition value

variable {kind : Json → Validated α} {condition : α → Prop}

theorem keeps_plainDictionary : Keeps known plainDictionary (Dict.RefersWithin known) := by
  intro json members given within
  obtain rfl := plainDictionary_eq_valid_iff.mp given
  exact Json.refersWithin_object.mp within

theorem keeps_model {read : Dict Json → Validated α}
    (keeps : ∀ members value, read members = .valid value → members.RefersWithin known →
      condition value) : Keeps known (model read) condition := by
  intro json value given within
  obtain ⟨members, rfl, -, reads⟩ := model_eq_valid_iff.mp given
  exact keeps members value reads (Json.refersWithin_object.mp within)

namespace Keeps

variable (keeps : Keeps known kind condition)

include keeps

theorem optional : Keeps known (optional kind) fun value? => ∀ value ∈ value?, condition value := by
  rintro json _ given within value rfl
  exact keeps json value (optional_eq_some given) within

theorem list : Keeps known (list kind) fun values => ∀ value ∈ values, condition value := by
  intro json values given within value member
  obtain ⟨items, rfl, origins⟩ := list_eq_valid given
  obtain ⟨item, among, reads⟩ := exists_of_forall₂ origins member
  exact keeps item value reads (Json.refersWithin_array.mp within item among)

theorem dictionary :
    Keeps known (dictionary kind) fun dict => ∀ entry ∈ dict, condition entry.2 := by
  intro json dict given within entry member
  obtain ⟨members, rfl, origins⟩ := dictionary_eq_valid given
  obtain ⟨origin, among, _, reads⟩ := exists_of_forall₂ origins member
  exact keeps origin.2 entry.2 reads (Json.refersWithin_object.mp within _ among).value

/-- A field satisfies the condition if its default does and its member refers to known schemas. -/
theorem member {field : Field} {members : Dict Json} {default value : α}
    (given : field.read members kind default = .valid value) (base : condition default)
    (within : ∀ json, (field.nameIn members, json) ∈ members → json.RefersWithin known) :
    condition value := by
  rcases Field.read_eq_valid given with rfl | ⟨json, among, reads⟩
  · exact base
  · exact keeps json value reads (within json among)

theorem field {field : Field} {members : Dict Json} {default value : α}
    (given : field.read members kind default = .valid value) (base : condition default)
    (within : members.RefersWithin known) : condition value :=
  keeps.member given base fun _ among => (within _ among).value

end Keeps

end Lenient

open Lenient (Keeps keeps_model keeps_plainDictionary)

section Reading

variable {known : List Text}

theorem Parameter.keeps_ofMembers : Keeps known (Lenient.model ofMembers) (RefersWithin known) := by
  refine keeps_model fun members parameter given within => ?_
  have read := isReadFrom_ofMembers given
  refine ⟨?_, read.extra ▸ within.unknown fields⟩
  exact keeps_plainDictionary.optional.field read.schema nofun within

theorem RequestBody.keeps_ofMembers :
    Keeps known (Lenient.model ofMembers) (RefersWithin known) := by
  refine keeps_model fun members body given within => ?_
  have read := isReadFrom_ofMembers given
  refine ⟨?_, read.extra ▸ within.unknown fields⟩
  exact keeps_plainDictionary.dictionary.field read.content nofun within

theorem Operation.keeps_ofMembers : Keeps known (Lenient.model ofMembers) (RefersWithin known) := by
  refine keeps_model fun members operation given within => ?_
  have read := isReadFrom_ofMembers given
  refine ⟨?parameters, ?requestBody, ?responses, read.extra ▸ within.unknown fields⟩
  case parameters =>
    exact Parameter.keeps_ofMembers.list.field read.parameters nofun within
  case requestBody =>
    exact RequestBody.keeps_ofMembers.optional.field read.requestBody nofun within
  case responses =>
    exact keeps_plainDictionary.dictionary.field read.responses nofun within

theorem PathItem.keeps_ofMembers : Keeps known (Lenient.model ofMembers) (RefersWithin known) := by
  refine keeps_model fun members item given within => ?_
  have read := isReadFrom_ofMembers given
  refine ⟨fun method => ?_, read.extra ▸ within.unknown fields⟩
  exact Operation.keeps_ofMembers.optional.field (read.operation? method) nofun within

/-- Of a value that components are read from, the schemas do not count. -/
theorem Components.refersWithin_of_model {json : Json} {components : Components}
    (given : Lenient.model ofMembers json = .valid components)
    (within : (json.withoutMember "schemas").RefersWithin known) :
    components.RefersWithin known := by
  obtain ⟨members, rfl, -, reads⟩ := Lenient.model_eq_valid_iff.mp given
  have read := isReadFrom_ofMembers reads
  have others : ∀ member ∈ members, member.1 ≠ "schemas" → Json.MemberRefersWithin known member :=
    fun member among other => Json.refersWithin_object.mp within member
      (List.mem_filter.mpr ⟨among, by simpa using other⟩)
  refine ⟨?securitySchemes, read.extra ▸ fun member among => ?extra⟩
  case securitySchemes =>
    exact keeps_plainDictionary.dictionary.member read.securitySchemes nofun fun json among =>
      (others _ among (Field.nameIn_ne (by decide) (by decide) members)).value
  case extra =>
    obtain ⟨given, unnamed⟩ := Field.mem_unknown_iff.mp among
    have other := unnamed schemasField List.mem_cons_self
    rw [schemasField, Field.nameIn_named] at other
    exact others member given other.symm

/-- A document that is read refers to known schemas if its JSON without the schemas does. -/
theorem Document.refersWithin_ofJson {json : Json} {document : Document}
    (given : ofJson json = .valid document) (within : json.withoutSchemas.RefersWithin known) :
    document.RefersWithin known := by
  obtain ⟨members, rfl, -, reads⟩ := Lenient.model_eq_valid_iff.mp given
  have read := isReadFrom_ofMembers reads
  have others : ∀ member ∈ members, member.1 ≠ "components" →
      Json.MemberRefersWithin known member := fun member among other => by
    have kept := Json.memberRefersWithin_of_withoutSchemas within among
    rwa [if_neg other] at kept
  have ordinary : ∀ field : Field, field.key ≠ "components" → field.name ≠ "components" →
      ∀ value, (field.nameIn members, value) ∈ members → value.RefersWithin known :=
    fun field key name value among => (others _ among (Field.nameIn_ne key name members)).value
  refine ⟨?info, ?servers, ?paths, ?components, read.extra ▸ fun member among => ?extra⟩
  case info =>
    exact keeps_plainDictionary.optional.member read.info nofun
      (ordinary infoField (by decide) (by decide))
  case servers =>
    exact keeps_plainDictionary.list.member read.servers (List.forall_mem_nil _)
      (ordinary serversField (by decide) (by decide))
  case paths =>
    exact PathItem.keeps_ofMembers.dictionary.member read.paths (List.forall_mem_nil _)
      (ordinary pathsField (by decide) (by decide))
  case components =>
    rcases Field.read_eq_valid read.components with absent | ⟨value, among, readsValue⟩
    · rw [absent]
      exact ⟨nofun, nofun⟩
    · rw [componentsField, Field.nameIn_named] at among
      have kept := (Json.memberRefersWithin_of_withoutSchemas within among).value
      rw [if_pos rfl] at kept
      exact Components.refersWithin_of_model readsValue kept
  case extra =>
    obtain ⟨given, unnamed⟩ := Field.mem_unknown_iff.mp among
    have other := unnamed componentsField (by decide)
    rw [componentsField, Field.nameIn_named] at other
    exact others member given other.symm

end Reading

/-! ### Writing -/

section Writing

variable {known : List Text}

theorem Parameter.RefersWithin.toJson {parameter : Parameter}
    (within : parameter.RefersWithin known) : parameter.toJson.RefersWithin known := by
  refine Json.refersWithin_object.mpr (Dict.refersWithin_ofParts ?_)
  simp only [List.forall_mem_cons]
  refine ⟨?name, ?location, ?description, ?required, ?schema, within.extra.withoutNulls,
    List.forall_mem_nil _⟩
  case name | location | description =>
    exact Dict.refersWithin_optionalText (by decide) _
  case required =>
    exact Dict.refersWithin_optionalPart (by decide) fun value _ => Json.refersWithin_bool value
  case schema =>
    exact Dict.refersWithin_optionalPart (by decide) fun schema given =>
      Json.refersWithin_object.mpr (within.schema schema given)

theorem RequestBody.RefersWithin.toJson {body : RequestBody}
    (within : body.RefersWithin known) : body.toJson.RefersWithin known := by
  refine Json.refersWithin_object.mpr (Dict.refersWithin_ofParts ?_)
  simp only [List.forall_mem_cons]
  refine ⟨?description, ?content, ?required, within.extra.withoutNulls, List.forall_mem_nil _⟩
  case description =>
    exact Dict.refersWithin_optionalText (by decide) _
  case content =>
    exact Dict.refersWithin_singleton (by decide) (Dict.refersWithin_nestedToJson within.content)
  case required =>
    exact Dict.refersWithin_optionalPart (by decide) fun value _ => Json.refersWithin_bool value

theorem Operation.RefersWithin.toJson {operation : Operation}
    (within : operation.RefersWithin known) : operation.toJson.RefersWithin known := by
  refine Json.refersWithin_object.mpr (Dict.refersWithin_ofParts ?_)
  simp only [List.forall_mem_cons]
  refine ⟨?description, ?parameters, ?requestBody, ?responses, within.extra.withoutNulls,
    List.forall_mem_nil _⟩
  case description =>
    exact Dict.refersWithin_optionalText (by decide) _
  case parameters =>
    refine Dict.refersWithin_singleton (by decide) (Json.refersWithin_array.mpr ?_)
    exact List.forall_mem_map.mpr fun parameter member =>
      (within.parameters parameter member).toJson
  case requestBody =>
    exact Dict.refersWithin_optionalPart (by decide) fun body given =>
      (within.requestBody body given).toJson
  case responses =>
    exact Dict.refersWithin_singleton (by decide) (Dict.refersWithin_nestedToJson within.responses)

theorem PathItem.RefersWithin.toJson {item : PathItem} (within : item.RefersWithin known) :
    item.toJson.RefersWithin known := by
  refine Json.refersWithin_object.mpr (Dict.refersWithin_ofParts ?_)
  simp only [List.forall_mem_cons]
  refine ⟨List.forall_mem_map.mpr ?operations, within.extra.withoutNulls, List.forall_mem_nil _⟩
  rintro ⟨method, operation⟩ member
  have found := (mem_operations_iff item method operation).mp member
  exact .object (within.operation? method operation found).toJson

/-- Components refer to known schemas if what their schemas refer to is known as well. -/
theorem Components.RefersWithin.toJson {components : Components}
    (within : components.RefersWithin known) (schemas : components.schemas.RefersWithin known) :
    components.toJson.RefersWithin known := by
  refine Json.refersWithin_object.mpr (Dict.refersWithin_ofParts ?_)
  simp only [List.forall_mem_cons]
  refine ⟨?schemas, ?securitySchemes, within.extra.withoutNulls, List.forall_mem_nil _⟩
  case schemas =>
    exact Dict.refersWithin_singleton (by decide) (Json.refersWithin_object.mpr schemas)
  case securitySchemes =>
    exact Dict.refersWithin_singleton (by decide)
      (Dict.refersWithin_nestedToJson within.securitySchemes)

theorem Document.refersWithin_requirementToJson (requirement : Dict (List Text)) :
    (requirementToJson requirement).RefersWithin known := by
  refine Json.refersWithin_object.mpr (List.forall_mem_map.mpr fun entry _ => ⟨nofun, ?_⟩)
  exact Json.refersWithin_array.mpr
    (List.forall_mem_map.mpr fun scope _ => Json.refersWithin_string scope)

/-- A document refers to known schemas if what its schemas refer to is known as well. -/
theorem Document.RefersWithin.toJson {document : Document} (within : document.RefersWithin known)
    (schemas : document.components.schemas.RefersWithin known) :
    document.toJson.RefersWithin known := by
  refine Json.refersWithin_object.mpr (Dict.refersWithin_ofParts ?_)
  simp only [List.forall_mem_cons]
  refine ⟨?openapi, ?info, ?servers, ?paths, ?components, ?security, within.extra.withoutNulls,
    List.forall_mem_nil _⟩
  case openapi =>
    exact Dict.refersWithin_singleton (by decide) (Json.refersWithin_string document.openapi)
  case info =>
    exact Dict.refersWithin_optionalPart (by decide) fun info given =>
      Json.refersWithin_object.mpr (within.info info given)
  case servers =>
    refine Dict.refersWithin_singleton (by decide) (Json.refersWithin_array.mpr ?_)
    exact List.forall_mem_map.mpr fun server member =>
      Json.refersWithin_object.mpr (within.servers server member)
  case paths =>
    refine Dict.refersWithin_singleton (by decide) (Json.refersWithin_object.mpr ?_)
    exact List.forall_mem_map.mpr fun entry member =>
      .object (within.paths entry member).toJson
  case components =>
    exact Dict.refersWithin_singleton (by decide) (within.components.toJson schemas)
  case security =>
    refine Dict.refersWithin_singleton (by decide) (Json.refersWithin_array.mpr ?_)
    exact List.forall_mem_map.mpr fun requirement _ => refersWithin_requirementToJson requirement

end Writing

end ApiDoc
