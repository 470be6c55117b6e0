/-
This file says what a value that has been read tells of the JSON that it was read from: which
reading gave each declared part, and that the items of a list and the entries of a dictionary were
read one by one, in their order.
-/
import ApiDoc.Document.Reading
import ApiDoc.Proofs.Attempts
import ApiDoc.Proofs.Dictionary

namespace ApiDoc

/-! ### Values that have been read -/

namespace Validated

variable {α β : Type}

theorem pure_eq_valid_iff {given value : α} :
    (pure given : Validated α) = .valid value ↔ given = value :=
  Validated.valid.injEq given value ▸ Iff.rfl

/-- Two sides give a value together exactly if each does. -/
theorem seq_eq_valid_iff {first : Validated (α → β)} {second : Validated α} {value : β} :
    first <*> second = .valid value ↔
      ∃ function argument, first = .valid function ∧ second = .valid argument ∧
        function argument = value := by
  show combine first second = _ ↔ _
  cases first <;> cases second <;> simp [combine]

theorem map_eq_valid_iff {function : α → β} {given : Validated α} {value : β} :
    function <$> given = .valid value ↔
      ∃ argument, given = .valid argument ∧ function argument = value := by
  show (pure function <*> given) = _ ↔ _
  rw [seq_eq_valid_iff]
  simp [pure_eq_valid_iff]

theorem within_eq_valid_iff {step : LocationStep} {given : Validated α} {value : α} :
    given.within step = .valid value ↔ given = .valid value := by
  cases given <;> simp [within]

end Validated

open Validated (map_eq_valid_iff pure_eq_valid_iff seq_eq_valid_iff within_eq_valid_iff)

/-! ### Kinds -/

namespace Lenient

variable {α : Type} {read : Json → Validated α} {json : Json}

theorem plainDictionary_eq_valid_iff {members : Dict Json} :
    plainDictionary json = .valid members ↔ json = .object members := by
  cases json <;> simp [plainDictionary, Validated.issue]

theorem model_object_eq_valid_iff {read : Dict Json → Validated α} {value : α}
    {members : Dict Json} :
    model read (.object members) = .valid value ↔
      members.hasEncodableKeys = true ∧ read members = .valid value := by
  cases encodable : members.hasEncodableKeys <;> simp [model, encodable, Validated.issue]

theorem model_eq_valid_iff {read : Dict Json → Validated α} {value : α} :
    model read json = .valid value ↔ ∃ members, json = .object members ∧
      Dict.hasEncodableKeys members = true ∧ read members = .valid value := by
  cases json with
  | object members => simp [model_object_eq_valid_iff]
  | null | bool | integer | double | string | array => simp [model, Validated.issue]

theorem optional_eq_some {value : α} (given : optional read json = .valid (some value)) :
    read json = .valid value := by
  unfold optional at given
  split at given
  · cases given
  · obtain ⟨_, reads, same⟩ := map_eq_valid_iff.mp given
    cases same
    exact reads

theorem forall₂_itemsFrom {position : Nat} {items : List Json} {values : List α}
    (given : itemsFrom read position items = .valid values) :
    List.Forall₂ (fun item value => read item = .valid value) items values := by
  induction items generalizing position values with
  | nil =>
    cases given
    exact .nil
  | cons item rest inductionHypothesis =>
    obtain ⟨_, others, first, later, rfl⟩ := seq_eq_valid_iff.mp given
    obtain ⟨value, reads, rfl⟩ := map_eq_valid_iff.mp first
    exact .cons (within_eq_valid_iff.mp reads) (inductionHypothesis later)

/-- The values of a list were read from its items, one by one. -/
theorem list_eq_valid {values : List α} (given : list read json = .valid values) :
    ∃ items, json = .array items ∧
      List.Forall₂ (fun item value => read item = .valid value) items values := by
  cases json with
  | array items => exact ⟨items, rfl, forall₂_itemsFrom given⟩
  | null | bool | integer | double | string | object => cases given

theorem forall₂_entries {members : List (Text × Json)} {dict : Dict α}
    (given : entries read members = .valid dict) :
    List.Forall₂ (fun member entry => member.1 = entry.1 ∧ read member.2 = .valid entry.2)
      members dict := by
  induction members generalizing dict with
  | nil =>
    cases given
    exact .nil
  | cons member rest inductionHypothesis =>
    obtain ⟨_, others, first, later, rfl⟩ := seq_eq_valid_iff.mp given
    obtain ⟨value, reads, rfl⟩ := map_eq_valid_iff.mp first
    exact .cons ⟨rfl, within_eq_valid_iff.mp reads⟩ (inductionHypothesis later)

/-- The entries of a dictionary were read from its members, each from the one under its key. -/
theorem dictionary_eq_valid {dict : Dict α} (given : dictionary read json = .valid dict) :
    ∃ members, json = .object members ∧
      List.Forall₂ (fun member entry => member.1 = entry.1 ∧ read member.2 = .valid entry.2)
        members dict := by
  cases json with
  | object members => exact ⟨members, rfl, forall₂_entries given⟩
  | null | bool | integer | double | string | array => cases given

end Lenient

/-! ### Fields -/

namespace Field

theorem nameIn_named (members : Dict Json) (key : Text) : (named key).nameIn members = key := by
  unfold nameIn
  split <;> rfl

theorem nameIn_ne {field : Field} {name : Text} (key : field.key ≠ name)
    (second : field.name ≠ name)
    (members : Dict Json) : field.nameIn members ≠ name := by
  unfold nameIn
  split
  · exact key
  · exact second

theorem mem_unknown_iff {members : Dict Json} {fields : List Field} {member : Text × Json} :
    member ∈ unknown members fields ↔
      member ∈ members ∧ ∀ field ∈ fields, field.nameIn members ≠ member.1 := by
  simp [unknown, Dict.without]

/-- What a field holds is its default, or it was read from a member under a name of the field. -/
theorem read_eq_valid {α : Type} {members : Dict Json} {field : Field} {kind : Json → Validated α}
    {default value : α} (given : field.read members kind default = .valid value) :
    value = default ∨
      ∃ json, (field.nameIn members, json) ∈ members ∧ kind json = .valid value := by
  unfold read at given
  split at given
  · cases given
    exact Or.inl rfl
  · rename_i json found
    exact Or.inr ⟨json, Dict.mem_of_get?_eq_some found, within_eq_valid_iff.mp given⟩

end Field

/-! ### Models

Each declared part of a model was read from the members by its own field and kind, and what no field
takes is kept. -/

variable {members : Dict Json}

namespace Parameter

/-- What the parts of a parameter were read from. -/
structure IsReadFrom (members : Dict Json) (parameter : Parameter) : Prop where
  name : nameField.read members (Lenient.optional Lenient.string) none = .valid parameter.name
  location :
    locationField.read members (Lenient.optional Lenient.string) none = .valid parameter.location
  description :
    descriptionField.read members (Lenient.optional Lenient.string) none =
      .valid parameter.description
  required :
    requiredField.read members (Lenient.optional Lenient.boolean) none = .valid parameter.required
  schema :
    schemaField.read members (Lenient.optional Lenient.plainDictionary) none =
      .valid parameter.schema
  extra : parameter.extra = Field.unknown members fields

theorem isReadFrom_ofMembers {parameter : Parameter}
    (given : ofMembers members = .valid parameter) : parameter.IsReadFrom members := by
  simp only [ofMembers, seq_eq_valid_iff, map_eq_valid_iff, pure_eq_valid_iff] at given
  obtain ⟨_, _, ⟨_, _, ⟨_, _, ⟨_, _, ⟨_, _, ⟨_, name, rfl⟩, location, rfl⟩, description, rfl⟩,
    required, rfl⟩, schema, rfl⟩, rfl, rfl⟩ := given
  exact ⟨name, location, description, required, schema, rfl⟩

end Parameter

namespace RequestBody

/-- What the parts of a body were read from. -/
structure IsReadFrom (members : Dict Json) (body : RequestBody) : Prop where
  description :
    descriptionField.read members (Lenient.optional Lenient.string) none = .valid body.description
  content :
    contentField.read members (Lenient.dictionary Lenient.plainDictionary) [] = .valid body.content
  required :
    requiredField.read members (Lenient.optional Lenient.boolean) none = .valid body.required
  extra : body.extra = Field.unknown members fields

theorem isReadFrom_ofMembers {body : RequestBody}
    (given : ofMembers members = .valid body) : body.IsReadFrom members := by
  simp only [ofMembers, seq_eq_valid_iff, map_eq_valid_iff, pure_eq_valid_iff] at given
  obtain ⟨_, _, ⟨_, _, ⟨_, _, ⟨_, description, rfl⟩, content, rfl⟩, required, rfl⟩,
    rfl, rfl⟩ := given
  exact ⟨description, content, required, rfl⟩

end RequestBody

namespace Operation

/-- What the parts of an operation were read from. -/
structure IsReadFrom (members : Dict Json) (operation : Operation) : Prop where
  description :
    descriptionField.read members (Lenient.optional Lenient.string) none =
      .valid operation.description
  parameters :
    parametersField.read members (Lenient.list (Lenient.model Parameter.ofMembers)) [] =
      .valid operation.parameters
  requestBody :
    requestBodyField.read members (Lenient.optional (Lenient.model RequestBody.ofMembers)) none =
      .valid operation.requestBody
  responses :
    responsesField.read members (Lenient.dictionary Lenient.plainDictionary) [] =
      .valid operation.responses
  extra : operation.extra = Field.unknown members fields

theorem isReadFrom_ofMembers {operation : Operation}
    (given : ofMembers members = .valid operation) : operation.IsReadFrom members := by
  simp only [ofMembers, seq_eq_valid_iff, map_eq_valid_iff, pure_eq_valid_iff] at given
  obtain ⟨_, _, ⟨_, _, ⟨_, _, ⟨_, _, ⟨_, description, rfl⟩, parameters, rfl⟩, requestBody, rfl⟩,
    responses, rfl⟩, rfl, rfl⟩ := given
  exact ⟨description, parameters, requestBody, responses, rfl⟩

end Operation

namespace PathItem

/-- What the parts of a path item were read from. -/
structure IsReadFrom (members : Dict Json) (item : PathItem) : Prop where
  operation? : ∀ method, operationOf members method = .valid (item.operation? method)
  extra : item.extra = Field.unknown members fields

theorem isReadFrom_ofMembers {item : PathItem}
    (given : ofMembers members = .valid item) : item.IsReadFrom members := by
  simp only [ofMembers, seq_eq_valid_iff, map_eq_valid_iff, pure_eq_valid_iff] at given
  obtain ⟨_, _, ⟨_, _, ⟨_, _, ⟨_, _, ⟨_, _, ⟨_, _, ⟨_, _, ⟨_, _, ⟨_, get, rfl⟩, put, rfl⟩,
    post, rfl⟩,
    delete, rfl⟩, options, rfl⟩, head, rfl⟩, patch, rfl⟩, trace, rfl⟩, rfl, rfl⟩ := given
  refine ⟨fun method => ?_, rfl⟩
  cases method with
  | get => exact get
  | put => exact put
  | post => exact post
  | delete => exact delete
  | options => exact options
  | head => exact head
  | patch => exact patch
  | trace => exact trace

end PathItem

namespace Components

/-- What the parts of components were read from. -/
structure IsReadFrom (members : Dict Json) (components : Components) : Prop where
  schemas :
    schemasField.read members (Lenient.dictionary readSchema) [] = .valid components.schemas
  securitySchemes :
    securitySchemesField.read members (Lenient.dictionary Lenient.plainDictionary) [] =
      .valid components.securitySchemes
  extra : components.extra = Field.unknown members fields

theorem isReadFrom_ofMembers {components : Components}
    (given : ofMembers members = .valid components) : components.IsReadFrom members := by
  simp only [ofMembers, seq_eq_valid_iff, map_eq_valid_iff, pure_eq_valid_iff] at given
  obtain ⟨_, _, ⟨_, _, ⟨_, schemas, rfl⟩, securitySchemes, rfl⟩, rfl, rfl⟩ := given
  exact ⟨schemas, securitySchemes, rfl⟩

end Components

namespace Document

/-- What the parts of a document were read from. -/
structure IsReadFrom (members : Dict Json) (document : Document) : Prop where
  openapi : openapiField.read members Lenient.string "3.0.1" = .valid document.openapi
  info :
    infoField.read members (Lenient.optional Lenient.plainDictionary) none = .valid document.info
  servers :
    serversField.read members (Lenient.list Lenient.plainDictionary) [] = .valid document.servers
  paths :
    pathsField.read members (Lenient.dictionary (Lenient.model PathItem.ofMembers)) [] =
      .valid document.paths
  components :
    componentsField.read members (Lenient.model Components.ofMembers) {} =
      .valid document.components
  security :
    securityField.read members (Lenient.list readRequirement) [] = .valid document.security
  extra : document.extra = Field.unknown members fields

theorem isReadFrom_ofMembers {document : Document}
    (given : ofMembers members = .valid document) : document.IsReadFrom members := by
  simp only [ofMembers, seq_eq_valid_iff, map_eq_valid_iff, pure_eq_valid_iff] at given
  obtain ⟨_, _, ⟨_, _, ⟨_, _, ⟨_, _, ⟨_, _, ⟨_, _, ⟨_, openapi, rfl⟩, info, rfl⟩, servers, rfl⟩,
    paths, rfl⟩, components, rfl⟩, security, rfl⟩, rfl, rfl⟩ := given
  exact ⟨openapi, info, servers, paths, components, security, rfl⟩

end Document

end ApiDoc
