/-
This file says what becomes of a document that is read and written again. In every model the
declared parts come first and every other member follows as it was given, unless it is null; a part
that was not given comes out as its default, and of the values that were given only flags may
change, which are written as booleans. Nothing else is lost, and no order is changed.
-/
import ApiDoc.Document.Writing
import ApiDoc.Proofs.Reading
import Mathlib.Data.List.Forall2

namespace ApiDoc

open Validated (map_eq_valid_iff)

/-! ### Parts of models -/

theorem Json.isNull_iff {value : Json} : value.isNull = true ↔ value = .null := by
  cases value <;> simp [Json.isNull]

/-- A declared part of a model: its field, what may become of a value that is given for it, and what
is written if none is given. -/
structure Part where
  field : Field
  Becomes : Json → Json → Prop
  default? : Option Json := none

namespace Part

/-- What is written of a part: its default if it is not given, nothing if it is null, and else one
member under the key of its field. -/
inductive Writes (members : Dict Json) (part : Part) : Dict Json → Prop where
  | missing (absent : part.field.find? members = none) :
    Writes members part (part.default?.toList.map (part.field.key, ·))
  | null (given : part.field.find? members = some .null) : Writes members part []
  | given {value output : Json} (found : part.field.find? members = some value)
      (proper : value ≠ .null) (becomes : part.Becomes value output) :
    Writes members part [(part.field.key, output)]

variable {members : Dict Json} {part : Part} {written : Dict Json}

theorem Writes.keys_sublist (writes : part.Writes members written) :
    written.keys.Sublist [part.field.key] := by
  cases writes with
  | missing => cases part.default? <;> simp
  | null => exact List.nil_sublist _
  | given => exact List.Sublist.refl _

/-- A value that is given and not null is written. -/
theorem Writes.exists_mem (writes : part.Writes members written) {value : Json}
    (found : part.field.find? members = some value) (proper : value ≠ .null) :
    ∃ output, (part.field.key, output) ∈ written ∧ part.Becomes value output := by
  cases writes with
  | missing absent => exact nomatch absent.symm.trans found
  | null given => exact absurd (Option.some_inj.mp (found.symm.trans given)) proper
  | given known _ becomes =>
    obtain rfl := Option.some_inj.mp (found.symm.trans known)
    exact ⟨_, List.mem_cons_self, becomes⟩

end Part

/-! ### Models -/

/-- What becomes of the members of a model with some declared parts. -/
structure Rewritten (parts : List Part) (members result : Dict Json) : Prop where
  /-- The declared parts come first, in their order; what no part takes follows as it was given, but
  for the members that are null. -/
  order : ∃ declared, List.Forall₂ (Part.Writes members) parts declared ∧
    result = declared.flatten ++ (Field.unknown members (parts.map Part.field)).withoutNulls
  /-- So every member that is not null is there: under the key of the part that takes it, or else as
  it was given. -/
  kept : members.keys.Nodup → ∀ key value, (key, value) ∈ members → value ≠ .null →
    (∃ part ∈ parts, part.field.nameIn members = key ∧
        ∃ output, (part.field.key, output) ∈ result ∧ part.Becomes value output) ∨
      (∀ part ∈ parts, part.field.nameIn members ≠ key) ∧ (key, value) ∈ result
  /-- No key is written twice. -/
  distinct : members.keys.Nodup → result.keys.Nodup

namespace Rewritten

variable {parts : List Part} {members : Dict Json} {declared : List (Dict Json)}

theorem keys_sublist_of_forall₂ (writes : List.Forall₂ (Part.Writes members) parts declared) :
    (Dict.keys declared.flatten).Sublist (parts.map fun part => part.field.key) := by
  induction writes with
  | nil => exact List.Sublist.refl _
  | cons first _ inductionHypothesis =>
    rw [List.flatten_cons, Dict.keys_append, List.map_cons, ← List.singleton_append]
    exact first.keys_sublist.append inductionHypothesis

theorem exists_written (writes : List.Forall₂ (Part.Writes members) parts declared) {part : Part}
    (member : part ∈ parts) : ∃ written ∈ declared, part.Writes members written :=
  exists_of_forall₂ writes.flip member

theorem mem_withoutNulls {entry : Text × Json} :
    entry ∈ members.withoutNulls ↔ entry ∈ members ∧ entry.2 ≠ .null := by
  rw [Dict.withoutNulls, List.mem_filter, Bool.not_eq_true', ← Bool.not_eq_true, Json.isNull_iff]

/-- A key of a declared part is not among the members that no part takes. -/
theorem not_mem_keys_unknown {field : Field} {fields : List Field} (declared : field ∈ fields) :
    field.key ∉ (Field.unknown members fields).keys := by
  intro known
  obtain ⟨⟨_, value⟩, member, rfl⟩ := List.mem_map.mp known
  obtain ⟨given, untaken⟩ := Field.mem_unknown_iff.mp member
  refine untaken field declared (if_pos ((Dict.hasKey_iff _ _).mpr ?_))
  exact List.mem_map_of_mem given

theorem of_forall₂ (keys : (parts.map fun part => part.field.key).Nodup)
    (writes : List.Forall₂ (Part.Writes members) parts declared) :
    Rewritten parts members
      (declared.flatten ++ (Field.unknown members (parts.map Part.field)).withoutNulls) where
  order := ⟨declared, writes, rfl⟩
  kept unique key value member proper := by
    by_cases taken : ∃ part ∈ parts, part.field.nameIn members = key
    · obtain ⟨part, among, rfl⟩ := taken
      refine Or.inl ⟨part, among, rfl, ?_⟩
      obtain ⟨written, listed, writesPart⟩ := exists_written writes among
      have found : part.field.find? members = some value := Dict.get?_of_mem unique member
      obtain ⟨output, stands, becomes⟩ := writesPart.exists_mem found proper
      exact ⟨output, List.mem_append_left _ (List.mem_flatten.mpr ⟨_, listed, stands⟩), becomes⟩
    · rw [not_exists] at taken
      have untaken : ∀ part ∈ parts, part.field.nameIn members ≠ key := fun part among same =>
        taken part ⟨among, same⟩
      refine Or.inr ⟨untaken, List.mem_append_right _ (mem_withoutNulls.mpr ⟨?_, proper⟩)⟩
      rw [Field.mem_unknown_iff]
      exact ⟨member, List.forall_mem_map.mpr untaken⟩
  distinct unique := by
    rw [Dict.keys_append, List.nodup_append]
    refine ⟨(keys_sublist_of_forall₂ writes).nodup keys, ?_, ?_⟩
    · exact (unique.sublist (List.filter_sublist.map _)).sublist (List.filter_sublist.map _)
    · rintro _ first key second rfl
      have among := (keys_sublist_of_forall₂ writes).subset first
      obtain ⟨part, member, rfl⟩ := List.mem_map.mp among
      have declares : part.field ∈ parts.map Part.field := List.mem_map_of_mem member
      exact not_mem_keys_unknown declares ((List.filter_sublist.map _).subset second)

/-- It is enough to know what is written of each part, and that the rest is what no part takes. -/
theorem of_parts (keys : (parts.map fun part => part.field.key).Nodup)
    (writes : List.Forall₂ (Part.Writes members) parts declared) {extra : Dict Json}
    (rest : extra = Field.unknown members (parts.map Part.field)) :
    Rewritten parts members (Dict.ofParts (declared ++ [extra.withoutNulls])) := by
  rw [Dict.ofParts, List.flatten_concat, rest]
  exact of_forall₂ keys writes

end Rewritten

/-! ### What becomes of values -/

namespace Json

/-- A flag is written as the boolean that it stands for. -/
def BecomesFlag (value output : Json) : Prop :=
  ∃ flag, Lenient.boolean value = .valid flag ∧ output = .bool flag

/-- An object is written as the object that becomes of its members. -/
def BecomesModel (parts : List Part) (value output : Json) : Prop :=
  ∃ members result, value = .object members ∧ output = .object result ∧
    Rewritten parts members result

/-- The items of an array are written one by one, in their order. -/
def BecomesArray (becomes : Json → Json → Prop) (value output : Json) : Prop :=
  ∃ items outputs, value = .array items ∧ output = .array outputs ∧
    List.Forall₂ becomes items outputs

/-- The members of a dictionary are written one by one, in their order and under their keys. -/
def BecomesDictionary (becomes : Json → Json → Prop) (value output : Json) : Prop :=
  ∃ members outputs, value = .object members ∧ output = .object outputs ∧
    List.Forall₂ (fun member written => member.1 = written.1 ∧ becomes member.2 written.2)
      members outputs

end Json

open Json (BecomesArray BecomesDictionary BecomesFlag BecomesModel)

/-- What is read by a kind and written again becomes what it may become. -/
def Reproduces {α : Type} (kind : Json → Validated α) (write : α → Json)
    (becomes : Json → Json → Prop) : Prop :=
  ∀ json value, kind json = .valid value → becomes json (write value)

namespace Reproduces

variable {α : Type} {kind : Json → Validated α} {write : α → Json} {becomes : Json → Json → Prop}

theorem string : Reproduces Lenient.string .string Eq := by
  intro json value reads
  cases json <;> cases reads
  rfl

theorem flag : Reproduces Lenient.boolean .bool BecomesFlag := fun _ value reads =>
  ⟨value, reads, rfl⟩

theorem plainDictionary : Reproduces Lenient.plainDictionary .object Eq := fun _ _ reads =>
  Lenient.plainDictionary_eq_valid_iff.mp reads

theorem list (each : Reproduces kind write becomes) :
    Reproduces (Lenient.list kind) (fun values => .array (values.map write))
      (BecomesArray becomes) := by
  intro json values reads
  obtain ⟨items, rfl, origins⟩ := Lenient.list_eq_valid reads
  refine ⟨items, values.map write, rfl, rfl, ?_⟩
  rw [List.forall₂_map_right_iff]
  exact origins.imp fun item value => each item value

theorem dictionary (each : Reproduces kind write becomes) :
    Reproduces (Lenient.dictionary kind) (fun dict => .object (dict.mapEntries fun _ => write))
      (BecomesDictionary becomes) := by
  intro json dict reads
  obtain ⟨members, rfl, origins⟩ := Lenient.dictionary_eq_valid reads
  refine ⟨members, dict.mapEntries fun _ => write, rfl, rfl, ?_⟩
  rw [Dict.mapEntries, List.forall₂_map_right_iff]
  exact origins.imp fun member entry reads => ⟨reads.1, each member.2 entry.2 reads.2⟩

/-- A list whose items come out as they were given comes out as it was given. -/
theorem list_eq (each : Reproduces kind write Eq) :
    Reproduces (Lenient.list kind) (fun values => .array (values.map write)) Eq := by
  intro json values reads
  obtain ⟨items, outputs, rfl, same, related⟩ := each.list json values reads
  rw [List.forall₂_eq_eq_eq] at related
  rw [same, related]

/-- So does a dictionary. -/
theorem dictionary_eq (each : Reproduces kind write Eq) :
    Reproduces (Lenient.dictionary kind) (fun dict => .object (dict.mapEntries fun _ => write))
      Eq := by
  intro json dict reads
  obtain ⟨members, outputs, rfl, same, related⟩ := each.dictionary json dict reads
  have equal : List.Forall₂ Eq members outputs := related.imp fun _ _ both => Prod.ext both.1 both.2
  rw [List.forall₂_eq_eq_eq] at equal
  rw [same, equal]

theorem model {read : Dict Json → Validated α} {parts : List Part}
    (rewritten : ∀ members value, read members = .valid value →
      ∃ result, write value = .object result ∧ Rewritten parts members result) :
    Reproduces (Lenient.model read) write (BecomesModel parts) := by
  intro json value reads
  obtain ⟨members, rfl, -, readsMembers⟩ := Lenient.model_eq_valid_iff.mp reads
  obtain ⟨result, writes, same⟩ := rewritten members value readsMembers
  exact ⟨members, result, rfl, writes, same⟩

/-! What is written of a part that was read. -/

variable {members : Dict Json} {field : Field}

/-- A part that may be null is written unless it is. -/
theorem writes_optional (reproduces : Reproduces kind write becomes) {value? : Option α}
    (reads : field.read members (Lenient.optional kind) none = .valid value?) :
    Part.Writes members ⟨field, becomes, none⟩ (Dict.optionalPart field.key write value?) := by
  unfold Field.read at reads
  split at reads
  · rename_i absent
    cases reads
    exact .missing absent
  · rename_i json found
    rw [Validated.within_eq_valid_iff] at reads
    unfold Lenient.optional at reads
    split at reads
    · cases reads
      exact .null found
    · rename_i proper
      obtain ⟨value, readsValue, rfl⟩ := map_eq_valid_iff.mp reads
      exact .given found proper (reproduces json value readsValue)

/-- A part that cannot be null is written in any case. -/
theorem writes (reproduces : Reproduces kind write becomes)
    (notNull : ∀ value, kind .null ≠ .valid value) {default value : α}
    (reads : field.read members kind default = .valid value) :
    Part.Writes members ⟨field, becomes, some (write default)⟩ [(field.key, write value)] := by
  unfold Field.read at reads
  split at reads
  · rename_i absent
    cases reads
    exact .missing absent
  · rename_i json found
    rw [Validated.within_eq_valid_iff] at reads
    refine .given found ?_ (reproduces json value reads)
    rintro rfl
    exact notNull value reads

end Reproduces

/-! ### The models of documents -/

namespace Parameter

/-- The declared parts. -/
def parts : List Part :=
  [⟨nameField, Eq, none⟩, ⟨locationField, Eq, none⟩, ⟨descriptionField, Eq, none⟩,
    ⟨requiredField, BecomesFlag, none⟩, ⟨schemaField, Eq, none⟩]

theorem reproduces :
    Reproduces (Lenient.model ofMembers) Parameter.toJson (BecomesModel parts) := by
  refine .model fun members parameter reads => ⟨_, rfl, ?_⟩
  have read := isReadFrom_ofMembers reads
  have writes : List.Forall₂ (Part.Writes members) parts _ :=
    .cons (Reproduces.string.writes_optional read.name) <|
    .cons (Reproduces.string.writes_optional read.location) <|
    .cons (Reproduces.string.writes_optional read.description) <|
    .cons (Reproduces.flag.writes_optional read.required) <|
    .cons (Reproduces.plainDictionary.writes_optional read.schema) .nil
  exact Rewritten.of_parts (by decide) writes read.extra

end Parameter

namespace RequestBody

/-- The declared parts. -/
def parts : List Part :=
  [⟨descriptionField, Eq, none⟩, ⟨contentField, Eq, some (.object [])⟩,
    ⟨requiredField, BecomesFlag, none⟩]

theorem reproduces :
    Reproduces (Lenient.model ofMembers) RequestBody.toJson (BecomesModel parts) := by
  refine .model fun members body reads => ⟨_, rfl, ?_⟩
  have read := isReadFrom_ofMembers reads
  have writes : List.Forall₂ (Part.Writes members) parts _ :=
    .cons (Reproduces.string.writes_optional read.description) <|
    .cons (Reproduces.plainDictionary.dictionary_eq.writes nofun read.content) <|
    .cons (Reproduces.flag.writes_optional read.required) .nil
  exact Rewritten.of_parts (by decide) writes read.extra

end RequestBody

namespace Operation

/-- The declared parts. -/
def parts : List Part :=
  [⟨descriptionField, Eq, none⟩,
    ⟨parametersField, BecomesArray (BecomesModel Parameter.parts), some (.array [])⟩,
    ⟨requestBodyField, BecomesModel RequestBody.parts, none⟩,
    ⟨responsesField, Eq, some (.object [])⟩]

theorem reproduces :
    Reproduces (Lenient.model ofMembers) Operation.toJson (BecomesModel parts) := by
  refine .model fun members operation reads => ⟨_, rfl, ?_⟩
  have read := isReadFrom_ofMembers reads
  have writes : List.Forall₂ (Part.Writes members) parts _ :=
    .cons (Reproduces.string.writes_optional read.description) <|
    .cons (Parameter.reproduces.list.writes nofun read.parameters) <|
    .cons (RequestBody.reproduces.writes_optional read.requestBody) <|
    .cons (Reproduces.plainDictionary.dictionary_eq.writes nofun read.responses) .nil
  exact Rewritten.of_parts (by decide) writes read.extra

end Operation

namespace PathItem

/-- The declared parts: an operation for every method. -/
def parts : List Part :=
  Method.all.map fun method => ⟨methodField method, BecomesModel Operation.parts, none⟩

theorem operations_toJson (item : PathItem) :
    item.operations.map (fun (method, operation) => (method.key, operation.toJson)) =
      (Method.all.map fun method =>
        Dict.optionalPart method.key Operation.toJson (item.operation? method)).flatten := by
  unfold operations
  induction Method.all with
  | nil => rfl
  | cons method rest inductionHypothesis =>
    rw [List.map_cons, List.flatten_cons, ← inductionHypothesis, List.filterMap_cons]
    cases item.operation? method <;> rfl

theorem reproduces :
    Reproduces (Lenient.model ofMembers) PathItem.toJson (BecomesModel parts) := by
  refine .model fun members item reads => ⟨_, rfl, ?_⟩
  have read := isReadFrom_ofMembers reads
  have writes : List.Forall₂ (Part.Writes members) parts (Method.all.map fun method =>
      Dict.optionalPart method.key Operation.toJson (item.operation? method)) := by
    rw [parts, List.forall₂_map_left_iff, List.forall₂_map_right_iff, List.forall₂_same]
    exact fun method _ => Operation.reproduces.writes_optional (read.operation? method)
  have rewritten := Rewritten.of_parts (by decide) writes read.extra
  rw [Dict.ofParts, List.flatten_concat, ← operations_toJson] at rewritten
  simpa [Dict.ofParts] using rewritten

end PathItem

namespace Components

/-- The declared parts. -/
def parts : List Part :=
  [⟨schemasField, Eq, some (.object [])⟩, ⟨securitySchemesField, Eq, some (.object [])⟩]

theorem reproduces_schemas : Reproduces (Lenient.dictionary readSchema) .object Eq := by
  have reproducesEach : Reproduces readSchema id Eq := by
    intro json value reads
    obtain ⟨members, readsMembers, rfl⟩ := map_eq_valid_iff.mp reads
    exact Reproduces.plainDictionary json members readsMembers
  intro json dict reads
  rw [reproducesEach.dictionary_eq json dict reads]
  exact congrArg Json.object (List.map_id dict)

theorem reproduces :
    Reproduces (Lenient.model ofMembers) Components.toJson (BecomesModel parts) := by
  refine .model fun members components reads => ⟨_, rfl, ?_⟩
  have read := isReadFrom_ofMembers reads
  have writes : List.Forall₂ (Part.Writes members) parts _ :=
    .cons (reproduces_schemas.writes nofun read.schemas) <|
    .cons (Reproduces.plainDictionary.dictionary_eq.writes nofun read.securitySchemes) .nil
  exact Rewritten.of_parts (by decide) writes read.extra

end Components

namespace Document

/-- The declared parts. -/
def parts : List Part :=
  [⟨openapiField, Eq, some (.string "3.0.1")⟩, ⟨infoField, Eq, none⟩,
    ⟨serversField, Eq, some (.array [])⟩,
    ⟨pathsField, BecomesDictionary (BecomesModel PathItem.parts), some (.object [])⟩,
    ⟨componentsField, BecomesModel Components.parts,
      some (.object [("schemas", .object []), ("securitySchemes", .object [])])⟩,
    ⟨securityField, Eq, some (.array [])⟩]

theorem reproduces_readRequirement : Reproduces readRequirement requirementToJson Eq :=
  Reproduces.string.list_eq.dictionary_eq

theorem reproduces :
    Reproduces (Lenient.model ofMembers) Document.toJson (BecomesModel parts) := by
  refine .model fun members document reads => ⟨_, rfl, ?_⟩
  have read := isReadFrom_ofMembers reads
  have writes : List.Forall₂ (Part.Writes members) parts _ :=
    .cons (Reproduces.string.writes nofun read.openapi) <|
    .cons (Reproduces.plainDictionary.writes_optional read.info) <|
    .cons (Reproduces.plainDictionary.list_eq.writes nofun read.servers) <|
    .cons (PathItem.reproduces.dictionary.writes nofun read.paths) <|
    .cons (Components.reproduces.writes nofun read.components) <|
    .cons (reproduces_readRequirement.list_eq.writes nofun read.security) .nil
  exact Rewritten.of_parts (by decide) writes read.extra

/-- A document that was read is written with everything that was given for it. -/
theorem toJson_rewritten {given : Json} {document : Document}
    (reads : ofJson given = .valid document) : BecomesModel parts given document.toJson :=
  reproduces given document reads

/-- A document that gives parts in another order, under their other names, as null and as a word,
and keeps nulls where only members of its own see them. -/
def disordered : Json :=
  .object
    [("x-first", .object [("kept", .null)]), ("x-null", .null),
      ("paths", .object
        [("/room", .object
          [("summary", .string "Rooms"), ("get", .null),
            ("post", .object
              [("tags", .array [.null]),
                ("parameters", .array
                  [.object
                    [("required", .string "Yes"), ("location", .string "query"),
                      ("schema_", .object [("default", .null)]), ("name", .string "id")],
                  .object
                    [("location", .string "header"), ("in", .string "path")]]),
                ("request_body", .object [("required", .integer 0)])])])]),
      ("info", .null)]

theorem toJson_rewritten_disordered : ∃ document, ofJson disordered = .valid document ∧
    document.toJson = .object
      [("openapi", .string "3.0.1"), ("servers", .array []),
        ("paths", .object
          [("/room", .object
            [("post", .object
              [("parameters", .array
                  [.object
                    [("name", .string "id"), ("in", .string "query"), ("required", .bool true),
                      ("schema", .object [("default", .null)])],
                  .object [("in", .string "path"), ("location", .string "header")]]),
                ("requestBody", .object [("content", .object []), ("required", .bool false)]),
                ("responses", .object []), ("tags", .array [.null])]),
              ("summary", .string "Rooms")])]),
        ("components", .object [("schemas", .object []), ("securitySchemes", .object [])]),
        ("security", .array []), ("x-first", .object [("kept", .null)])] ∧
    BecomesModel parts disordered document.toJson :=
  ⟨_, rfl, rfl, toJson_rewritten rfl⟩

end Document

end ApiDoc
