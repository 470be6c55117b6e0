/-
This file says which members the schemas of columns and tables have. What a schema may say are its
fields, each under a key of its own; the fields that have a value are its members, in that order. So
members have distinct keys, what is found under a key is the value of that field, and null is no member
at any depth unless a listed value brings it along.
-/
import ApiDoc.Enumeration.Apply
import ApiDoc.Proofs.Dictionary
import ApiDoc.Table.Basic

namespace ApiDoc

open List (Sublist)

/-! ### Fields -/

namespace Dict

variable {α β : Type}

theorem keys_optionalPart (key : Text) (write : α → β) (value? : Option α) :
    Sublist (optionalPart key write value?).keys [key] := by
  cases value? with
  | none => exact List.nil_sublist _
  | some value => exact .refl _

theorem get?_optionalPart (key : Text) (write : α → β) (value? : Option α) (wanted : Text) :
    (optionalPart key write value?).get? wanted =
      if key = wanted then value?.map write else none := by
  cases value? with
  | none => exact (ite_self none).symm
  | some value => rfl

theorem optionalPart_map (key : Text) (write : α → β) (value? : Option α) :
    optionalPart key id (value?.map write) = optionalPart key write value? := by
  cases value? <;> rfl

/-- The entries of the fields that have a value. -/
def present (fields : Dict (Option α)) : Dict α :=
  fields.filterMap fun field => field.2.map (field.1, ·)

theorem present_cons (key : Text) (value? : Option α) (rest : Dict (Option α)) :
    present ((key, value?) :: rest) = optionalPart key id value? ++ present rest := by
  cases value? <;> rfl

theorem mem_present_iff {fields : Dict (Option α)} {entry : Text × α} :
    entry ∈ fields.present ↔ (entry.1, some entry.2) ∈ fields := by
  unfold present
  rw [List.mem_filterMap]
  constructor
  · rintro ⟨⟨key, value?⟩, member, shown⟩
    obtain ⟨value, rfl, rfl⟩ := Option.map_eq_some_iff.mp shown
    exact member
  · exact fun member => ⟨_, member, rfl⟩

theorem keys_present_sublist (fields : Dict (Option α)) :
    Sublist fields.present.keys fields.keys := by
  induction fields with
  | nil => exact .refl _
  | cons field rest inductionHypothesis =>
    rw [present_cons, keys_append]
    exact (keys_optionalPart _ _ _).append inductionHypothesis

/-- Where keys are distinct, what is found under a key is the value of its field. -/
theorem get?_present {fields : Dict (Option α)} (distinct : fields.keys.Nodup) (key : Text) :
    fields.present.get? key = (fields.get? key).join := by
  induction fields with
  | nil => rfl
  | cons field rest inductionHypothesis =>
    obtain ⟨first, value?⟩ := field
    rw [keys_cons, List.nodup_cons] at distinct
    rw [present_cons, get?_append, get?_optionalPart, get?, inductionHypothesis distinct.2]
    split
    · rename_i same
      rw [← same, (get?_eq_none_iff rest first).mpr distinct.1, Option.map_id]
      exact Option.or_none
    · exact Option.none_or

end Dict

namespace Property

/-- What the schema of a column may say. -/
def fields (property : Property) : Dict (Option Json) :=
  [("type", property.type.map .string), ("format", property.format.map .string),
    ("description", property.description.map .string),
    ("maxLength", property.maxLength.map .integer),
    ("nullable", if property.nullable then some (.bool true) else none),
    ("enum", if property.enum.isEmpty then none else some (.array property.enum)),
    ("oneOf", property.oneOf.map fun choices => .array (choices.map .object))]

theorem nodup_keys_fields (property : Property) : property.fields.keys.Nodup := by
  have distinct : List.Nodup
      (["type", "format", "description", "maxLength", "nullable", "enum", "oneOf"] : List Text) := by
    decide
  exact distinct

theorem toMembers_eq_present (property : Property) :
    property.toMembers = property.fields.present := by
  unfold fields
  simp only [Dict.present_cons, Dict.optionalPart_map, apply_ite (Dict.optionalPart _ id)]
  rfl

/-- Every part of a property has a key of its own. -/
theorem nodup_keys_toMembers (property : Property) : property.toMembers.keys.Nodup := by
  rw [toMembers_eq_present]
  exact property.nodup_keys_fields.sublist (Dict.keys_present_sublist _)

theorem get?_toMembers (property : Property) (key : Text) :
    property.toMembers.get? key = (property.fields.get? key).join := by
  rw [toMembers_eq_present, Dict.get?_present property.nodup_keys_fields]

theorem hasKey_toMembers (property : Property) (key : Text) :
    property.toMembers.hasKey key = (property.fields.get? key).join.isSome := by
  rw [Dict.hasKey_eq_isSome, get?_toMembers]

end Property

namespace Table

/-- What the schema of a table may say. -/
def fields (table : Table) : Dict (Option Json) :=
  [("type", some (.string "object")),
    ("required",
      if table.required.isEmpty then none else some (.array (table.required.map .string))),
    ("properties", some (.object (table.properties.mapEntries fun _ property => property.toJson)))]

theorem nodup_keys_fields (table : Table) : table.fields.keys.Nodup := by
  have distinct : List.Nodup (["type", "required", "properties"] : List Text) := by decide
  exact distinct

theorem toMembers_eq_present (table : Table) : table.toMembers = table.fields.present := by
  unfold fields
  simp only [Dict.present_cons, apply_ite (Dict.optionalPart _ id)]
  rfl

/-- Every part of a table has a key of its own. -/
theorem nodup_keys_toMembers (table : Table) : table.toMembers.keys.Nodup := by
  rw [toMembers_eq_present]
  exact table.nodup_keys_fields.sublist (Dict.keys_present_sublist _)

theorem get?_toMembers (table : Table) (key : Text) :
    table.toMembers.get? key = (table.fields.get? key).join := by
  rw [toMembers_eq_present, Dict.get?_present table.nodup_keys_fields]

end Table

/-! ### Null as a member -/

namespace Json

/-- Somewhere in the value null is a member of an object. -/
inductive HasNullMember : Json → Prop where
  | here {members : Dict Json} {key : Text} (member : (key, .null) ∈ members) :
    HasNullMember (.object members)
  | inMember {members : Dict Json} {entry : Text × Json} (member : entry ∈ members)
    (within : HasNullMember entry.2) : HasNullMember (.object members)
  | inItem {items : List Json} {item : Json} (member : item ∈ items)
    (within : HasNullMember item) : HasNullMember (.array items)

/-- The value may be a member: it is not null, and none of its members is. -/
def IsSolid (value : Json) : Prop := value ≠ null ∧ ¬ value.HasNullMember

theorem isSolid_string (text : Text) : IsSolid (.string text) := ⟨nofun, nofun⟩

theorem isSolid_integer (value : Int) : IsSolid (.integer value) := ⟨nofun, nofun⟩

theorem isSolid_bool (value : Bool) : IsSolid (.bool value) := ⟨nofun, nofun⟩

theorem isSolid_array {items : List Json} (solid : ∀ item ∈ items, ¬ item.HasNullMember) :
    IsSolid (.array items) := by
  refine ⟨nofun, fun has => ?_⟩
  cases has with
  | inItem member within => exact solid _ member within

theorem isSolid_object {members : Dict Json} (solid : ∀ entry ∈ members, IsSolid entry.2) :
    IsSolid (.object members) := by
  refine ⟨nofun, fun has => ?_⟩
  cases has with
  | here member => exact (solid _ member).1 rfl
  | inMember member within => exact (solid _ member).2 within

theorem isSolid_of_mem_map {α : Type} {write : α → Json} {value? : Option α}
    (solid : ∀ value ∈ value?, IsSolid (write value)) : ∀ value ∈ value?.map write, IsSolid value := by
  intro value member
  obtain ⟨source, among, rfl⟩ := Option.map_eq_some_iff.mp member
  exact solid source among

theorem isSolid_of_mem_ite {condition : Prop} [Decidable condition] {written : Json}
    (solid : IsSolid written) :
    (∀ value ∈ if condition then some written else none, IsSolid value) ∧
      ∀ value ∈ if condition then none else some written, IsSolid value := by
  split
  · exact ⟨fun value member => Option.mem_some_iff.mp member ▸ solid, nofun⟩
  · exact ⟨nofun, fun value member => Option.mem_some_iff.mp member ▸ solid⟩

theorem isSolid_present {fields : Dict (Option Json)}
    (solid : ∀ field ∈ fields, ∀ value ∈ field.2, IsSolid value) :
    IsSolid (.object fields.present) :=
  isSolid_object fun _ member => solid _ (Dict.mem_present_iff.mp member) _ rfl

end Json

open Json

/-- A property has no null member if no value that it lists has one. -/
theorem Property.isSolid_toJson {property : Property}
    (listed : ∀ entry ∈ property.enum, ¬ entry.HasNullMember)
    (chooses : ∀ choices ∈ property.oneOf, choices = identifierOrLabel) :
    property.toJson.IsSolid := by
  have oneOf : ∀ choices ∈ property.oneOf, IsSolid (.array (choices.map .object)) := by
    intro choices member
    rw [chooses choices member]
    have choice (type : Text) : IsSolid (.object [("type", .string type)]) :=
      isSolid_object fun _ only => List.mem_singleton.mp only ▸ isSolid_string type
    refine isSolid_array (List.forall_mem_map.mpr fun members among => ?_)
    rcases List.mem_cons.mp among with rfl | other
    · exact (choice "integer").2
    · obtain rfl := List.mem_singleton.mp other
      exact (choice "string").2
  unfold toJson
  rw [toMembers_eq_present]
  refine isSolid_present ?_
  simp only [fields, List.forall_mem_cons]
  exact ⟨isSolid_of_mem_map fun _ _ => isSolid_string _,
    isSolid_of_mem_map fun _ _ => isSolid_string _, isSolid_of_mem_map fun _ _ => isSolid_string _,
    isSolid_of_mem_map fun _ _ => isSolid_integer _, (isSolid_of_mem_ite (isSolid_bool true)).1,
    (isSolid_of_mem_ite (isSolid_array listed)).2, isSolid_of_mem_map oneOf, List.forall_mem_nil _⟩

/-- A table has no null member if none of its properties has one. -/
theorem Table.isSolid_toJson {table : Table}
    (solid : ∀ entry ∈ table.properties, entry.2.toJson.IsSolid) : table.toJson.IsSolid := by
  have properties :
      IsSolid (.object (table.properties.mapEntries fun _ property => property.toJson)) := by
    refine isSolid_object fun entry member => ?_
    obtain ⟨source, among, rfl⟩ := List.mem_map.mp member
    exact solid source among
  have required : IsSolid (.array (table.required.map .string)) :=
    isSolid_array (List.forall_mem_map.mpr fun name _ => (isSolid_string name).2)
  unfold toJson
  rw [toMembers_eq_present]
  refine isSolid_present ?_
  simp only [fields, List.forall_mem_cons]
  exact ⟨fun _ member => Option.mem_some_iff.mp member ▸ isSolid_string _,
    (isSolid_of_mem_ite required).2, fun _ member => Option.mem_some_iff.mp member ▸ properties,
    List.forall_mem_nil _⟩

end ApiDoc
