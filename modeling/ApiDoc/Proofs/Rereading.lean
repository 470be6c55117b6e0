/-
This file says when a document that was read and written can be read again, and is then written as
before. A field that has two names and is not written takes a further member that stands under its
other name, so what was no part of the document becomes one. Nothing else stands in the way: a
document without such a member is written as before, all its models included.
-/
import ApiDoc.Proofs.Rewriting

namespace ApiDoc

open Validated (map_eq_valid_iff pure_eq_valid_iff seq_eq_valid_iff within_eq_valid_iff)

/-! ### Models as they are written -/

theorem Dict.optionalPart_eq {α β : Type} (key : Text) (write : α → β) (value? : Option α) :
    Dict.optionalPart key write value? = Dict.optionalPart key id (value?.map write) := by
  cases value? <;> rfl

theorem Dict.withoutNulls_withoutNulls (members : Dict Json) :
    members.withoutNulls.withoutNulls = members.withoutNulls := by
  simp [Dict.withoutNulls]

/-- No two fields share a key, and no field is named after the key of another. -/
def Field.AreApart (fields : List Field) : Prop :=
  (fields.map Field.key).Nodup ∧
    ∀ first ∈ fields, ∀ second ∈ fields, first.name = second.key → first = second

instance (fields : List Field) : Decidable (Field.AreApart fields) :=
  inferInstanceAs (Decidable (_ ∧ _))

/-- A model as it is written: what stands for each declared field, if anything does, and the further
members. -/
structure Layout where
  values : List (Field × Option Json)
  others : Dict Json

namespace Layout

/-- The members that are written. -/
def members (layout : Layout) : Dict Json :=
  Dict.ofParts
    ((layout.values.map fun (field, value?) => Dict.optionalPart field.key id value?) ++
      [layout.others])

/-- A layout of some fields whose further members are not null and take the key of no field. -/
structure Fits (fields : List Field) (layout : Layout) : Prop where
  fields_eq : layout.values.map Prod.fst = fields
  apart : Field.AreApart fields
  free : ∀ field ∈ fields, field.key ∉ layout.others.keys
  proper : ∀ member ∈ layout.others, member.2 ≠ .null

variable {fields : List Field} {layout : Layout} {field : Field} {value? : Option Json}

/-- What is written of a model that was read fits its fields. -/
theorem Fits.of_read {members : Dict Json} {values : List (Field × Option Json)} {extra : Dict Json}
    (fields_eq : values.map Prod.fst = fields) (apart : Field.AreApart fields)
    (rest : extra = Field.unknown members fields) : Fits fields ⟨values, extra.withoutNulls⟩ where
  fields_eq := fields_eq
  apart := apart
  free field declared known := by
    rw [rest] at known
    exact Rewritten.not_mem_keys_unknown declared ((List.filter_sublist.map _).subset known)
  proper _ member := (Rewritten.mem_withoutNulls.mp member).2

theorem members_nil (others : Dict Json) : members ⟨[], others⟩ = others := by
  simp [members, Dict.ofParts]

theorem members_cons (entry : Field × Option Json) (values : List (Field × Option Json))
    (others : Dict Json) :
    members ⟨entry :: values, others⟩ =
      Dict.optionalPart entry.1.key id entry.2 ++ members ⟨values, others⟩ := rfl

/-- Under a key of no field stand the further members. -/
theorem get?_members_of_ne {name : Text} (other : ∀ entry ∈ layout.values, entry.1.key ≠ name) :
    layout.members.get? name = layout.others.get? name := by
  obtain ⟨values, others⟩ := layout
  induction values with
  | nil => rw [members_nil]
  | cons entry rest inductionHypothesis =>
    obtain ⟨first, later⟩ := List.forall_mem_cons.mp other
    rw [members_cons, Dict.get?_append, inductionHypothesis later]
    obtain ⟨field, _ | value⟩ := entry
    · rfl
    · simp [Dict.optionalPart, Dict.get?, first]

/-- Under the key of a field stands its value. -/
theorem get?_members_of_mem {values : List (Field × Option Json)} {others : Dict Json}
    (keys : (values.map fun entry => entry.1.key).Nodup) (free : others.get? field.key = none)
    (member : (field, value?) ∈ values) :
    (members ⟨values, others⟩).get? field.key = value? := by
  induction values with
  | nil => cases member
  | cons entry rest inductionHypothesis =>
    rw [List.map_cons, List.nodup_cons] at keys
    rw [members_cons, Dict.get?_append]
    rcases List.mem_cons.mp member with rfl | later
    · have beyond : (members ⟨rest, others⟩).get? field.key = none :=
        (get?_members_of_ne fun entry among same =>
          keys.1 (List.mem_map.mpr ⟨entry, among, same⟩)).trans free
      rw [beyond]
      cases value? <;> simp [Dict.optionalPart, Dict.get?]
    · have aside : entry.1.key ≠ field.key := fun same =>
        keys.1 (same ▸ List.mem_map.mpr ⟨(field, value?), later, rfl⟩)
      rw [inductionHypothesis keys.2 later]
      obtain ⟨first, _ | value⟩ := entry
      · rfl
      · simp [Dict.optionalPart, Dict.get?, aside]

theorem Fits.mem_fields (fits : Fits fields layout) (member : (field, value?) ∈ layout.values) :
    field ∈ fields :=
  fits.fields_eq ▸ List.mem_map.mpr ⟨(field, value?), member, rfl⟩

theorem Fits.get?_members (fits : Fits fields layout) (member : (field, value?) ∈ layout.values) :
    layout.members.get? field.key = value? := by
  have keys := fits.apart.1
  rw [← fits.fields_eq, List.map_map] at keys
  have free := fits.free field (fits.mem_fields member)
  exact get?_members_of_mem keys ((Dict.get?_eq_none_iff _ _).mpr free) member

theorem Fits.hasKey_members (fits : Fits fields layout)
    (member : (field, value?) ∈ layout.values) :
    layout.members.hasKey field.key = value?.isSome := by
  rw [Bool.eq_iff_iff, Dict.hasKey_iff, Option.isSome_iff_ne_none, ← fits.get?_members member,
    ne_eq, Dict.get?_eq_none_iff, not_not]

/-- A field that is not written is sought under its other name. -/
theorem Fits.find?_members (fits : Fits fields layout) (member : (field, value?) ∈ layout.values) :
    field.find? layout.members = value?.or (layout.others.get? field.name) := by
  have known := fits.hasKey_members member
  have found := fits.get?_members member
  have declared := fits.mem_fields member
  cases value? with
  | some value => rw [Field.find?, Field.nameIn, if_pos (by rw [known]; rfl), found, Option.some_or]
  | none =>
    rw [Field.find?, Field.nameIn, if_neg (by rw [known]; nofun), Option.none_or]
    by_cases single : field.name = field.key
    · rw [single, found, (Dict.get?_eq_none_iff _ _).mpr (fits.free field declared)]
    · refine get?_members_of_ne fun entry among same => single ?_
      exact (fits.apart.2 field declared entry.1 (fits.mem_fields among) same.symm) ▸ same.symm

/-- No further member stands under the name of a field that is not written. -/
def IsClear (layout : Layout) : Prop :=
  ∀ field, (field, none) ∈ layout.values → field.name ∉ layout.others.keys

/-- The further members of a clear layout are again those that no field takes. -/
theorem Fits.unknown_members (fits : Fits fields layout) (clear : layout.IsClear) :
    Field.unknown layout.members fields = layout.others := by
  have untaken : ∀ member ∈ layout.others,
      member.1 ∉ fields.map fun field => field.nameIn layout.members := by
    intro member among taken
    obtain ⟨field, declared, same⟩ := List.mem_map.mp taken
    have other : field.nameIn layout.members ∈ layout.others.keys :=
      same ▸ List.mem_map_of_mem among
    rw [← fits.fields_eq] at declared
    obtain ⟨⟨field, value?⟩, listed, rfl⟩ := List.mem_map.mp declared
    rw [Field.nameIn, fits.hasKey_members listed] at other
    cases value? with
    | some value => exact fits.free field (fits.mem_fields listed) other
    | none => exact clear field listed other
  have taken : ∀ entry ∈ layout.values, ∀ member ∈ Dict.optionalPart entry.1.key id entry.2,
      member.1 ∈ fields.map fun field => field.nameIn layout.members := by
    rintro ⟨field, _ | value⟩ listed member among
    · cases among
    · obtain rfl := List.mem_singleton.mp among
      refine List.mem_map.mpr ⟨field, fits.mem_fields listed, if_pos ?_⟩
      exact fits.hasKey_members listed
  unfold Field.unknown
  generalize (fields.map fun field => field.nameIn layout.members) = dropped at untaken taken
  rw [members, Dict.ofParts, List.flatten_concat, Dict.without, List.filter_append,
    List.filter_eq_nil_iff.mpr, List.filter_eq_self.mpr, List.nil_append]
  · intro member among
    simpa using untaken member among
  · intro member among
    obtain ⟨_, listed, stands⟩ := List.mem_flatten.mp among
    obtain ⟨entry, written, rfl⟩ := List.mem_map.mp listed
    simpa using taken entry written member stands

/-- Every key that is written can be encoded if that of every field can and every one that was read. -/
theorem Fits.hasEncodableKeys_members {members : Dict Json} (fits : Fits fields layout)
    (spelled : ∀ field ∈ fields, field.key.toChars?.isSome = true)
    (encodable : members.hasEncodableKeys = true)
    (rest : layout.others = (Field.unknown members fields).withoutNulls) :
    layout.members.hasEncodableKeys = true := by
  refine List.all_eq_true.mpr fun member written => ?_
  obtain ⟨part, listed, stands⟩ := List.mem_flatten.mp written
  rcases List.mem_append.mp listed with declared | further
  · obtain ⟨⟨field, value?⟩, among, rfl⟩ := List.mem_map.mp declared
    cases value? with
    | none => cases stands
    | some value =>
      obtain rfl := List.mem_singleton.mp stands
      exact spelled field (fits.mem_fields among)
  · obtain rfl := List.mem_singleton.mp further
    rw [rest] at stands
    have given := List.filter_sublist.subset (List.filter_sublist.subset stands)
    exact List.all_eq_true.mp encodable member given

theorem Fits.values_eq (fits : Fits fields layout) :
    layout.values = fields.map fun field => (field, layout.members.get? field.key) := by
  rw [← fits.fields_eq, List.map_map]
  refine (List.map_id layout.values).symm.trans (List.map_congr_left fun entry member => ?_)
  exact Prod.ext rfl (fits.get?_members member).symm

/-- Layouts of the same fields with the same members have the same values. -/
theorem Fits.values_eq_of_members_eq {other : Layout} (fits : Fits fields layout)
    (otherFits : Fits fields other) (same : other.members = layout.members) :
    other.values = layout.values := by
  rw [otherFits.values_eq, same, fits.values_eq]

end Layout

/-! ### Kinds -/

/-- What is written of a value can be read, and what is read is then written as before. -/
def Rereads {α : Type} (kind : Json → Validated α) (write : α → Json) (value : α) : Prop :=
  ∃ again, kind (write value) = .valid again ∧ write again = write value

namespace Rereads

variable {α : Type} {kind : Json → Validated α} {write : α → Json}

theorem list_iff {values : List α} :
    Rereads (Lenient.list kind) (fun values => .array (values.map write)) values ↔
      ∀ value ∈ values, Rereads kind write value := by
  suffices ∀ position, (∃ again, Lenient.itemsFrom kind position (values.map write) = .valid again ∧
      again.map write = values.map write) ↔ ∀ value ∈ values, Rereads kind write value by
    simpa [Rereads, Lenient.list] using this 0
  induction values with
  | nil => simp [Lenient.itemsFrom]
  | cons value rest inductionHypothesis =>
    intro position
    rw [List.forall_mem_cons, ← inductionHypothesis (position + 1)]
    simp only [List.map_cons, Lenient.itemsFrom, seq_eq_valid_iff, map_eq_valid_iff,
      within_eq_valid_iff]
    constructor
    · rintro ⟨_, ⟨_, others, ⟨again, reads, rfl⟩, later, rfl⟩, same⟩
      obtain ⟨first, second⟩ := List.cons.inj same
      exact ⟨⟨again, reads, first⟩, others, later, second⟩
    · rintro ⟨⟨again, reads, first⟩, others, later, second⟩
      refine ⟨again :: others, ⟨_, others, ⟨again, reads, rfl⟩, later, rfl⟩, ?_⟩
      rw [List.map_cons, first, second]

theorem dictionary_iff {dict : Dict α} :
    Rereads (Lenient.dictionary kind) (fun dict => .object (dict.mapEntries fun _ => write)) dict ↔
      ∀ entry ∈ dict, Rereads kind write entry.2 := by
  suffices (∃ again, Lenient.entries kind (dict.mapEntries fun _ => write) = .valid again ∧
      again.mapEntries (fun _ => write) = dict.mapEntries fun _ => write) ↔
      ∀ entry ∈ dict, Rereads kind write entry.2 by
    simpa [Rereads, Lenient.dictionary] using this
  induction dict with
  | nil => simp [Lenient.entries, Dict.mapEntries]
  | cons entry rest inductionHypothesis =>
    obtain ⟨key, value⟩ := entry
    rw [List.forall_mem_cons, ← inductionHypothesis]
    simp only [Dict.mapEntries, List.map_cons, Lenient.entries, seq_eq_valid_iff, map_eq_valid_iff,
      within_eq_valid_iff]
    constructor
    · rintro ⟨_, ⟨_, others, ⟨again, reads, rfl⟩, later, rfl⟩, same⟩
      obtain ⟨first, second⟩ := List.cons.inj same
      exact ⟨⟨again, reads, (Prod.mk.inj first).2⟩, others, later, second⟩
    · rintro ⟨⟨again, reads, first⟩, others, later, second⟩
      refine ⟨(key, again) :: others, ⟨_, others, ⟨again, reads, rfl⟩, later, rfl⟩, ?_⟩
      rw [List.map_cons, first, second]

/-! What becomes of a part of a model. -/

variable {fields : List Field} {layout : Layout} {field : Field}

/-- A part that is always written is read from what is written of it. -/
theorem read_iff (fits : layout.Fits fields) {default value : α}
    (member : (field, some (write value)) ∈ layout.values) :
    (∃ again, field.read layout.members kind default = .valid again ∧ write again = write value) ↔
      Rereads kind write value := by
  simp only [Field.read, fits.find?_members member, Option.some_or, within_eq_valid_iff, Rereads]

/-- A part that may be left out is read from what is written of it, unless a further member stands
under its other name. -/
theorem read_optional_iff (fits : layout.Fits fields) (proper : ∀ value, write value ≠ .null)
    {value? : Option α} (member : (field, value?.map write) ∈ layout.values) :
    (∃ again?, field.read layout.members (Lenient.optional kind) none = .valid again? ∧
        again?.map write = value?.map write) ↔
      (∀ value ∈ value?, Rereads kind write value) ∧
        (value? = none → field.name ∉ layout.others.keys) := by
  have readsProper : ∀ {json again?}, json ≠ Json.null →
      (Lenient.optional kind json = .valid again? ↔
        ∃ again, kind json = .valid again ∧ some again = again?) := by
    intro json again? notNull
    rw [← map_eq_valid_iff]
    cases json with
    | null => exact absurd rfl notNull
    | bool | integer | double | string | array | object => rfl
  rw [Field.read, fits.find?_members member]
  cases value? with
  | some value =>
    simp [within_eq_valid_iff, readsProper (proper value), Rereads]
  | none =>
    rw [← Dict.get?_eq_none_iff]
    cases found : layout.others.get? field.name with
    | none => simp
    | some json =>
      have notNull := fits.proper _ (Dict.mem_of_get?_eq_some found)
      simp [within_eq_valid_iff, readsProper notNull]

end Rereads

/-- A value that was read is read again after it was written, unless it is ambiguous. -/
def RereadsUnless {α : Type} (ambiguous : α → Bool) (kind : Json → Validated α) (write : α → Json) :
    Prop :=
  ∀ json value, kind json = .valid value → (Rereads kind write value ↔ ambiguous value = false)

namespace RereadsUnless

variable {α : Type} {ambiguous : α → Bool} {kind : Json → Validated α} {write : α → Json}

theorem of_self (reads : ∀ value, kind (write value) = .valid value) :
    RereadsUnless (fun _ => false) kind write := fun _ value _ =>
  iff_of_true ⟨value, reads value, rfl⟩ rfl

theorem string : RereadsUnless (fun _ => false) Lenient.string .string := of_self fun _ => rfl

theorem flag : RereadsUnless (fun _ => false) Lenient.boolean .bool := of_self fun _ => rfl

theorem plainDictionary : RereadsUnless (fun _ => false) Lenient.plainDictionary .object :=
  of_self fun _ => rfl

theorem list (each : RereadsUnless ambiguous kind write) :
    RereadsUnless (List.any · ambiguous) (Lenient.list kind)
      (fun values => .array (values.map write)) := by
  intro json values reads
  obtain ⟨items, -, origins⟩ := Lenient.list_eq_valid reads
  rw [Rereads.list_iff, List.any_eq_false]
  refine forall₂_congr fun value member => ?_
  obtain ⟨item, -, readsItem⟩ := exists_of_forall₂ origins member
  rw [each item value readsItem, Bool.not_eq_true]

theorem dictionary (each : RereadsUnless ambiguous kind write) :
    RereadsUnless (List.any · fun (_, value) => ambiguous value) (Lenient.dictionary kind)
      (fun dict => .object (Dict.mapEntries (fun _ => write) dict)) := by
  intro json dict reads
  obtain ⟨members, -, origins⟩ := Lenient.dictionary_eq_valid reads
  rw [Rereads.dictionary_iff, List.any_eq_false]
  refine forall₂_congr fun entry member => ?_
  obtain ⟨_, -, -, readsValue⟩ := exists_of_forall₂ origins member
  rw [each _ entry.2 readsValue, Bool.not_eq_true]

/-! What becomes of a part of a model that was read. -/

variable {fields : List Field} {layout : Layout} {field : Field} {given : Dict Json}

theorem part (each : RereadsUnless ambiguous kind write) (fits : layout.Fits fields)
    {default value : α} (readsDefault : kind (write default) = .valid default)
    (reads : field.read given kind default = .valid value)
    (member : (field, some (write value)) ∈ layout.values) :
    (∃ again, field.read layout.members kind default = .valid again ∧ write again = write value) ↔
      ambiguous value = false := by
  rw [Rereads.read_iff fits member]
  rcases Field.read_eq_valid reads with rfl | ⟨json, -, readsValue⟩
  · exact each _ value readsDefault
  · exact each json value readsValue

theorem optionalPart (each : RereadsUnless ambiguous kind write) (fits : layout.Fits fields)
    (proper : ∀ value, write value ≠ .null) {value? : Option α}
    (reads : field.read given (Lenient.optional kind) none = .valid value?)
    (member : (field, value?.map write) ∈ layout.values) :
    (∃ again?, field.read layout.members (Lenient.optional kind) none = .valid again? ∧
        again?.map write = value?.map write) ↔
      value?.any ambiguous = false ∧ (value? = none → field.name ∉ layout.others.keys) := by
  rw [Rereads.read_optional_iff fits proper member]
  refine and_congr_left fun _ => ?_
  cases value? with
  | none => simp
  | some value =>
    rcases Field.read_eq_valid reads with absent | ⟨json, -, readsValue⟩
    · cases absent
    · simpa using each json value (Lenient.optional_eq_some readsValue)

/-- A part of a clear layout that was read is read again unless it is ambiguous. -/
theorem optionalPart_of_clear (each : RereadsUnless ambiguous kind write)
    (fits : layout.Fits fields) (clear : layout.IsClear) (proper : ∀ value, write value ≠ .null)
    {value? : Option α} (reads : field.read given (Lenient.optional kind) none = .valid value?)
    (member : (field, value?.map write) ∈ layout.values)
    (unambiguous : value?.any ambiguous = false) :
    ∃ again?, field.read layout.members (Lenient.optional kind) none = .valid again? ∧
      again?.map write = value?.map write := by
  refine (each.optionalPart fits proper reads member).mpr ⟨unambiguous, fun absent => ?_⟩
  rw [absent] at member
  exact clear field member

end RereadsUnless

/-! ### The models of documents -/

/-- A field that is not written and whose name a further member has that is written. -/
def Field.takesFurther (field : Field) (isWritten : Bool) (extra : Dict Json) : Bool :=
  !isWritten && extra.withoutNulls.hasKey field.name

theorem Field.takesFurther_eq_false_iff {field : Field} {α : Type} {value? : Option α}
    {extra : Dict Json} :
    field.takesFurther value?.isSome extra = false ↔
      (value? = none → field.name ∉ extra.withoutNulls.keys) := by
  rw [takesFurther, Bool.and_eq_false_imp, Bool.not_eq_true', Option.isSome_eq_false_iff,
    Option.isNone_iff_eq_none, ← Bool.not_eq_true, Dict.hasKey_iff]

namespace Parameter

/-- A further member stands under the other name of a part that is not written. -/
def isAmbiguous (parameter : Parameter) : Bool :=
  locationField.takesFurther parameter.location.isSome parameter.extra ||
    schemaField.takesFurther parameter.schema.isSome parameter.extra

/-- The parameter as it is written. -/
def layout (parameter : Parameter) : Layout where
  values :=
    [(nameField, parameter.name.map .string), (locationField, parameter.location.map .string),
      (descriptionField, parameter.description.map .string),
      (requiredField, parameter.required.map .bool), (schemaField, parameter.schema.map .object)]
  others := parameter.extra.withoutNulls

theorem toJson_eq (parameter : Parameter) : parameter.toJson = .object parameter.layout.members := by
  rw [toJson, Dict.optionalPart_eq "name", Dict.optionalPart_eq "in",
    Dict.optionalPart_eq "description", Dict.optionalPart_eq "required",
    Dict.optionalPart_eq "schema"]
  rfl

variable {members : Dict Json} {parameter : Parameter}

theorem IsReadFrom.fits (read : parameter.IsReadFrom members) : parameter.layout.Fits fields :=
  .of_read rfl (by decide) read.extra

theorem IsReadFrom.ofMembers_eq (read : parameter.IsReadFrom members) :
    ofMembers members = .valid parameter := by
  rw [ofMembers, read.name, read.location, read.description, read.required, read.schema,
    ← read.extra]
  rfl

theorem isAmbiguous_eq_false_iff : parameter.isAmbiguous = false ↔
    (parameter.location = none → locationField.name ∉ parameter.extra.withoutNulls.keys) ∧
      (parameter.schema = none → schemaField.name ∉ parameter.extra.withoutNulls.keys) := by
  rw [isAmbiguous, Bool.or_eq_false_iff, Field.takesFurther_eq_false_iff,
    Field.takesFurther_eq_false_iff]

/-- Nothing stands under the only name of a field, so two fields remain. -/
theorem IsReadFrom.isClear (read : parameter.IsReadFrom members)
    (unambiguous : parameter.isAmbiguous = false) : parameter.layout.IsClear := by
  obtain ⟨clearLocation, clearSchema⟩ := isAmbiguous_eq_false_iff.mp unambiguous
  intro field absent
  simp only [layout, List.mem_cons, Prod.mk.injEq, List.not_mem_nil, or_false] at absent
  rcases absent with ⟨rfl, -⟩ | ⟨rfl, left⟩ | ⟨rfl, -⟩ | ⟨rfl, -⟩ | ⟨rfl, left⟩
  · exact read.fits.free nameField (by decide)
  · exact clearLocation (Option.map_eq_none_iff.mp left.symm)
  · exact read.fits.free descriptionField (by decide)
  · exact read.fits.free requiredField (by decide)
  · exact clearSchema (Option.map_eq_none_iff.mp left.symm)

theorem IsReadFrom.rereads (read : parameter.IsReadFrom members)
    (encodable : members.hasEncodableKeys = true)
    (clear : parameter.layout.IsClear) :
    Rereads (Lenient.model ofMembers) toJson parameter := by
  have fits := read.fits
  obtain ⟨name?, readsName, sameName⟩ :=
    RereadsUnless.string.optionalPart_of_clear fits clear nofun read.name (.head _) (by simp)
  obtain ⟨location?, readsLocation, sameLocation⟩ :=
    RereadsUnless.string.optionalPart_of_clear fits clear nofun read.location (.tail _ (.head _))
      (by simp)
  obtain ⟨description?, readsDescription, sameDescription⟩ :=
    RereadsUnless.string.optionalPart_of_clear fits clear nofun read.description
      (.tail _ (.tail _ (.head _))) (by simp)
  obtain ⟨required?, readsRequired, sameRequired⟩ :=
    RereadsUnless.flag.optionalPart_of_clear fits clear nofun read.required
      (.tail _ (.tail _ (.tail _ (.head _)))) (by simp)
  obtain ⟨schema?, readsSchema, sameSchema⟩ :=
    RereadsUnless.plainDictionary.optionalPart_of_clear fits clear nofun read.schema
      (.tail _ (.tail _ (.tail _ (.tail _ (.head _))))) (by simp)
  let again : Parameter :=
    ⟨name?, location?, description?, required?, schema?, parameter.extra.withoutNulls⟩
  have encodableAgain := fits.hasEncodableKeys_members (by decide) encodable
    (congrArg Dict.withoutNulls read.extra)
  have readAgain : again.IsReadFrom parameter.layout.members :=
    ⟨readsName, readsLocation, readsDescription, readsRequired, readsSchema,
      (fits.unknown_members clear).symm⟩
  rw [Rereads, toJson_eq]
  refine ⟨again, Lenient.model_object_eq_valid_iff.mpr ⟨encodableAgain, readAgain.ofMembers_eq⟩, ?_⟩
  rw [toJson_eq]
  simp only [layout, again, sameName, sameLocation, sameDescription, sameRequired, sameSchema,
    Dict.withoutNulls_withoutNulls]

theorem rereadsUnless : RereadsUnless isAmbiguous (Lenient.model ofMembers) toJson := by
  intro json parameter reads
  obtain ⟨members, rfl, encodable, readsMembers⟩ := Lenient.model_eq_valid_iff.mp reads
  have read := isReadFrom_ofMembers readsMembers
  refine ⟨fun rereads => ?_, fun unambiguous => read.rereads encodable (read.isClear unambiguous)⟩
  rw [Rereads, toJson_eq] at rereads
  obtain ⟨again, readsAgain, same⟩ := rereads
  have fits := read.fits
  have readAgain := isReadFrom_ofMembers (Lenient.model_object_eq_valid_iff.mp readsAgain).2
  have values_eq := fits.values_eq_of_members_eq readAgain.fits
    (Json.object.inj (again.toJson_eq.symm.trans same))
  simp only [layout, List.cons.injEq, Prod.mk.injEq, true_and, and_true] at values_eq
  have clearLocation := (RereadsUnless.string.optionalPart fits nofun read.location
    (.tail _ (.head _))).mp ⟨_, readAgain.location, values_eq.2.1⟩
  have clearSchema := (RereadsUnless.plainDictionary.optionalPart fits nofun read.schema
    (.tail _ (.tail _ (.tail _ (.tail _ (.head _)))))).mp ⟨_, readAgain.schema, values_eq.2.2.2.2⟩
  exact isAmbiguous_eq_false_iff.mpr ⟨clearLocation.2, clearSchema.2⟩

end Parameter

namespace RequestBody

/-- The body as it is written. -/
def layout (body : RequestBody) : Layout where
  values :=
    [(descriptionField, body.description.map .string),
      (contentField, some body.content.nestedToJson), (requiredField, body.required.map .bool)]
  others := body.extra.withoutNulls

theorem toJson_eq (body : RequestBody) : body.toJson = .object body.layout.members := by
  rw [toJson, Dict.optionalPart_eq "description", Dict.optionalPart_eq "required"]
  rfl

variable {members : Dict Json} {body : RequestBody}

theorem IsReadFrom.fits (read : body.IsReadFrom members) : body.layout.Fits fields :=
  .of_read rfl (by decide) read.extra

theorem IsReadFrom.ofMembers_eq (read : body.IsReadFrom members) :
    ofMembers members = .valid body := by
  rw [ofMembers, read.description, read.content, read.required, ← read.extra]
  rfl

/-- No part of a body has two names. -/
theorem IsReadFrom.isClear (read : body.IsReadFrom members) : body.layout.IsClear := by
  intro field absent
  simp only [layout, List.mem_cons, Prod.mk.injEq, List.not_mem_nil, or_false, reduceCtorEq,
    and_false, false_or] at absent
  rcases absent with ⟨rfl, -⟩ | ⟨rfl, -⟩
  · exact read.fits.free descriptionField (by decide)
  · exact read.fits.free requiredField (by decide)

theorem rereadsUnless : RereadsUnless (fun _ => false) (Lenient.model ofMembers) toJson := by
  intro json body reads
  obtain ⟨members, rfl, encodable, readsMembers⟩ := Lenient.model_eq_valid_iff.mp reads
  have read := isReadFrom_ofMembers readsMembers
  have fits := read.fits
  have clear := read.isClear
  refine iff_of_true ?_ rfl
  obtain ⟨description?, readsDescription, sameDescription⟩ :=
    RereadsUnless.string.optionalPart_of_clear fits clear nofun read.description (.head _) (by simp)
  obtain ⟨content, readsContent, sameContent⟩ :=
    (RereadsUnless.plainDictionary.dictionary.part fits rfl read.content (.tail _ (.head _))).mpr
      (by simp)
  obtain ⟨required?, readsRequired, sameRequired⟩ :=
    RereadsUnless.flag.optionalPart_of_clear fits clear nofun read.required
      (.tail _ (.tail _ (.head _))) (by simp)
  let again : RequestBody := ⟨description?, content, required?, body.extra.withoutNulls⟩
  have encodableAgain := fits.hasEncodableKeys_members (by decide) encodable
    (congrArg Dict.withoutNulls read.extra)
  have readAgain : again.IsReadFrom body.layout.members :=
    ⟨readsDescription, readsContent, readsRequired, (fits.unknown_members clear).symm⟩
  rw [Rereads, toJson_eq]
  refine ⟨again, Lenient.model_object_eq_valid_iff.mpr ⟨encodableAgain, readAgain.ofMembers_eq⟩, ?_⟩
  rw [toJson_eq]
  simp only [layout, again, sameDescription, Dict.nestedToJson, sameContent, sameRequired,
    Dict.withoutNulls_withoutNulls]

end RequestBody

namespace Operation

/-- A further member stands under the other name of the body where none is written, or a parameter
is ambiguous. -/
def isAmbiguous (operation : Operation) : Bool :=
  requestBodyField.takesFurther operation.requestBody.isSome operation.extra ||
    operation.parameters.any Parameter.isAmbiguous

/-- The operation as it is written. -/
def layout (operation : Operation) : Layout where
  values :=
    [(descriptionField, operation.description.map .string),
      (parametersField, some (.array (operation.parameters.map Parameter.toJson))),
      (requestBodyField, operation.requestBody.map RequestBody.toJson),
      (responsesField, some operation.responses.nestedToJson)]
  others := operation.extra.withoutNulls

theorem toJson_eq (operation : Operation) : operation.toJson = .object operation.layout.members := by
  rw [toJson, Dict.optionalPart_eq "description", Dict.optionalPart_eq "requestBody"]
  rfl

variable {members : Dict Json} {operation : Operation}

theorem IsReadFrom.fits (read : operation.IsReadFrom members) : operation.layout.Fits fields :=
  .of_read rfl (by decide) read.extra

theorem IsReadFrom.ofMembers_eq (read : operation.IsReadFrom members) :
    ofMembers members = .valid operation := by
  rw [ofMembers, read.description, read.parameters, read.requestBody, read.responses, ← read.extra]
  rfl

theorem isAmbiguous_eq_false_iff : operation.isAmbiguous = false ↔
    (operation.requestBody = none →
        requestBodyField.name ∉ operation.extra.withoutNulls.keys) ∧
      operation.parameters.any Parameter.isAmbiguous = false := by
  rw [isAmbiguous, Bool.or_eq_false_iff, Field.takesFurther_eq_false_iff]

theorem IsReadFrom.isClear (read : operation.IsReadFrom members)
    (unambiguous : operation.isAmbiguous = false) : operation.layout.IsClear := by
  intro field absent
  simp only [layout, List.mem_cons, Prod.mk.injEq, List.not_mem_nil, or_false, reduceCtorEq,
    and_false, false_or] at absent
  rcases absent with ⟨rfl, -⟩ | ⟨rfl, left⟩
  · exact read.fits.free descriptionField (by decide)
  · exact (isAmbiguous_eq_false_iff.mp unambiguous).1 (Option.map_eq_none_iff.mp left.symm)

theorem IsReadFrom.rereads (read : operation.IsReadFrom members)
    (encodable : members.hasEncodableKeys = true)
    (clear : operation.layout.IsClear)
    (unambiguous : operation.parameters.any Parameter.isAmbiguous = false) :
    Rereads (Lenient.model ofMembers) toJson operation := by
  have fits := read.fits
  obtain ⟨description?, readsDescription, sameDescription⟩ :=
    RereadsUnless.string.optionalPart_of_clear fits clear nofun read.description (.head _)
      (by simp)
  obtain ⟨parameters, readsParameters, sameParameters⟩ :=
    (Parameter.rereadsUnless.list.part fits rfl read.parameters (.tail _ (.head _))).mpr
      unambiguous
  obtain ⟨requestBody?, readsRequestBody, sameRequestBody⟩ :=
    RequestBody.rereadsUnless.optionalPart_of_clear fits clear nofun read.requestBody
      (.tail _ (.tail _ (.head _))) (by simp)
  obtain ⟨responses, readsResponses, sameResponses⟩ :=
    (RereadsUnless.plainDictionary.dictionary.part fits rfl read.responses
      (.tail _ (.tail _ (.tail _ (.head _))))).mpr (by simp)
  let again : Operation :=
    ⟨description?, parameters, requestBody?, responses, operation.extra.withoutNulls⟩
  have encodableAgain := fits.hasEncodableKeys_members (by decide) encodable
    (congrArg Dict.withoutNulls read.extra)
  have readAgain : again.IsReadFrom operation.layout.members :=
    ⟨readsDescription, readsParameters, readsRequestBody, readsResponses,
      (fits.unknown_members clear).symm⟩
  rw [Rereads, toJson_eq]
  refine ⟨again, Lenient.model_object_eq_valid_iff.mpr ⟨encodableAgain, readAgain.ofMembers_eq⟩, ?_⟩
  rw [toJson_eq]
  simp only [layout, again, sameDescription, sameParameters, sameRequestBody, Dict.nestedToJson,
    sameResponses, Dict.withoutNulls_withoutNulls]

theorem rereadsUnless : RereadsUnless isAmbiguous (Lenient.model ofMembers) toJson := by
  intro json operation reads
  obtain ⟨members, rfl, encodable, readsMembers⟩ := Lenient.model_eq_valid_iff.mp reads
  have read := isReadFrom_ofMembers readsMembers
  refine ⟨fun rereads => ?_, fun unambiguous => read.rereads encodable (read.isClear unambiguous)
    (isAmbiguous_eq_false_iff.mp unambiguous).2⟩
  rw [Rereads, toJson_eq] at rereads
  obtain ⟨again, readsAgain, same⟩ := rereads
  have fits := read.fits
  have readAgain := isReadFrom_ofMembers (Lenient.model_object_eq_valid_iff.mp readsAgain).2
  have values_eq := fits.values_eq_of_members_eq readAgain.fits
    (Json.object.inj (again.toJson_eq.symm.trans same))
  simp only [layout, List.cons.injEq, Prod.mk.injEq, true_and, and_true, Option.some_inj]
    at values_eq
  have clearBody := (RequestBody.rereadsUnless.optionalPart fits nofun read.requestBody
    (.tail _ (.tail _ (.head _)))).mp ⟨_, readAgain.requestBody, values_eq.2.2.1⟩
  have unambiguous := (Parameter.rereadsUnless.list.part fits rfl read.parameters
    (.tail _ (.head _))).mp ⟨_, readAgain.parameters, values_eq.2.1⟩
  exact isAmbiguous_eq_false_iff.mpr ⟨clearBody.2, unambiguous⟩

end Operation

theorem Method.mem_all (method : Method) : method ∈ Method.all := by
  cases method <;> decide

namespace PathItem

/-- An operation is ambiguous. -/
def isAmbiguous (item : PathItem) : Bool :=
  item.operations.any fun (_, operation) => operation.isAmbiguous

/-- The item as it is written. -/
def layout (item : PathItem) : Layout where
  values :=
    Method.all.map fun method => (methodField method, (item.operation? method).map Operation.toJson)
  others := item.extra.withoutNulls

theorem toJson_eq (item : PathItem) : item.toJson = .object item.layout.members := by
  rw [toJson, operations_toJson, layout, Layout.members, Dict.ofParts, Dict.ofParts,
    List.flatten_concat, List.map_map]
  simp [Function.comp_def, ← Dict.optionalPart_eq, methodField, Field.named]

variable {members : Dict Json} {item : PathItem}

theorem IsReadFrom.fits (read : item.IsReadFrom members) : item.layout.Fits fields :=
  .of_read rfl (by decide) read.extra

theorem IsReadFrom.ofMembers_eq (read : item.IsReadFrom members) :
    ofMembers members = .valid item := by
  simp only [ofMembers, read.operation?, ← read.extra]
  rfl

theorem isAmbiguous_eq_false_iff : item.isAmbiguous = false ↔
    ∀ method, (item.operation? method).any Operation.isAmbiguous = false := by
  rw [isAmbiguous, operations, List.any_filterMap, List.any_eq_false]
  refine ⟨fun each method => ?_, fun each method _ => ?_⟩
  · have := each method method.mem_all
    revert this
    cases item.operation? method <;> simp
  · have := each method
    revert this
    cases item.operation? method <;> simp

/-- No operation has two names. -/
theorem IsReadFrom.isClear (read : item.IsReadFrom members) : item.layout.IsClear := by
  intro field absent
  obtain ⟨method, among, same⟩ := List.mem_map.mp absent
  obtain ⟨rfl, -⟩ := Prod.mk.inj same
  exact read.fits.free (methodField method) (List.mem_map_of_mem among)

theorem mem_values_layout (method : Method) :
    (methodField method, (item.operation? method).map Operation.toJson) ∈ item.layout.values :=
  List.mem_map_of_mem method.mem_all

theorem IsReadFrom.rereads (read : item.IsReadFrom members)
    (encodable : members.hasEncodableKeys = true)
    (unambiguous : ∀ method, (item.operation? method).any Operation.isAmbiguous = false) :
    Rereads (Lenient.model ofMembers) toJson item := by
  have rereads (method : Method) := Operation.rereadsUnless.optionalPart_of_clear read.fits
    read.isClear nofun (read.operation? method) (mem_values_layout method) (unambiguous method)
  choose operation? readsOperation sameOperation using rereads
  let again : PathItem :=
    ⟨operation? .get, operation? .put, operation? .post, operation? .delete, operation? .options,
      operation? .head, operation? .patch, operation? .trace, item.extra.withoutNulls⟩
  have again_operation? : again.operation? = operation? := by
    funext method
    cases method <;> rfl
  have encodableAgain := read.fits.hasEncodableKeys_members (by decide) encodable
    (congrArg Dict.withoutNulls read.extra)
  have readAgain : again.IsReadFrom item.layout.members :=
    ⟨again_operation? ▸ readsOperation, (read.fits.unknown_members read.isClear).symm⟩
  rw [Rereads, toJson_eq]
  refine ⟨again, Lenient.model_object_eq_valid_iff.mpr ⟨encodableAgain, readAgain.ofMembers_eq⟩, ?_⟩
  rw [toJson_eq]
  simp only [layout, again_operation?, sameOperation]
  simp only [again, Dict.withoutNulls_withoutNulls]

theorem rereadsUnless : RereadsUnless isAmbiguous (Lenient.model ofMembers) toJson := by
  intro json item reads
  obtain ⟨members, rfl, encodable, readsMembers⟩ := Lenient.model_eq_valid_iff.mp reads
  have read := isReadFrom_ofMembers readsMembers
  rw [isAmbiguous_eq_false_iff]
  refine ⟨fun rereads method => ?_, read.rereads encodable⟩
  rw [Rereads, toJson_eq] at rereads
  obtain ⟨again, readsAgain, same⟩ := rereads
  have readAgain := isReadFrom_ofMembers (Lenient.model_object_eq_valid_iff.mp readsAgain).2
  have values_eq := read.fits.values_eq_of_members_eq readAgain.fits
    (Json.object.inj (again.toJson_eq.symm.trans same))
  rw [layout, layout, List.map_inj_left] at values_eq
  have written := (Prod.mk.inj (values_eq method method.mem_all)).2
  exact ((Operation.rereadsUnless.optionalPart read.fits nofun (read.operation? method)
    (mem_values_layout method)).mp ⟨_, readAgain.operation? method, written⟩).1

end PathItem

namespace Components

/-- The components as they are written. -/
def layout (components : Components) : Layout where
  values :=
    [(schemasField, some (.object components.schemas)),
      (securitySchemesField, some components.securitySchemes.nestedToJson)]
  others := components.extra.withoutNulls

theorem toJson_eq (components : Components) :
    components.toJson = .object components.layout.members := rfl

variable {members : Dict Json} {components : Components}

theorem IsReadFrom.fits (read : components.IsReadFrom members) : components.layout.Fits fields :=
  .of_read rfl (by decide) read.extra

theorem IsReadFrom.ofMembers_eq (read : components.IsReadFrom members) :
    ofMembers members = .valid components := by
  rw [ofMembers, read.schemas, read.securitySchemes, ← read.extra]
  rfl

theorem rereadsUnless_schemas :
    RereadsUnless (fun _ => false) (Lenient.dictionary readSchema) .object := by
  have each : RereadsUnless (fun _ => false) readSchema id := by
    intro json value reads
    obtain ⟨members, -, rfl⟩ := map_eq_valid_iff.mp reads
    exact iff_of_true ⟨.object members, rfl, rfl⟩ rfl
  have unchanged : (fun dict => .object (Dict.mapEntries (fun _ => id) dict)) = Json.object :=
    funext fun dict => congrArg Json.object (List.map_id dict)
  intro json dict reads
  have rereads := each.dictionary json dict reads
  rw [unchanged] at rereads
  simpa using rereads

/-- Both parts of components are always written. -/
theorem rereadsUnless : RereadsUnless (fun _ => false) (Lenient.model ofMembers) toJson := by
  intro json components reads
  obtain ⟨members, rfl, encodable, readsMembers⟩ := Lenient.model_eq_valid_iff.mp reads
  have read := isReadFrom_ofMembers readsMembers
  have fits := read.fits
  have clear : components.layout.IsClear := by
    intro field absent
    simp [layout] at absent
  refine iff_of_true ?_ rfl
  obtain ⟨schemas, readsSchemas, sameSchemas⟩ :=
    (rereadsUnless_schemas.part fits rfl read.schemas (.head _)).mpr rfl
  obtain ⟨securitySchemes, readsSecurity, sameSecurity⟩ :=
    (RereadsUnless.plainDictionary.dictionary.part fits rfl read.securitySchemes
      (.tail _ (.head _))).mpr (by simp)
  let again : Components := ⟨schemas, securitySchemes, components.extra.withoutNulls⟩
  have encodableAgain := fits.hasEncodableKeys_members (by decide) encodable
    (congrArg Dict.withoutNulls read.extra)
  have readAgain : again.IsReadFrom components.layout.members :=
    ⟨readsSchemas, readsSecurity, (fits.unknown_members clear).symm⟩
  refine ⟨again, Lenient.model_object_eq_valid_iff.mpr ⟨encodableAgain, readAgain.ofMembers_eq⟩, ?_⟩
  rw [toJson_eq, toJson_eq]
  simp only [layout, again, sameSchemas, Dict.nestedToJson, sameSecurity,
    Dict.withoutNulls_withoutNulls]

end Components

namespace Document

/-- A path item is ambiguous. -/
def isAmbiguous (document : Document) : Bool :=
  document.paths.any fun (_, item) => item.isAmbiguous

/-- The document as it is written. -/
def layout (document : Document) : Layout where
  values :=
    [(openapiField, some (.string document.openapi)), (infoField, document.info.map .object),
      (serversField, some (.array (document.servers.map .object))),
      (pathsField, some (.object (document.paths.mapEntries fun _ item => item.toJson))),
      (componentsField, some document.components.toJson),
      (securityField, some (.array (document.security.map requirementToJson)))]
  others := document.extra.withoutNulls

theorem toJson_eq (document : Document) : document.toJson = .object document.layout.members := by
  rw [toJson, Dict.optionalPart_eq "info"]
  rfl

variable {members : Dict Json} {document : Document}

theorem IsReadFrom.fits (read : document.IsReadFrom members) : document.layout.Fits fields :=
  .of_read rfl (by decide) read.extra

theorem IsReadFrom.ofMembers_eq (read : document.IsReadFrom members) :
    ofMembers members = .valid document := by
  rw [ofMembers, read.openapi, read.info, read.servers, read.paths, read.components, read.security,
    ← read.extra]
  rfl

/-- No part of a document has two names. -/
theorem IsReadFrom.isClear (read : document.IsReadFrom members) : document.layout.IsClear := by
  intro field absent
  simp only [layout, List.mem_cons, Prod.mk.injEq, List.not_mem_nil, or_false, reduceCtorEq,
    and_false, false_or] at absent
  obtain ⟨rfl, -⟩ := absent
  exact read.fits.free infoField (by decide)

theorem IsReadFrom.rereads (read : document.IsReadFrom members)
    (encodable : members.hasEncodableKeys = true)
    (unambiguous : document.isAmbiguous = false) :
    Rereads (Lenient.model ofMembers) toJson document := by
  have fits := read.fits
  have clear := read.isClear
  obtain ⟨openapi, readsOpenapi, sameOpenapi⟩ :=
    (RereadsUnless.string.part fits rfl read.openapi (.head _)).mpr rfl
  obtain ⟨info?, readsInfo, sameInfo⟩ :=
    RereadsUnless.plainDictionary.optionalPart_of_clear fits clear nofun read.info
      (.tail _ (.head _)) (by simp)
  obtain ⟨servers, readsServers, sameServers⟩ :=
    (RereadsUnless.plainDictionary.list.part fits rfl read.servers
      (.tail _ (.tail _ (.head _)))).mpr (by simp)
  obtain ⟨paths, readsPaths, samePaths⟩ :=
    (PathItem.rereadsUnless.dictionary.part fits rfl read.paths
      (.tail _ (.tail _ (.tail _ (.head _))))).mpr unambiguous
  obtain ⟨components, readsComponents, sameComponents⟩ :=
    (Components.rereadsUnless.part fits rfl read.components
      (.tail _ (.tail _ (.tail _ (.tail _ (.head _)))))).mpr rfl
  obtain ⟨security, readsSecurity, sameSecurity⟩ :=
    (RereadsUnless.string.list.dictionary.list.part fits rfl read.security
      (.tail _ (.tail _ (.tail _ (.tail _ (.tail _ (.head _))))))).mpr (by simp)
  let again : Document :=
    ⟨openapi, info?, servers, paths, components, security, document.extra.withoutNulls⟩
  have encodableAgain := fits.hasEncodableKeys_members (by decide) encodable
    (congrArg Dict.withoutNulls read.extra)
  have readAgain : again.IsReadFrom document.layout.members :=
    ⟨readsOpenapi, readsInfo, readsServers, readsPaths, readsComponents, readsSecurity,
      (fits.unknown_members clear).symm⟩
  have sameSecurity : Json.array (security.map requirementToJson) =
      .array (document.security.map requirementToJson) := sameSecurity
  rw [Rereads, toJson_eq]
  refine ⟨again, Lenient.model_object_eq_valid_iff.mpr ⟨encodableAgain, readAgain.ofMembers_eq⟩, ?_⟩
  rw [toJson_eq]
  simp only [layout, again, sameOpenapi, sameInfo, sameServers, samePaths, sameComponents,
    sameSecurity, Dict.withoutNulls_withoutNulls]

theorem rereadsUnless : RereadsUnless isAmbiguous (Lenient.model ofMembers) toJson := by
  intro json document reads
  obtain ⟨members, rfl, encodable, readsMembers⟩ := Lenient.model_eq_valid_iff.mp reads
  have read := isReadFrom_ofMembers readsMembers
  refine ⟨fun rereads => ?_, read.rereads encodable⟩
  rw [Rereads, toJson_eq] at rereads
  obtain ⟨again, readsAgain, same⟩ := rereads
  have fits := read.fits
  have readAgain := isReadFrom_ofMembers (Lenient.model_object_eq_valid_iff.mp readsAgain).2
  have values_eq := fits.values_eq_of_members_eq readAgain.fits
    (Json.object.inj (again.toJson_eq.symm.trans same))
  simp only [layout, List.cons.injEq, Prod.mk.injEq, true_and, and_true, Option.some_inj]
    at values_eq
  exact (PathItem.rereadsUnless.dictionary.part fits rfl read.paths
    (.tail _ (.tail _ (.tail _ (.head _))))).mp ⟨_, readAgain.paths, values_eq.2.2.2.1⟩

/-- A document that was read can be read again after it was written, and is then written as before,
exactly if no part that has two names is left out beside a further member of the other name. -/
theorem toJson_rereads_iff {given : Json} {document : Document}
    (reads : ofJson given = .valid document) :
    (∃ again, ofJson document.toJson = .valid again ∧ again.toJson = document.toJson) ↔
      document.isAmbiguous = false :=
  rereadsUnless given document reads

theorem toJson_rereads_iff_disordered : ∃ document, ofJson disordered = .valid document ∧
    document.isAmbiguous = false ∧
    ∃ again, ofJson document.toJson = .valid again ∧ again.toJson = document.toJson := by
  obtain ⟨document, reads, clear⟩ : ∃ document, ofJson disordered = .valid document ∧
      document.isAmbiguous = false := ⟨_, rfl, rfl⟩
  exact ⟨document, reads, clear, (toJson_rereads_iff reads).mpr clear⟩

/-- A document with a parameter whose location is null, beside a further member `location`. -/
def withoutLocation (further : Json) : Json :=
  .object
    [("paths", .object
      [("/services/room", .object
        [("get", .object
          [("parameters", .array
            [.object [("name", .string "id"), ("in", .null), ("location", further)]])])])])]

/-- The null is not written, so the further member becomes the location, or makes the document
unreadable if it is no text. -/
theorem withoutLocation_not_reread :
    (∃ document, ofJson (withoutLocation (.string "query")) = .valid document ∧
      ∃ again, ofJson document.toJson = .valid again ∧ again.toJson ≠ document.toJson) ∧
    ∃ document, ofJson (withoutLocation (.integer 5)) = .valid document ∧
      ∀ again, ofJson document.toJson ≠ .valid again :=
  ⟨⟨_, rfl, _, rfl, by decide⟩, _, rfl, nofun⟩

end Document

end ApiDoc
