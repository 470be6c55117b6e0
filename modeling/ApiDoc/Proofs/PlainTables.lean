/-
This file says what the tables of a service look like when they are finished, whatever the service
answers: their texts are proper but for labels, their numbers are short, and no column has two
properties. Every step of the building keeps to that.
-/
import ApiDoc.Proofs.Columns
import ApiDoc.Proofs.ProperMarkup
import ApiDoc.Proofs.ShortValues

namespace ApiDoc

/-! ### Properties -/

namespace Property

/-- The texts of a property. -/
def texts (property : Property) : List Text :=
  property.type.toList ++ (property.format.toList ++ property.description.toList)

/-- What a plain property lists: null, labels, and identifiers that are short. -/
def IsListed : Json → Prop
  | .null | .string _ => True
  | .integer value => Numeral.IsShort value
  | .bool _ | .double _ | .array _ | .object _ => False

/-- A property is plain if its texts are proper and its numbers short. -/
structure IsPlain (property : Property) : Prop where
  texts : ∀ text ∈ property.texts, text.IsProper
  maxLength : ∀ length ∈ property.maxLength, Numeral.IsShort length
  enum : ∀ entry ∈ property.enum, IsListed entry
  oneOf : ∀ choices ∈ property.oneOf, choices = identifierOrLabel

theorem isPlain_initial {column : Text} (proper : column.IsProper) (table : Text) :
    (Table.initialProperty table column).IsPlain where
  texts text member := by
    have described : some text = Column.describe? table column := by
      simpa [Property.texts, Table.initialProperty, eq_comm] using member
    exact Column.isProper_describe? proper described.symm
  maxLength _ member := nomatch member
  enum _ member := nomatch member
  oneOf _ member := nomatch member

variable {property : Property}

theorem mem_texts_withType {type : ColumnType} {text : Text}
    (member : text ∈ (property.withType type).texts) :
    text ∈ type.texts ∨ text ∈ property.texts := by
  simp only [texts, withType, ColumnType.texts, List.mem_append, List.mem_cons,
    Option.mem_toList, Option.toList_some, List.not_mem_nil, or_false] at member ⊢
  rcases member with typed | formatted | described
  · exact Or.inl (Or.inl typed)
  · exact Or.inl (Or.inr (Or.inl formatted))
  · rw [Option.or_eq_some_iff] at described
    rcases described with own | ⟨_, before⟩
    · exact Or.inl (Or.inr (Or.inr own))
    · exact Or.inr (Or.inr (Or.inr before))

namespace IsPlain

variable (plain : property.IsPlain)

include plain

theorem withType {type : ColumnType} (proper : ∀ text ∈ type.texts, text.IsProper) :
    (property.withType type).IsPlain where
  texts text member := (mem_texts_withType member).elim (proper text) (plain.texts text)
  maxLength := plain.maxLength
  enum := plain.enum
  oneOf := plain.oneOf

theorem withLength {length : Int} (short : Numeral.IsShort length) :
    IsPlain { property with maxLength := some length } where
  texts := plain.texts
  maxLength _ member := Option.mem_some_iff.mp member ▸ short
  enum := plain.enum
  oneOf := plain.oneOf

theorem withNullable (nullable : Bool) : IsPlain { property with nullable } where
  texts := plain.texts
  maxLength := plain.maxLength
  enum := plain.enum
  oneOf := plain.oneOf

theorem asEnumerated : property.asEnumerated.IsPlain where
  texts text member := plain.texts text (List.mem_append_right _ member)
  maxLength := plain.maxLength
  enum := plain.enum
  oneOf _ member := (Option.mem_some_iff.mp member).symm

theorem withValues {definition : Enumeration} (short : definition.IsShort) :
    (property.withValues definition).IsPlain where
  texts := plain.texts
  maxLength := plain.maxLength
  oneOf := plain.oneOf
  enum := by
    have all : ∀ entry ∈ property.enum ++ definition.values.flatMap listed, IsListed entry := by
      intro entry member
      rcases List.mem_append.mp member with before | new
      · exact plain.enum entry before
      · obtain ⟨value, among, lists⟩ := List.mem_flatMap.mp new
        rcases List.mem_cons.mp lists with rfl | label
        · exact short value among
        · obtain rfl := List.mem_singleton.mp label
          trivial
    unfold Property.withValues
    dsimp only
    split
    · intro entry member
      rcases List.mem_append.mp member with before | null
      · exact all entry before
      · obtain rfl := List.mem_singleton.mp null
        trivial
    · exact all

end IsPlain

end Property

/-! ### Tables -/

namespace Table

/-- A table is plain if its properties are, each under a name of its own, and its texts are proper. -/
structure IsPlain (table : Table) : Prop where
  name : table.name.IsProper
  distinct : table.properties.keys.Nodup
  properties : ∀ entry ∈ table.properties, entry.1.IsProper ∧ entry.2.IsPlain
  required : ∀ name ∈ table.required, name.IsProper

theorem isPlain_empty {name : Text} (proper : name.IsProper) : IsPlain { name } where
  name := proper
  distinct := List.nodup_nil
  properties _ member := nomatch member
  required _ member := nomatch member

namespace IsPlain

variable {table : Table} (plain : table.IsPlain) {name : Text} (proper : name.IsProper)

include plain proper

theorem putProperty {property : Property} (plainProperty : property.IsPlain) :
    (table.putProperty name property).IsPlain where
  name := plain.name
  distinct := Dict.nodup_keys_insert plain.distinct _ _
  properties entry member := by
    rcases Dict.mem_of_mem_insert member with rfl | before
    · exact ⟨proper, plainProperty⟩
    · exact plain.properties entry before
  required := plain.required

theorem requireProperty : (table.requireProperty name).IsPlain := by
  unfold Table.requireProperty
  split
  · refine ⟨plain.name, plain.distinct, plain.properties, fun other member => ?_⟩
    rcases List.mem_append.mp member with before | new
    · exact plain.required other before
    · obtain rfl := List.mem_singleton.mp new
      exact proper
  · exact plain

end IsPlain

end Table

/-! ### Columns -/

namespace Column

/-- The table and the property that are worked on are plain. -/
structure Draft.IsPlain (draft : Draft) : Prop where
  table : draft.table.IsPlain
  property : draft.property.IsPlain

theorem isShort_readInteger {column key value : Text} {integer : Int}
    (reads : readInteger column key value = .ok integer) : Numeral.IsShort integer := by
  unfold readInteger at reads
  split at reads
  · rename_i found
    cases reads
    exact Numeral.isShort_read found
  · cases reads

variable {column : Column} (proper : column.IsProper)

include proper

/-- An attribute whose value is a proper text keeps a draft plain. -/
theorem isPlain_applied {entry : Text × Text} (member : entry ∈ column.attributes)
    {draft next : Draft} (plain : draft.IsPlain) (applied : Applied column.name entry draft next) :
    next.IsPlain := by
  cases applied with
  | same => exact plain
  | required => exact ⟨plain.table.requireProperty proper.1, plain.property⟩
  | typed =>
    have properTexts := ColumnType.isProper_ofColumn (proper.2.2 entry member) column.name
    exact ⟨plain.table, plain.property.withType properTexts⟩
  | sized size read => exact ⟨plain.table, plain.property.withLength (isShort_readInteger read)⟩
  | nullable nullable => exact ⟨plain.table, plain.property.withNullable nullable⟩

theorem isPlain_draftOf {table : Table} (plain : table.IsPlain) :
    (table.draftOf column).IsPlain := by
  have plainProperty := Property.isPlain_initial proper.1 table.name
  exact applyAttributes_preserves Draft.IsPlain column.attributes
    (fun entry member draft next => isPlain_applied proper member)
    ⟨plain.putProperty proper.1 plainProperty, plainProperty⟩

end Column

/-! ### Building -/

/-- The enumerations in the cache have short identifiers. -/
def EnumCache.IsShort (cache : EnumCache) : Prop :=
  ∀ entry ∈ cache.definitions, entry.2.IsShort

theorem EnumCache.isShort_empty : EnumCache.IsShort {} :=
  fun _ member => absurd member List.not_mem_nil

section Building

variable {σ : Type}

/-- Work beside the cache keeps what holds of the cache. -/
theorem Cached.ensures_beside {α : Type} (holds : EnumCache → Prop) {wanted : α → Prop}
    {work : StateM σ α} (yields : ∀ state, wanted (work state).1) :
    Attempt.Ensures (fun state => holds state.cache) wanted
      (Attempt.ofWork (Cached.beside work)) :=
  .ofWork fun state initially => ⟨initially, yields state.rest⟩

/-- The source gives enumerations with short identifiers. -/
def EnumSource.GivesShort (source : EnumSource σ) : Prop :=
  ∀ name state definition, ((source name).perform state).1 = .ok definition → definition.IsShort

variable {source : EnumSource σ} (gives : source.GivesShort)

include gives

theorem EnumCache.ensures_resolve (name : Text) :
    Attempt.Ensures (·.cache.IsShort) Enumeration.IsShort (resolve source name) := by
  intro state short
  unfold resolve
  rw [Attempt.perform_ofFunction]
  split
  · rename_i definition found
    refine ⟨short, fun value same => ?_⟩
    cases same
    exact short _ (Dict.mem_of_get?_eq_some found)
  · dsimp only
    have given := gives name state.rest
    generalize (source name).perform state.rest = answered at given ⊢
    obtain ⟨answer, rest⟩ := answered
    refine ⟨?_, fun value same => given value same⟩
    cases answer with
    | error failure => exact short
    | ok definition =>
      intro entry member
      rcases Dict.mem_of_mem_insert member with rfl | before
      · exact given definition rfl
      · exact short entry before

namespace Table

/-- The table is plain and has this name. -/
def IsPlainNamed (name : Text) (table : Table) : Prop := table.IsPlain ∧ table.name = name

theorem ensures_addColumn {table : Table} (plain : table.IsPlain) {column : Column}
    (proper : column.IsProper) :
    Attempt.Ensures (·.cache.IsShort) (IsPlainNamed table.name)
      (addColumn source table column) := by
  cases skips : table.skips column.name with
  | true =>
    rw [addColumn_of_skips source skips]
    exact .pure ⟨plain, rfl⟩
  | false =>
    have plainDraft := Column.isPlain_draftOf proper plain
    have named : (table.draftOf column).table.name = table.name :=
      (Column.applyAttributes_table (startColumn table column.name) column.attributes).1
    cases fails : column.failure? with
    | some failure =>
      rw [addColumn_of_failure source skips fails]
      exact .throw failure
    | none =>
      cases draws : Column.enumerationName? column.name with
      | none =>
        rw [addColumn_undrawn source skips fails draws]
        exact .pure ⟨plainDraft.table.putProperty proper.1 plainDraft.property, named⟩
      | some name =>
        rw [addColumn_drawing source skips fails draws]
        refine (EnumCache.ensures_resolve gives name).bind fun definition short => ?_
        exact .pure ⟨plainDraft.table.putProperty proper.1
          (plainDraft.property.asEnumerated.withValues short), named⟩

theorem ensures_addColumns {columns : List Column} (proper : ∀ column ∈ columns, column.IsProper)
    {table : Table} (plain : table.IsPlain) :
    Attempt.Ensures (·.cache.IsShort) (IsPlainNamed table.name)
      (addColumns source table columns) := by
  induction columns generalizing table with
  | nil => exact .pure ⟨plain, rfl⟩
  | cons column rest inductionHypothesis =>
    refine (ensures_addColumn gives plain (proper column List.mem_cons_self)).bind ?_
    rintro next ⟨plainNext, named⟩
    rw [← named]
    exact inductionHypothesis (fun other member => proper other (.tail _ member)) plainNext

/-- A table that is built from proper columns is plain. -/
theorem ensures_build {name : Text} (properName : name.IsProper) {columns : Feed Column}
    (proper : Column.FeedIsProper columns) :
    Attempt.Ensures (·.cache.IsShort) (IsPlainNamed name) (build source name columns) := by
  unfold build
  refine (ensures_addColumns gives proper (isPlain_empty properName)).bind fun table plain => ?_
  cases columns.ending with
  | ok => exact .pure plain
  | error failure => exact .throw failure

end Table

end Building

end ApiDoc
