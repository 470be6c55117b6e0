/-
This file says what the schema of a table looks like, whatever its columns are and whatever is answered
for their enumerations. Each property comes from the first column of its name: it has a type or a choice
of types but not both, lists values only with a choice, and says of length, null and description what
the attributes and the name of that column say. Null is nowhere a member.
-/
import ApiDoc.Compilation.Tables
import ApiDoc.Proofs.AttributeOrder
import ApiDoc.Proofs.ListedValues
import ApiDoc.Proofs.ProperMarkup
import ApiDoc.Proofs.SchemaMembers

namespace ApiDoc

variable {σ : Type}

/-! ### What columns give -/

namespace Table

/-- Whatever the answers are, a table is extended by the columns that count, each with a property that
it gives for some answer. -/
theorem exists_parts_of_addColumns {source : EnumSource σ} {columns : List Column}
    {table finished : Table} {state : Cached σ} (sound : table.IsSound)
    (adds : ((addColumns source table columns).perform state).1 = .ok finished) :
    ∃ parts : List (Column × Property), parts.map (·.1) = Column.pending table columns ∧
      (∀ part ∈ parts, ∃ answer, part.1.property answer table.name = .ok part.2) ∧
      finished = table.extend parts := by
  induction columns generalizing table state with
  | nil =>
    cases adds
    exact ⟨[], rfl, nofun, by simp [extend]⟩
  | cons column rest inductionHypothesis =>
    have adding : ((addColumn source table column >>= fun next =>
      addColumns source next rest).perform state).1 = .ok finished := adds
    cases skips : table.skips column.name with
    | true =>
      rw [addColumn_of_skips source skips, pure_bind] at adding
      rw [Column.pending_cons_of_skips skips]
      exact inductionHypothesis sound adding
    | false =>
      -- The answer is whatever the cache resolves at this column; later columns may find others.
      have outcome := outcome_addColumn_resolved source state sound skips
      rw [Attempt.perform_bind] at adding
      generalize (addColumn source table column).perform state = added at outcome adding
      obtain ⟨_, after⟩ := added
      dsimp only at outcome
      subst outcome
      cases gives : column.property
          (fun name => ((EnumCache.resolve source name).perform state).1) table.name with
      | error failure =>
        rw [gives] at adding
        cases adding
      | ok property =>
        rw [gives] at adding
        obtain ⟨parts, ofColumns, givesRest, rfl⟩ := inductionHypothesis (sound.extend _) adding
        have readable := Column.failure?_of_property gives
        refine ⟨(column, property) :: parts, ?_, ?_, (extend_cons table _ parts).symm⟩
        · rw [Column.pending_cons_of_new skips property, putProperty_draftOf sound skips readable,
            List.map_cons, ofColumns]
        · exact List.forall_mem_cons.mpr ⟨⟨_, gives⟩, givesRest⟩

theorem exists_parts_of_build {source : EnumSource σ} {name : Text} {columns : Feed Column}
    {state : Cached σ} {table : Table}
    (built : ((build source name columns).perform state).1 = .ok table) :
    ∃ parts : List (Column × Property), parts.map (·.1) = Column.counted name columns.items ∧
      (∀ part ∈ parts, ∃ answer, part.1.property answer name = .ok part.2) ∧
      table = Table.extend { name } parts := by
  unfold build at built
  rw [Attempt.perform_bind] at built
  generalize performed : (addColumns source { name } columns.items).perform state = added at built
  obtain ⟨outcome, after⟩ := added
  cases outcome with
  | error failure => cases built
  | ok finished =>
    obtain rfl : finished = table := by
      dsimp only at built
      cases ends : columns.ending <;> rw [ends] at built <;> cases built
      rfl
    obtain ⟨parts, ofColumns, gives, same⟩ :=
      exists_parts_of_addColumns (isSound_empty name) (congrArg Prod.fst performed)
    rw [Column.pending_empty] at ofColumns
    exact ⟨parts, ofColumns, gives, same⟩

end Table

/-! ### What a property says -/

namespace Column

/-- A column gives the property that its attributes describe, with the values of an enumeration if it
draws from one. -/
theorem property_eq_ok {answer : Text → Except Failure Enumeration} {table : Text} {column : Column}
    {property : Property} (gives : column.property answer table = .ok property) :
    enumerationName? column.name = none ∧ property = column.described table ∨
      (enumerationName? column.name).isSome = true ∧
        ∃ definition, property = (column.described table).asEnumerated.withValues definition := by
  unfold Column.property at gives
  split at gives
  · cases gives
  split at gives
  · rename_i undrawn
    cases gives
    exact Or.inl ⟨undrawn, rfl⟩
  · rename_i name draws
    obtain ⟨definition, _, rfl⟩ := map_eq_ok_iff.mp gives
    exact Or.inr ⟨by rw [draws]; rfl, definition, rfl⟩

/-- The attribute that allows null or not says `true`. -/
def AllowsNull (column : Column) : Prop :=
  ∃ value, column.attributes.get? "allowNull" = some value ∧
    value.trimBlanks.asciiLowercase = "true"

theorem allowing?_eq_true_iff (column value : Text) :
    allowing? column value = some true ↔ value.trimBlanks.asciiLowercase = "true" := by
  rw [← lowercase_eq_true_iff]
  unfold allowing? readBoolean
  dsimp only
  split
  · rename_i affirms
    exact iff_of_true rfl affirms
  · rename_i affirms
    split <;> exact iff_of_false nofun affirms

section Described

variable {column : Column} (distinct : column.attributes.keys.Nodup) (table : Text)

include distinct

theorem described_eq :
    column.described table =
      attributed column.name (Table.initialProperty table column.name) column.attributes :=
  foldl_reshaped distinct _

theorem oneOf_described : (column.described table).oneOf = none := by
  rw [described_eq distinct]
  rfl

theorem enum_described : (column.described table).enum = [] := by
  rw [described_eq distinct]
  rfl

theorem nullable_described_iff : (column.described table).nullable = true ↔ column.AllowsNull := by
  have nullable : (column.described table).nullable =
      ((column.attributes.get? "allowNull").bind (allowing? column.name)).getD false := by
    rw [described_eq distinct]
    rfl
  unfold AllowsNull
  rw [nullable]
  cases column.attributes.get? "allowNull" with
  | none => exact iff_of_false nofun nofun
  | some value =>
    rw [Option.bind_some]
    simp only [Option.some_inj, exists_eq_left', ← allowing?_eq_true_iff column.name]
    cases allowing? column.name value with
    | none => exact iff_of_false nofun nofun
    | some flag => exact Option.some_inj.symm

theorem pos_of_maxLength_described {length : Int}
    (sized : (column.described table).maxLength = some length) : 0 < length := by
  rw [described_eq distinct] at sized
  have read : (column.attributes.get? "size").bind (length? column.name) = some length :=
    (Option.or_none).symm.trans sized
  obtain ⟨value, _, reads⟩ := Option.bind_eq_some_iff.mp read
  unfold length? at reads
  split at reads
  · split at reads
    · rename_i positive
      cases reads
      exact positive
    · cases reads
  · cases reads

theorem isSome_type_described :
    (column.described table).type.isSome = column.attributes.hasKey "type" := by
  rw [described_eq distinct, Dict.hasKey_eq_isSome]
  show (Option.or (Option.map _ (Option.map _ _)) none).isSome = _
  rw [Option.or_none, Option.isSome_map, Option.isSome_map]

theorem description_described :
    (column.described table).description =
      ((column.attributes.get? "type").bind fun token =>
        (ColumnType.ofColumn token column.name).description).or
          (describe? table column.name) := by
  rw [described_eq distinct]
  show (Option.bind (Option.map _ _) _).or _ = _
  rw [Option.bind_map]
  rfl

end Described

/-! ### What members say -/

/-- The members make up the schema of a column of a table. -/
structure Shapes (table : Text) (column : Column) (members : Dict Json) : Prop where
  distinct : members.keys.Nodup
  exclusive : ¬ (members.hasKey "type" = true ∧ members.hasKey "oneOf" = true)
  oneOf : members.hasKey "oneOf" = true ↔ (enumerationName? column.name).isSome = true
  /-- Some values are listed if any are. Null can stand only after the others, and it does so exactly
  where it is allowed. -/
  enum : ∀ value, members.get? "enum" = some value →
    members.hasKey "oneOf" = true ∧ ∃ entries, value = .array entries ∧ entries ≠ [] ∧
      .null ∉ entries.dropLast ∧ (.null ∈ entries ↔ members.hasKey "nullable" = true)
  nullable : ∀ value, members.get? "nullable" = some value → value = .bool true
  allowsNull : members.hasKey "nullable" = true ↔ column.AllowsNull
  maxLength : ∀ value, members.get? "maxLength" = some value →
    ∃ length, 0 < length ∧ value = .integer length
  type : members.hasKey "type" = true → column.attributes.hasKey "type" = true
  /-- The description of a type that has one comes before that of the name. -/
  description : members.get? "description" =
    (((column.attributes.get? "type").bind fun token =>
      (ColumnType.ofColumn token column.name).description).or
        (describe? table column.name)).map .string

/-- Listing values leaves null, length and description as they are described. -/
theorem property_keeps {answer : Text → Except Failure Enumeration} {table : Text} {column : Column}
    {property : Property} (gives : column.property answer table = .ok property) :
    property.nullable = (column.described table).nullable ∧
      property.maxLength = (column.described table).maxLength ∧
      property.description = (column.described table).description := by
  rcases property_eq_ok gives with ⟨_, rfl⟩ | ⟨_, definition, rfl⟩ <;> exact ⟨rfl, rfl, rfl⟩

section Members

variable {answer : Text → Except Failure Enumeration} {table : Text} {column : Column}
  {property : Property}

theorem hasKey_type : property.toMembers.hasKey "type" = property.type.isSome :=
  (property.hasKey_toMembers "type").trans Option.isSome_map

theorem hasKey_oneOf : property.toMembers.hasKey "oneOf" = property.oneOf.isSome :=
  (property.hasKey_toMembers "oneOf").trans Option.isSome_map

theorem hasKey_nullable : property.toMembers.hasKey "nullable" = property.nullable := by
  rw [property.hasKey_toMembers]
  show (if property.nullable then some (.bool true) else none : Option Json).isSome = _
  cases property.nullable <;> rfl

/-- The list of an enumerated property has null at its end, if anywhere. -/
theorem null_not_mem_dropLast (distinct : column.attributes.keys.Nodup) (table : Text)
    (definition : Enumeration) :
    .null ∉ ((column.described table).asEnumerated.withValues definition).enum.dropLast := by
  have values := Property.null_not_mem_flatMap_listed definition.values
  rw [Property.enum_withValues (enum_described distinct table)]
  split
  · rwa [List.dropLast_concat]
  · rw [List.append_nil]
    exact fun member => values (List.dropLast_subset _ member)

/-- The schema of a property that a column gives. -/
theorem shapes_toMembers (distinct : column.attributes.keys.Nodup)
    (gives : column.property answer table = .ok property) :
    Shapes table column property.toMembers where
  distinct := property.nodup_keys_toMembers
  exclusive := by
    rw [hasKey_type, hasKey_oneOf]
    rcases property_eq_ok gives with ⟨_, rfl⟩ | ⟨_, definition, rfl⟩
    · rw [oneOf_described distinct]
      exact fun both => nomatch both.2
    · exact fun both => nomatch both.1
  oneOf := by
    rw [hasKey_oneOf]
    rcases property_eq_ok gives with ⟨undrawn, rfl⟩ | ⟨draws, definition, rfl⟩
    · rw [oneOf_described distinct, undrawn]
      rfl
    · exact iff_of_true rfl draws
  enum value found := by
    rw [property.get?_toMembers] at found
    have listed : (if property.enum.isEmpty then none else some (.array property.enum)) =
      some value := found
    rw [hasKey_oneOf, hasKey_nullable]
    split at listed
    · cases listed
    rename_i filled
    obtain rfl := Option.some_inj.mp listed
    rw [List.isEmpty_iff] at filled
    rcases property_eq_ok gives with ⟨_, rfl⟩ | ⟨_, definition, rfl⟩
    · exact absurd (enum_described distinct table) filled
    · have lists := Property.lists_withValues (enum_described distinct table) definition
      exact ⟨rfl, _, rfl, filled, null_not_mem_dropLast distinct table definition, lists.null⟩
  nullable value found := by
    rw [property.get?_toMembers] at found
    have allowed : (if property.nullable then some (.bool true) else none) = some value := found
    split at allowed
    · exact (Option.some_inj.mp allowed).symm
    · cases allowed
  allowsNull := by
    rw [hasKey_nullable, (property_keeps gives).1, nullable_described_iff distinct]
  maxLength value found := by
    rw [property.get?_toMembers] at found
    obtain ⟨length, sized, rfl⟩ := Option.map_eq_some_iff.mp found
    rw [(property_keeps gives).2.1] at sized
    exact ⟨length, pos_of_maxLength_described distinct table sized, rfl⟩
  type := by
    rw [hasKey_type, ← isSome_type_described distinct table]
    rcases property_eq_ok gives with ⟨_, rfl⟩ | ⟨_, definition, rfl⟩
    · exact id
    · exact nofun
  description := by
    rw [property.get?_toMembers, ← description_described distinct, ← (property_keeps gives).2.2]
    rfl

/-- Values that are listed for a column are identifiers, labels or null. -/
theorem isSolid_of_property (distinct : column.attributes.keys.Nodup)
    (gives : column.property answer table = .ok property) : property.toJson.IsSolid := by
  rcases property_eq_ok gives with ⟨_, rfl⟩ | ⟨_, definition, rfl⟩
  · refine Property.isSolid_toJson ?_ ?_
    · rw [enum_described distinct]
      exact nofun
    · rw [oneOf_described distinct]
      exact nofun
  · refine Property.isSolid_toJson (fun entry member => ?_) fun choices member => ?_
    · rw [Property.enum_withValues (enum_described distinct table), List.mem_append] at member
      rcases member with value | null
      · obtain ⟨pair, _, among⟩ := List.mem_flatMap.mp value
        rcases List.mem_cons.mp among with rfl | label
        · exact (Json.isSolid_integer _).2
        · obtain rfl := List.mem_singleton.mp label
          exact (Json.isSolid_string _).2
      · split at null
        · obtain rfl := List.mem_singleton.mp null
          exact nofun
        · cases null
    · exact (Option.mem_some_iff.mp member).symm

end Members

end Column

/-! ### Schemas of tables -/

namespace Table

/-- The schema of a table has the shape that columns give it. -/
structure IsShaped (columns : List Column) (table : Table) : Prop where
  nonNull : ¬ table.toJson.HasNullMember
  /-- There is a property for every name of a column but that of the table, and it has the shape that
  the first column of the name gives it. -/
  properties : ∃ properties : Dict Json, table.toMembers.get? "properties" = some (.object properties) ∧
    properties.keys.Nodup ∧
    (∀ key, key ∈ properties.keys ↔ key ≠ table.name ∧ key ∈ columns.map (·.name)) ∧
    ∀ entry ∈ properties, ∃ column members,
      Column.first? columns entry.1 = some column ∧ entry.2 = .object members ∧
        column.Shapes table.name members

/-- A table with the properties of the columns that count has the shape that they give it. -/
theorem isShaped_extend {name : Text} {columns : List Column} {parts : List (Column × Property)}
    (distinct : ∀ column ∈ columns, column.attributes.keys.Nodup)
    (ofColumns : parts.map (·.1) = Column.counted name columns)
    (gives : ∀ part ∈ parts, ∃ answer, part.1.property answer name = .ok part.2) :
    (Table.extend { name } parts).IsShaped columns := by
  have properties : (Table.extend { name } parts).properties =
      parts.map fun part => (part.1.name, part.2) := rfl
  have first (part : Column × Property) (member : part ∈ parts) :
      Column.first? columns part.1.name = some part.1 :=
    ((Column.mem_counted_iff _ _ _).mp (ofColumns ▸ List.mem_map_of_mem member)).1
  have own (part : Column × Property) (member : part ∈ parts) : part.1.attributes.keys.Nodup :=
    distinct _ (List.mem_of_find?_eq_some (first part member))
  refine ⟨?_, _, (Table.extend { name } parts).get?_toMembers "properties", ?_, fun key => ?_, ?_⟩
  · refine (Table.isSolid_toJson ?_).2
    rw [properties, List.forall_mem_map]
    intro part member
    obtain ⟨answer, given⟩ := gives part member
    exact Column.isSolid_of_property (own part member) given
  · rw [Dict.keys_mapEntries, keys_extend_empty ofColumns]
    exact nodup_newNames _ _
  · rw [Dict.keys_mapEntries, keys_extend_empty ofColumns, mem_newNames, List.mem_singleton, and_comm]
    exact Iff.rfl
  · unfold Dict.mapEntries
    rw [properties, List.map_map, List.forall_mem_map]
    intro part member
    obtain ⟨answer, given⟩ := gives part member
    exact ⟨part.1, _, first part member, rfl, Column.shapes_toMembers (own part member) given⟩

/-- A table that is built of columns has the shape that they give it, whatever is answered for their
enumerations. The attributes of one column have different names. -/
theorem build_shapes (source : EnumSource σ) (name : Text) {columns : Feed Column}
    (distinct : ∀ column ∈ columns.items, column.attributes.keys.Nodup) {state : Cached σ}
    {table : Table} (built : ((build source name columns).perform state).1 = .ok table) :
    table.name = name ∧ table.IsShaped columns.items := by
  obtain ⟨parts, ofColumns, gives, rfl⟩ := exists_parts_of_build built
  exact ⟨rfl, isShaped_extend distinct ofColumns gives⟩

/-- A column that may be null draws from an enumeration and has a type with a description of its own;
of two with sizes one is not positive. -/
theorem build_shapes_rooms :
    let source := EnumSource.known [("RoomEnum", [(1, "Single Room"), (2, "Suite")])]
    let state : Cached (List Text) := { cache := {}, rest := [] }
    let columns : List Column :=
      [{ name := "Kind_RoomEnum", attributes := [("type", "Short"), ("allowNull", " True ")] },
        { name := "Room", attributes := [("size", "many")] },
        { name := "Beds", attributes := [("size", "-1"), ("type", "Text")] },
        { name := "Floor", attributes := [("allowNull", "false"), ("size", "8")] },
        { name := "Beds", attributes := [("size", "many")] }]
    let table : Table :=
      { name := "Room"
        properties :=
          [("Kind_RoomEnum",
              { format := some "uint16"
                description := some "Unsigned 16-bit integer"
                nullable := true
                enum := [.integer 1, .string "SingleRoom", .integer 2, .string "Suite", .null]
                oneOf := some Property.identifierOrLabel }),
            ("Beds", { type := some "text" }), ("Floor", { maxLength := some 8 })] }
    (∀ column ∈ columns, column.attributes.keys.Nodup) ∧
      ((build source "Room" (.ofList columns)).perform state).1 = .ok table ∧
      table.IsShaped columns := by
  intro source state columns table
  have distinct : ∀ column ∈ columns, column.attributes.keys.Nodup := by decide
  have built : ((build source "Room" (.ofList columns)).perform state).1 = .ok table := by
    decide +kernel
  exact ⟨distinct, built, (build_shapes source "Room" distinct built).2⟩

end Table

/-- Whatever a service answers, a table that is built of its answers has the shape of the columns that it
delivers. -/
theorem Source.isShaped_buildTable (source : Source σ) (name : Text)
    {state : Cached (Http.Session σ)} {table : Table}
    (built : ((source.buildTable name).perform state).1 = .ok table) :
    table.IsShaped (source.columns name state.rest).1.items := by
  have distinct (column : Column) (member : column ∈ (source.columns name state.rest).1.items) :
      column.attributes.keys.Nodup :=
    (source.isProper_columns name state.rest column member).2.1
  unfold Source.buildTable at built
  rw [Attempt.perform_bind] at built
  obtain ⟨parts, ofColumns, gives, rfl⟩ := Table.exists_parts_of_build built
  exact Table.isShaped_extend distinct ofColumns gives

end ApiDoc
