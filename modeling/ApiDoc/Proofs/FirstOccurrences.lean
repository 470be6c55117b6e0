/-
This file says how a table follows from the stream of its columns. A column that counts adds its own
property at the end, and its name to the required ones if an attribute says so; what it adds depends on
nothing but the column, the name of the table and the answers for enumerations. So a table is put
together from its first occurrences, and every other column might as well be missing.
-/
import ApiDoc.Proofs.CacheTransparency
import ApiDoc.Proofs.Columns
import ApiDoc.Proofs.Visits

namespace ApiDoc

variable {σ : Type}

/-! ### What a column gives -/

/-- A property that is required already is not required anew. -/
theorem Table.requireProperty_requireProperty (table : Table) (name : Text) :
    (table.requireProperty name).requireProperty name = table.requireProperty name := by
  by_cases takes : (table.properties.hasKey name && !table.required.contains name) = true
  · have taken : table.requireProperty name =
        { table with required := table.required ++ [name] } := if_pos takes
    rw [taken, requireProperty, if_neg]
    simp
  · have unchanged : table.requireProperty name = table := if_neg takes
    rw [unchanged, unchanged]

namespace Column

/-- An attribute, a key with a value, that makes its column required. -/
def isRequirement (entry : Text × Text) : Bool :=
  entry.1 = "required" && entry.2.trimBlanks.lowercase = "true"

/-- Some attribute of the column makes it required. -/
def isRequired (column : Column) : Bool := column.attributes.any isRequirement

/-- What an attribute makes of the property of its column, if it can be read. -/
def reshaped (column : Text) (property : Property) (entry : Text × Text) : Property :=
  if entry.1 = "type" then property.withType (ColumnType.ofColumn entry.2 column)
  else if entry.1 = "size" then match readInteger column entry.1 entry.2 with
    | .ok size => if 0 < size then { property with maxLength := some size } else property
    | .error _ => property
  else if entry.1 = "allowNull" then match readBoolean column entry.1 entry.2 with
    | .ok nullable => { property with nullable }
    | .error _ => property
  else property

theorem readBoolean_eq_ok {column key value : Text} {flag : Bool}
    (reads : readBoolean column key value = .ok flag) :
    flag = decide (value.trimBlanks.lowercase = "true") := by
  unfold readBoolean at reads
  dsimp only at reads
  split at reads
  · rename_i affirms
    cases reads
    exact (decide_eq_true affirms).symm
  · rename_i denies
    split at reads
    · cases reads
      exact (decide_eq_false denies).symm
    · cases reads

/-- An attribute that can be read works on the table and on the property apart from each other. -/
theorem applyAttribute_eq_ok {column key value : Text} {draft next : Draft}
    (applies : applyAttribute column draft key value = .ok next) :
    next =
      { table :=
          if isRequirement (key, value) then draft.table.requireProperty column else draft.table
        property := reshaped column draft.property (key, value) } := by
  unfold applyAttribute at applies
  unfold isRequirement reshaped
  dsimp only
  by_cases required : key = "required"
  · rw [if_pos required] at applies
    obtain ⟨flag, reads, taken⟩ := bind_eq_ok_iff.mp applies
    obtain rfl := readBoolean_eq_ok reads
    subst required
    cases affirms : decide (value.trimBlanks.lowercase = "true") <;> rw [affirms] at taken <;>
      cases taken <;> rfl
  · rw [if_neg required] at applies
    rw [decide_eq_false required, Bool.false_and, if_neg Bool.false_ne_true]
    by_cases typed : key = "type"
    · rw [if_pos typed] at applies ⊢
      cases applies
      rfl
    rw [if_neg typed] at applies ⊢
    by_cases sized : key = "size"
    · rw [if_pos sized] at applies ⊢
      obtain ⟨size, reads, taken⟩ := bind_eq_ok_iff.mp applies
      rw [reads]
      dsimp only
      split at taken <;> rename_i positive <;> cases taken
      · rw [if_pos positive]
      · rw [if_neg positive]
    rw [if_neg sized] at applies ⊢
    by_cases allowing : key = "allowNull"
    · rw [if_pos allowing] at applies ⊢
      obtain ⟨flag, reads, taken⟩ := bind_eq_ok_iff.mp applies
      rw [reads]
      cases taken
      rfl
    · rw [if_neg allowing] at applies ⊢
      cases applies
      rfl

/-- So do all attributes, if they can be read. -/
theorem applyAttributes_of_ok {column : Text} {attributes : Dict Text} {draft : Draft}
    (applies : (applyAttributes column draft attributes).1 = .ok ()) :
    (applyAttributes column draft attributes).2 =
      { table :=
          if attributes.any isRequirement then draft.table.requireProperty column else draft.table
        property := attributes.foldl (reshaped column) draft.property } := by
  induction attributes generalizing draft with
  | nil => rfl
  | cons head rest inductionHypothesis =>
    obtain ⟨key, value⟩ := head
    unfold applyAttributes at applies ⊢
    cases applied : applyAttribute column draft key value with
    | error failure =>
      rw [applied] at applies
      cases applies
    | ok next =>
      rw [applied] at applies
      dsimp only at applies ⊢
      rw [inductionHypothesis applies, applyAttribute_eq_ok applied, List.any_cons,
        List.foldl_cons]
      congr 1
      cases isRequirement (key, value) <;> cases rest.any isRequirement <;>
        simp [Table.requireProperty_requireProperty]

/-- The property of a column of a table when its attributes have been read. -/
def described (table : Text) (column : Column) : Property :=
  column.attributes.foldl (reshaped column.name) (Table.initialProperty table column.name)

/-- The property that a column gives a table, where enumerations are answered in a given way. -/
def property (answer : Text → Except Failure Enumeration) (table : Text) (column : Column) :
    Except Failure Property :=
  match column.failure? with
  | some failure => .error failure
  | none => match enumerationName? column.name with
    | none => .ok (column.described table)
    | some name => (answer name).map (column.described table).asEnumerated.withValues

/-- A column that gives a property can be read. -/
theorem failure?_of_property {answer : Text → Except Failure Enumeration} {table : Text}
    {column : Column} {property : Property} (gives : column.property answer table = .ok property) :
    column.failure? = none := by
  unfold Column.property at gives
  split at gives
  · cases gives
  · assumption

end Column

/-! ### Adding columns -/

namespace Table

/-- The table with the properties of columns at its end. -/
def extend (table : Table) (parts : List (Column × Property)) : Table :=
  { table with
    properties := table.properties ++ parts.map fun part => (part.1.name, part.2)
    required := table.required ++ (parts.filter (·.1.isRequired)).map (·.1.name) }

theorem extend_cons (table : Table) (part : Column × Property) (rest : List (Column × Property)) :
    table.extend (part :: rest) = (table.extend [part]).extend rest := by
  unfold extend
  cases required : part.1.isRequired <;> simp [required]

/-- Whatever is required has a property. -/
def IsSound (table : Table) : Prop := table.required ⊆ table.properties.keys

theorem isSound_empty (name : Text) : IsSound { name } := List.nil_subset _

theorem IsSound.extend {table : Table} (sound : table.IsSound) (parts : List (Column × Property)) :
    (table.extend parts).IsSound := by
  intro name member
  rw [Table.extend, List.mem_append] at member
  rw [Table.extend, Dict.keys_append, List.mem_append]
  refine member.imp (fun before => sound before) fun new => ?_
  obtain ⟨part, among, rfl⟩ := List.mem_map.mp new
  refine List.mem_map.mpr ⟨(part.1.name, part.2), ?_, rfl⟩
  exact List.mem_map_of_mem (List.mem_of_mem_filter among)

variable {table : Table} {column : Column}

/-- A column that can be read leaves nothing behind but its property and whether it is required. -/
theorem putProperty_draftOf (sound : table.IsSound) (new : table.skips column.name = false)
    (readable : column.failure? = none) (property : Property) :
    (table.draftOf column).table.putProperty column.name property =
      table.extend [(column, property)] := by
  unfold skips at new
  rw [Bool.or_eq_false_iff, ← Bool.not_eq_true, Dict.hasKey_iff] at new
  have unrequired : column.name ∉ table.required := fun member => new.1 (sound member)
  have requires : (startColumn table column.name).table.requireProperty column.name =
      { (startColumn table column.name).table with
        required := table.required ++ [column.name] } := by
    refine if_pos ?_
    rw [Bool.and_eq_true]
    refine ⟨?_, by simpa [startColumn, putProperty] using unrequired⟩
    exact (Dict.hasKey_insert _ _ _ _).trans (by simp)
  have drafted : (table.draftOf column).table =
      { (startColumn table column.name).table with
        required := table.required ++ if column.isRequired then [column.name] else [] } := by
    unfold draftOf
    rw [Column.applyAttributes_of_ok (Column.applyAttributes_of_readable readable _), requires]
    unfold Column.isRequired
    split
    · rfl
    · rw [List.append_nil]
      rfl
  have replaced : Dict.insert (startColumn table column.name).table.properties column.name property =
      table.properties ++ [(column.name, property)] :=
    (Dict.insert_insert _ _ _ _).trans (Dict.insert_of_not_mem new.1 property)
  rw [drafted, putProperty]
  dsimp only
  rw [replaced]
  unfold extend
  cases required : column.isRequired <;> simp [required, startColumn, putProperty]

/-- The property that it leaves is what its attributes say. -/
theorem property_draftOf (table : Table) (readable : column.failure? = none) :
    (table.draftOf column).property = column.described table.name := by
  unfold draftOf
  rw [Column.applyAttributes_of_ok (Column.applyAttributes_of_readable readable _)]
  rfl

/-! ### Outcomes -/

variable {answer : Text → Except Failure Enumeration} {source : EnumSource σ} {state : Cached σ}

/-- A column that counts gives the table its property, or fails as the property does. The enumeration
is what the cache resolves at this point. -/
theorem outcome_addColumn_resolved (source : EnumSource σ) (state : Cached σ) (sound : table.IsSound)
    (new : table.skips column.name = false) :
    ((addColumn source table column).perform state).1 =
      (column.property (fun name => ((EnumCache.resolve source name).perform state).1)
        table.name).map fun property => table.extend [(column, property)] := by
  unfold Column.property
  cases fails : column.failure? with
  | some failure =>
    rw [addColumn_of_failure source new fails]
    rfl
  | none =>
    have drafted := property_draftOf table fails
    cases draws : Column.enumerationName? column.name with
    | none =>
      rw [addColumn_undrawn source new fails draws, putProperty_draftOf sound new fails, drafted]
      rfl
    | some name =>
      rw [addColumn_drawing source new fails draws, Attempt.perform_bind]
      dsimp only
      generalize (EnumCache.resolve source name).perform state = resolving
      obtain ⟨outcome, after⟩ := resolving
      cases outcome with
      | error failure => rfl
      | ok definition =>
        show Except.ok ((table.draftOf column).table.putProperty column.name _) = _
        rw [putProperty_draftOf sound new fails, drafted]
        rfl

/-- Where the answers are given, the enumeration is the answer. -/
theorem outcome_addColumn (answers : source.AnswersBy answer) (holds : state.cache.Holds answer)
    (sound : table.IsSound) (new : table.skips column.name = false) :
    ((addColumn source table column).perform state).1 =
      (column.property answer table.name).map fun property => table.extend [(column, property)] := by
  have resolved : (fun name => ((EnumCache.resolve source name).perform state).1) = answer :=
    funext (EnumCache.resolve_outcome answers holds)
  rw [outcome_addColumn_resolved source state sound new, resolved]

/-- A column and the property that it gives. -/
def partOf (answer : Text → Except Failure Enumeration) (table : Text) (column : Column) :
    Except Failure (Column × Property) :=
  (column.property answer table).map fun property => (column, property)

/-- A table is extended by the columns that count, each with its own property, or fails as the first
of them that does. -/
theorem outcome_addColumns (answers : source.AnswersBy answer) (columns : List Column)
    {table : Table} {state : Cached σ} (holds : state.cache.Holds answer) (sound : table.IsSound) :
    ((addColumns source table columns).perform state).1 =
      ((Column.pending table columns).mapM (partOf answer table.name)).map table.extend := by
  induction columns generalizing table state with
  | nil =>
    show Except.ok table = Except.ok (table.extend [])
    simp [extend]
  | cons column rest inductionHypothesis =>
    show ((addColumn source table column >>= fun next =>
      addColumns source next rest).perform state).1 = _
    cases skips : table.skips column.name with
    | true =>
      rw [addColumn_of_skips source skips, pure_bind, Column.pending_cons_of_skips skips]
      exact inductionHypothesis holds sound
    | false =>
      have added := outcome_addColumn answers holds sound skips
      have holdsAfter := (transparent_addColumn answers table column state state holds holds).2
      rw [Attempt.perform_bind]
      generalize (addColumn source table column).perform state = adding at added holdsAfter ⊢
      obtain ⟨outcome, after⟩ := adding
      dsimp only at added holdsAfter
      subst added
      cases gives : column.property answer table.name with
      | error failure =>
        rw [Column.pending_cons_of_new skips default, List.mapM_cons, partOf, gives]
        rfl
      | ok property =>
        have readable := Column.failure?_of_property gives
        have continued :=
          @inductionHypothesis (table.extend [(column, property)]) after holdsAfter (sound.extend _)
        rw [Column.pending_cons_of_new skips property, putProperty_draftOf sound skips readable,
          List.mapM_cons]
        refine continued.trans ?_
        rw [show (table.extend [(column, property)]).name = table.name from rfl, partOf, gives]
        generalize (Column.pending _ rest).mapM (partOf answer table.name) = later
        cases later with
        | error failure => rfl
        | ok parts => exact congrArg Except.ok (extend_cons table (column, property) parts).symm

/-- A table is built of the columns that count, unless their stream fails in the end. -/
theorem outcome_build (answers : source.AnswersBy answer) (holds : state.cache.Holds answer)
    (name : Text) (columns : Feed Column) :
    ((build source name columns).perform state).1 =
      (((Column.counted name columns.items).mapM (partOf answer name)).map
        (Table.extend { name })).bind fun table => columns.ending.map fun _ => table := by
  have added := outcome_addColumns answers columns.items holds (isSound_empty name)
  rw [Column.pending_empty] at added
  unfold build
  rw [Attempt.perform_bind, ← added]
  obtain ⟨outcome, after⟩ := (addColumns source { name } columns.items).perform state
  cases outcome with
  | error failure => rfl
  | ok table => cases columns.ending <;> rfl

end Table

/-! ### First occurrences -/

namespace Column

/-- The first column of a name. -/
def first? (columns : List Column) (name : Text) : Option Column :=
  columns.find? fun column => column.name = name

/-- A column counts exactly if it is the first of its name and not named like the table. -/
theorem mem_counted_iff (table : Text) (columns : List Column) (column : Column) :
    column ∈ counted table columns ↔
      first? columns column.name = some column ∧ column.name ≠ table := by
  induction columns with
  | nil => simp [counted, first?]
  | cons head rest inductionHypothesis =>
    unfold first? at inductionHypothesis ⊢
    rw [counted, List.find?_cons]
    by_cases same : head.name = column.name
    · have later : column ∉ (counted table rest).filter (·.name ≠ head.name) := by
        simp [same]
      rw [decide_eq_true same, Option.some_inj]
      split
      · rename_i excluded
        rw [inductionHypothesis, ← same]
        exact iff_of_false (fun both => both.2 excluded) fun both => both.2 excluded
      · rename_i different
        rw [List.mem_cons, or_iff_left later, ← same, and_iff_left different, eq_comm]
    · rw [decide_eq_false same]
      dsimp only
      rw [← inductionHypothesis]
      split
      · exact Iff.rfl
      · rw [List.mem_cons, or_iff_right (fun equal => same (congrArg Column.name equal).symm),
          List.mem_filter, and_iff_left (decide_eq_true (Ne.symm same))]

theorem counted_prefix (table : Text) {first columns : List Column} (starts : first <+: columns) :
    counted table first <+: counted table columns := by
  induction first generalizing columns with
  | nil => exact List.nil_prefix
  | cons head rest inductionHypothesis =>
    obtain ⟨others, rfl⟩ := starts
    rw [List.cons_append, counted, counted]
    have later := inductionHypothesis (List.prefix_append rest others)
    split
    · exact later
    · exact List.cons_prefix_cons.mpr ⟨rfl, later.filter _⟩

/-- The names of the columns that count, in the order in which they first come. -/
theorem map_name_pending (table : Table) (columns : List Column) :
    (pending table columns).map (·.name) =
      newNames (table.name :: table.properties.keys) (columns.map (·.name)) := by
  induction columns generalizing table with
  | nil => rfl
  | cons column rest inductionHypothesis =>
    have skipped : table.skips column.name = true ↔
        column.name ∈ table.name :: table.properties.keys := by
      rw [Table.skips, Bool.or_eq_true, Dict.hasKey_iff, decide_eq_true_iff, List.mem_cons, or_comm]
    rw [List.map_cons]
    cases skips : table.skips column.name with
    | true =>
      rw [pending_cons_of_skips skips, inductionHypothesis,
        newNames_cons_of_mem (skipped.mp skips)]
    | false =>
      have new : column.name ∉ table.name :: table.properties.keys := fun member =>
        Bool.false_ne_true (skips.symm.trans (skipped.mpr member))
      obtain ⟨sameName, sameProperties⟩ :=
        @applyAttributes_table column.name (table.startColumn column.name) column.attributes
      rw [pending_cons_of_new skips default, List.map_cons, inductionHypothesis,
        newNames_cons_of_not_mem new]
      congr 1
      refine newNames_congr (fun name => ?_) _
      show name ∈ (table.draftOf column).table.name ::
        ((table.draftOf column).table.properties.insert column.name default).keys ↔ _
      rw [show (table.draftOf column).table.name = table.name from sameName, List.mem_cons,
        Dict.mem_keys_insert, show (table.draftOf column).table.properties =
          table.properties.insert column.name _ from sameProperties, Dict.mem_keys_insert,
        List.mem_cons, List.mem_cons]
      tauto

end Column

/-! ### Tables from first occurrences -/

namespace Table

variable {answer : Text → Except Failure Enumeration} {source : EnumSource σ}

/-- Columns that do not count make no difference, even if they could not be read. -/
theorem addColumns_pending (source : EnumSource σ) (table : Table) (columns : List Column) :
    addColumns source table columns = addColumns source table (Column.pending table columns) := by
  induction columns generalizing table with
  | nil => rfl
  | cons column rest inductionHypothesis =>
    show (addColumn source table column >>= fun next => addColumns source next rest) = _
    cases skips : table.skips column.name with
    | true =>
      rw [addColumn_of_skips source skips, pure_bind, Column.pending_cons_of_skips skips]
      exact inductionHypothesis table
    | false =>
      rw [Column.pending_cons_of_new skips default]
      show _ = (addColumn source table column >>= fun next => addColumns source next _)
      cases fails : column.failure? with
      | some failure =>
        rw [addColumn_of_failure source skips fails]
        rfl
      | none =>
        -- Whatever property the column gets, the same columns count after it.
        cases draws : Column.enumerationName? column.name with
        | none =>
          rw [addColumn_undrawn source skips fails draws, pure_bind, pure_bind,
            Column.pending_putProperty _ _ default (table.draftOf column).property]
          exact inductionHypothesis _
        | some name =>
          rw [addColumn_drawing source skips fails draws, bind_assoc, bind_assoc]
          refine congrArg (EnumCache.resolve source name >>= ·) (funext fun definition => ?_)
          rw [pure_bind, pure_bind, Column.pending_putProperty _ _ default
            ((table.draftOf column).property.asEnumerated.withValues definition)]
          exact inductionHypothesis _

theorem build_counted (source : EnumSource σ) (name : Text) (columns : Feed Column) :
    build source name columns =
      build source name { columns with items := Column.counted name columns.items } := by
  unfold build
  rw [addColumns_pending, Column.pending_empty]

/-- The parts of columns are the columns, each with its own property. -/
theorem parts_of_mapM {name : Text} {columns : List Column} {parts : List (Column × Property)}
    (gives : columns.mapM (partOf answer name) = .ok parts) :
    parts.map (·.1) = columns ∧ ∀ part ∈ parts, part.1.property answer name = .ok part.2 := by
  rw [mapM_eq_ok_iff] at gives
  induction gives with
  | nil => exact ⟨rfl, nofun⟩
  | cons givesFirst _ inductionHypothesis =>
    obtain ⟨property, reads, rfl⟩ := map_eq_ok_iff.mp givesFirst
    obtain ⟨columnsRest, readsRest⟩ := inductionHypothesis
    rw [List.map_cons, columnsRest]
    exact ⟨rfl, List.forall_mem_cons.mpr ⟨reads, readsRest⟩⟩

/-- How a table follows from columns, where enumerations are answered in a given way. -/
structure Assembled (source : EnumSource σ) (answer : Text → Except Failure Enumeration)
    (columns : List Column) (table : Table) : Prop where
  /-- The names of the properties are those of the columns but for the name of the table, each once
  and in the order in which they first come. -/
  names : table.properties.keys = ((columns.map (·.name)).filter (· ≠ table.name)).eraseDups
  /-- A property is the one that the first column of its name gives alone. -/
  alone : ∀ column, Column.first? columns column.name = some column → column.name ≠ table.name →
    ∃ property, table.properties.get? column.name = some property ∧
      ∀ state : Cached σ, state.cache.Holds answer →
        ((build source table.name (.ofList [column])).perform state).1 =
          .ok
            { name := table.name
              properties := [(column.name, property)]
              required := if column.isRequired then [column.name] else [] }
  /-- A property is required if the first column of its name says so. -/
  required : table.required = table.properties.keys.filter fun name =>
    (Column.first? columns name).any (·.isRequired)
  /-- The columns up to any point give a table that the others only add to. -/
  growing : ∀ first, first <+: columns → ∀ state : Cached σ, state.cache.Holds answer →
    ∃ part, ((build source table.name (.ofList first)).perform state).1 = .ok part ∧
      part.properties <+: table.properties ∧ part.required <+: table.required

section Parts

variable {name : Text} {columns : List Column} {parts : List (Column × Property)}

/-- A table of the columns that count has their names as its keys. -/
theorem keys_extend_empty (ofColumns : parts.map (·.1) = Column.counted name columns) :
    (Table.extend { name } parts).properties.keys = newNames [name] (columns.map (·.name)) := by
  calc (Table.extend { name } parts).properties.keys
    _ = (parts.map (·.1)).map (·.name) := by simp [extend, Dict.keys, Function.comp_def]
    _ = newNames [name] (columns.map (·.name)) := by
      rw [ofColumns, ← Column.pending_empty, Column.map_name_pending]
      rfl

/-- A column that counts gives the table the property that it gives alone. -/
theorem alone_of_parts (answers : source.AnswersBy answer)
    (ofColumns : parts.map (·.1) = Column.counted name columns)
    (reads : ∀ part ∈ parts, part.1.property answer name = .ok part.2) {column : Column}
    (first : Column.first? columns column.name = some column) (different : column.name ≠ name) :
    ∃ property, (Table.extend { name } parts).properties.get? column.name = some property ∧
      ∀ state : Cached σ, state.cache.Holds answer →
        ((build source name (.ofList [column])).perform state).1 =
          .ok
            { name
              properties := [(column.name, property)]
              required := if column.isRequired then [column.name] else [] } := by
  have counts := (Column.mem_counted_iff name columns column).mpr ⟨first, different⟩
  rw [← ofColumns] at counts
  obtain ⟨⟨_, property⟩, member, rfl⟩ := List.mem_map.mp counts
  have distinct : (Table.extend { name } parts).properties.keys.Nodup := by
    rw [keys_extend_empty ofColumns]
    exact nodup_newNames _ _
  refine ⟨property, Dict.get?_of_mem distinct (List.mem_map.mpr ⟨_, member, rfl⟩), ?_⟩
  intro state holds
  have given : partOf answer name _ = .ok _ := congrArg (Except.map _) (reads _ member)
  rw [outcome_build answers holds, Feed.ofList, Column.counted, if_neg different, Column.counted,
    List.filter_nil, List.mapM_cons, given]
  show Except.ok (Table.extend { name } [_]) = _
  unfold extend
  cases required : Column.isRequired _ <;> simp [required]

/-- A column that counts makes its property required if an attribute says so. -/
theorem required_of_parts (ofColumns : parts.map (·.1) = Column.counted name columns) :
    (Table.extend { name } parts).required =
      (Table.extend { name } parts).properties.keys.filter fun name =>
        (Column.first? columns name).any (·.isRequired) := by
  have keys : (Table.extend { name } parts).properties.keys = parts.map (·.1.name) := by
    simp [extend, Dict.keys, Function.comp_def]
  rw [keys, List.filter_map]
  show [] ++ _ = _
  rw [List.nil_append]
  congr 1
  refine List.filter_congr fun part member => ?_
  have counts : part.1 ∈ Column.counted name columns :=
    ofColumns ▸ List.mem_map_of_mem member
  rw [Function.comp_apply, ((Column.mem_counted_iff _ _ _).mp counts).1, Option.any_some]

/-- The columns up to any point are extended by the others. -/
theorem growing_of_parts (answers : source.AnswersBy answer)
    (gives : (Column.counted name columns).mapM (partOf answer name) = .ok parts)
    {first : List Column} (starts : first <+: columns) {state : Cached σ}
    (holds : state.cache.Holds answer) :
    ∃ part, ((build source name (.ofList first)).perform state).1 = .ok part ∧
      part.properties <+: (Table.extend { name } parts).properties ∧
      part.required <+: (Table.extend { name } parts).required := by
  obtain ⟨others, split⟩ := Column.counted_prefix name starts
  rw [← split, List.mapM_append] at gives
  obtain ⟨firstParts, givesFirst, givesRest⟩ := bind_eq_ok_iff.mp gives
  obtain ⟨otherParts, _, same⟩ := bind_eq_ok_iff.mp givesRest
  cases same
  refine ⟨Table.extend { name } firstParts, ?_, ?_, ?_⟩
  · rw [outcome_build answers holds, Feed.ofList, givesFirst]
    rfl
  · exact ((List.prefix_append firstParts otherParts).map _)
  · exact (((List.prefix_append firstParts otherParts).filter _).map _)

end Parts

/-- A table follows from the first occurrences in its columns, whatever the others are like. It has a
property for every name in order of first occurrence, the one that the first column of the name gives
alone; it requires those whose first column says so; and it grows from column to column. -/
theorem build_first_occurrences (answers : source.AnswersBy answer) {state : Cached σ}
    (holds : state.cache.Holds answer) (name : Text) (columns : Feed Column) :
    build source name columns =
        build source name { columns with items := Column.counted name columns.items } ∧
      ∀ table, ((build source name columns).perform state).1 = .ok table →
        table.name = name ∧ table.Assembled source answer columns.items := by
  refine ⟨build_counted source name columns, fun table built => ?_⟩
  rw [outcome_build answers holds] at built
  obtain ⟨finished, extended, ends⟩ := bind_eq_ok_iff.mp built
  obtain ⟨_, ended, rfl⟩ := map_eq_ok_iff.mp ends
  obtain ⟨parts, gives, rfl⟩ := map_eq_ok_iff.mp extended
  obtain ⟨ofColumns, reads⟩ := parts_of_mapM gives
  refine ⟨rfl, ?_, ?_, ?_, ?_⟩
  · rw [keys_extend_empty ofColumns]
    unfold newNames
    congr 1
    refine List.filter_congr fun other _ => ?_
    rw [Bool.eq_iff_iff, not_contains_iff, List.mem_singleton, decide_eq_true_iff]
    exact Iff.rfl
  · exact fun column => alone_of_parts answers ofColumns reads
  · exact required_of_parts ofColumns
  · exact fun first starts state => growing_of_parts answers gives starts

/-- A table is built of two columns, although an earlier one of its own name and a later one of a known
name have sizes that cannot be read. -/
theorem build_first_occurrences_rooms :
    let source := EnumSource.known [("RoomEnum", [(1, "Single Room"), (2, "Suite")])]
    let answer := knownAnswer [("RoomEnum", [(1, "Single Room"), (2, "Suite")])]
    let state : Cached (List Text) := { cache := {}, rest := [] }
    let columns : List Column :=
      [{ name := "Room", attributes := [("size", "many")] },
        { name := "Kind_RoomEnum", attributes := [("required", "true")] },
        { name := "Beds", attributes := [("required", "false")] },
        { name := "Kind_RoomEnum", attributes := [("size", "many")] }]
    let table := Table.extend { name := "Room" }
      [({ name := "Kind_RoomEnum", attributes := [("required", "true")] },
          { description := some "References Kind_RoomEnum table"
            oneOf := some Property.identifierOrLabel
            enum := [.integer 1, .string "SingleRoom", .integer 2, .string "Suite"] }),
        ({ name := "Beds", attributes := [("required", "false")] }, {})]
    source.AnswersBy answer ∧ state.cache.Holds answer ∧
      ((build source "Room" (.ofList columns)).perform state).1 = .ok table ∧
      table.Assembled source answer columns := by
  intro source answer state columns table
  have answers : source.AnswersBy answer := known_answersBy _
  have holds : state.cache.Holds answer := EnumCache.holds_empty
  have built : ((build source "Room" (.ofList columns)).perform state).1 = .ok table := by rfl
  exact ⟨answers, holds, built,
    ((build_first_occurrences answers holds "Room" (.ofList columns)).2 table built).2⟩

end Table

end ApiDoc
