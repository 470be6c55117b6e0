/-
This file says which columns of a list count and which of them can be read. Whether the attributes of
a column can be read does not depend on the table that they are applied to, and applying them leaves
the properties of that table and its name alone.
-/
import ApiDoc.Proofs.Dictionary
import ApiDoc.Proofs.TableBuilding

namespace ApiDoc

namespace Column

/-! ### Applying an attribute -/

/-- What an attribute, a key with a value, can do to a draft. -/
inductive Applied (column : Text) (entry : Text × Text) (draft : Draft) : Draft → Prop where
  | same : Applied column entry draft draft
  | required :
    Applied column entry draft { draft with table := draft.table.requireProperty column }
  | typed :
    Applied column entry draft
      { draft with property := draft.property.withType (ColumnType.ofColumn entry.2 column) }
  | sized (size : Int) (read : readInteger column entry.1 entry.2 = .ok size) :
    Applied column entry draft
      { draft with property := { draft.property with maxLength := some size } }
  | nullable (nullable : Bool) :
    Applied column entry draft { draft with property := { draft.property with nullable } }

theorem applied_of_ok {column key value : Text} {draft next : Draft}
    (applies : applyAttribute column draft key value = .ok next) :
    Applied column (key, value) draft next := by
  unfold applyAttribute at applies
  split at applies
  · obtain ⟨required, _, taken⟩ := bind_eq_ok_iff.mp applies
    cases required with
    | true => cases taken; exact .required
    | false => cases taken; exact .same
  · split at applies
    · cases applies
      exact .typed
    · split at applies
      · obtain ⟨size, read, taken⟩ := bind_eq_ok_iff.mp applies
        by_cases positive : 0 < size
        · rw [if_pos positive] at taken
          cases taken
          exact .sized size read
        · rw [if_neg positive] at taken
          cases taken
          exact .same
      · split at applies
        · obtain ⟨nullable, _, taken⟩ := bind_eq_ok_iff.mp applies
          cases taken
          exact .nullable nullable
        · cases applies
          exact .same

/-- What each of its attributes preserves, the attributes of a column preserve. -/
theorem applyAttributes_preserves {column : Text} (holds : Draft → Prop) (attributes : Dict Text)
    (preserves : ∀ entry ∈ attributes, ∀ draft next,
      holds draft → Applied column entry draft next → holds next)
    {draft : Draft} (initially : holds draft) :
    holds (applyAttributes column draft attributes).2 := by
  induction attributes generalizing draft with
  | nil => exact initially
  | cons head rest inductionHypothesis =>
    obtain ⟨key, value⟩ := head
    unfold applyAttributes
    cases applied : applyAttribute column draft key value with
    | error failure => exact initially
    | ok next =>
      exact inductionHypothesis (fun entry member => preserves entry (.tail _ member))
        (preserves _ List.mem_cons_self draft next initially (applied_of_ok applied))

theorem applyAttributes_table {column : Text} (draft : Draft) (attributes : Dict Text) :
    (applyAttributes column draft attributes).2.table.name = draft.table.name ∧
      (applyAttributes column draft attributes).2.table.properties = draft.table.properties := by
  refine applyAttributes_preserves
    (fun next => next.table.name = draft.table.name ∧
      next.table.properties = draft.table.properties) attributes ?_ ⟨rfl, rfl⟩
  intro entry _ before next holds applied
  cases applied with
  | same | typed | sized | nullable => exact holds
  | required =>
    show (before.table.requireProperty column).name = _ ∧
      (before.table.requireProperty column).properties = _
    unfold Table.requireProperty
    split <;> exact holds

/-- Attributes list no values. -/
theorem applyAttributes_enum {column : Text} (draft : Draft) (attributes : Dict Text) :
    (applyAttributes column draft attributes).2.property.enum = draft.property.enum := by
  refine applyAttributes_preserves (fun next => next.property.enum = draft.property.enum)
    attributes ?_ rfl
  intro entry _ before next holds applied
  cases applied with
  | same | required | typed | sized | nullable => exact holds

/-! ### Reading columns -/

theorem applyAttribute_outcome (column key value : Text) (first second : Draft) :
    (applyAttribute column first key value).map (fun _ => ()) =
      (applyAttribute column second key value).map fun _ => () := by
  unfold applyAttribute
  split
  · cases readBoolean column key value <;> rfl
  · split
    · rfl
    · split
      · cases readInteger column key value <;> rfl
      · split
        · cases readBoolean column key value <;> rfl
        · rfl

/-- Whether attributes can be read does not depend on what they are applied to. -/
theorem applyAttributes_outcome (column : Text) (attributes : Dict Text) (first second : Draft) :
    (applyAttributes column first attributes).1 = (applyAttributes column second attributes).1 := by
  induction attributes generalizing first second with
  | nil => rfl
  | cons head rest inductionHypothesis =>
    obtain ⟨key, value⟩ := head
    have same := applyAttribute_outcome column key value first second
    unfold applyAttributes
    cases appliedFirst : applyAttribute column first key value with
    | error failure =>
      cases appliedSecond : applyAttribute column second key value with
      | error other =>
        rw [appliedFirst, appliedSecond] at same
        cases same
        rfl
      | ok next => rw [appliedFirst, appliedSecond] at same; cases same
    | ok nextFirst =>
      cases appliedSecond : applyAttribute column second key value with
      | error other => rw [appliedFirst, appliedSecond] at same; cases same
      | ok nextSecond => exact inductionHypothesis nextFirst nextSecond

theorem readBoolean_malformed {column key value : Text} {failure : Failure}
    (fails : readBoolean column key value = .error failure) :
    failure = .malformed (.boolean column key value) := by
  unfold readBoolean at fails
  dsimp only at fails
  split at fails
  · cases fails
  · split at fails <;> cases fails
    rfl

theorem readInteger_malformed {column key value : Text} {failure : Failure}
    (fails : readInteger column key value = .error failure) :
    failure = .malformed (.integer column key value) := by
  unfold readInteger at fails
  split at fails <;> cases fails
  rfl

theorem applyAttribute_malformed {column key value : Text} {draft : Draft} {failure : Failure}
    (fails : applyAttribute column draft key value = .error failure) :
    ∃ cause, failure = .malformed cause := by
  unfold applyAttribute at fails
  split at fails
  · exact ⟨_, readBoolean_malformed (bind_pure_eq_error_iff.mp fails)⟩
  · split at fails
    · cases fails
    · split at fails
      · exact ⟨_, readInteger_malformed (bind_pure_eq_error_iff.mp fails)⟩
      · split at fails
        · exact ⟨_, readBoolean_malformed (bind_pure_eq_error_iff.mp fails)⟩
        · cases fails

theorem applyAttributes_malformed {column : Text} {draft : Draft} {attributes : Dict Text}
    {failure : Failure} (fails : (applyAttributes column draft attributes).1 = .error failure) :
    ∃ cause, failure = .malformed cause := by
  induction attributes generalizing draft with
  | nil => cases fails
  | cons head rest inductionHypothesis =>
    obtain ⟨key, value⟩ := head
    unfold applyAttributes at fails
    cases applied : applyAttribute column draft key value with
    | ok next =>
      rw [applied] at fails
      exact inductionHypothesis fails
    | error other =>
      rw [applied] at fails
      cases fails
      exact applyAttribute_malformed applied

/-- The failure of a column whose attributes cannot be read. -/
def failure? (column : Column) : Option Failure :=
  match (applyAttributes column.name { table := { name := [] }, property := {} }
    column.attributes).1 with
  | .ok () => none
  | .error failure => some failure

theorem applyAttributes_of_failure {column : Column} {failure : Failure}
    (fails : column.failure? = some failure) (draft : Draft) :
    (applyAttributes column.name draft column.attributes).1 = .error failure := by
  rw [applyAttributes_outcome _ _ draft { table := { name := [] }, property := {} }]
  unfold failure? at fails
  split at fails
  · cases fails
  · rename_i failed
    cases fails
    exact failed

theorem applyAttributes_of_readable {column : Column} (readable : column.failure? = none)
    (draft : Draft) : (applyAttributes column.name draft column.attributes).1 = .ok () := by
  rw [applyAttributes_outcome _ _ draft { table := { name := [] }, property := {} }]
  unfold failure? at readable
  split at readable
  · assumption
  · cases readable

end Column

/-! ### Adding a column -/

namespace Table

variable {σ : Type} (source : EnumSource σ) {table : Table} {column : Column}

/-- The draft of a column when its attributes have been applied. -/
def draftOf (table : Table) (column : Column) : Column.Draft :=
  (Column.applyAttributes column.name (startColumn table column.name) column.attributes).2

theorem wanted?_draftOf (table : Table) (column : Column) :
    (draftOf table column).property.wanted? column.name = Column.enumerationName? column.name := by
  have empty : (draftOf table column).property.enum = [] := Column.applyAttributes_enum _ _
  unfold Property.wanted?
  rw [empty]
  rfl

theorem addColumn_of_failure (new : table.skips column.name = false) {failure : Failure}
    (fails : column.failure? = some failure) : addColumn source table column = throw failure :=
  addColumn_of_unreadable source new (Prod.ext (Column.applyAttributes_of_failure fails _) rfl)

/-- A column that draws from no enumeration is done when its attributes are. -/
theorem addColumn_undrawn (new : table.skips column.name = false)
    (readable : column.failure? = none) (undrawn : Column.enumerationName? column.name = none) :
    addColumn source table column =
      pure ((draftOf table column).table.putProperty column.name
        (draftOf table column).property) := by
  rw [addColumn_of_readable source new
    (Prod.ext (Column.applyAttributes_of_readable readable _) rfl)]
  show finishColumn source column.name (draftOf table column) = _
  unfold finishColumn
  rw [wanted?_draftOf, undrawn]

/-- Any other has its enumeration resolved and its values listed. -/
theorem addColumn_drawing (new : table.skips column.name = false)
    (readable : column.failure? = none) {name : Text}
    (draws : Column.enumerationName? column.name = some name) :
    addColumn source table column = do
      let definition ← EnumCache.resolve source name
      return (draftOf table column).table.putProperty column.name
        ((draftOf table column).property.asEnumerated.withValues definition) := by
  rw [addColumn_of_readable source new
    (Prod.ext (Column.applyAttributes_of_readable readable _) rfl)]
  show finishColumn source column.name (draftOf table column) = _
  unfold finishColumn
  rw [wanted?_draftOf, draws]

end Table

namespace Column

/-! ### Columns that count -/

/-- The columns of a table that count: the first of every name, but none that is named like the
table. -/
def counted (table : Text) : List Column → List Column
  | [] => []
  | column :: rest =>
    if column.name = table then counted table rest
    else column :: (counted table rest).filter (·.name ≠ column.name)

/-- The columns that still count for a table which has some properties already. -/
def pending (table : Table) (columns : List Column) : List Column :=
  (counted table.name columns).filter fun column => !table.properties.hasKey column.name

theorem pending_empty (name : Text) (columns : List Column) :
    pending { name } columns = counted name columns :=
  List.filter_eq_self.mpr fun _ _ => rfl

theorem pending_cons_of_skips {table : Table} {column : Column}
    (skips : table.skips column.name = true) (rest : List Column) :
    pending table (column :: rest) = pending table rest := by
  unfold pending
  rw [counted]
  split
  · rfl
  · rename_i different
    have present : table.properties.hasKey column.name = true := by
      unfold Table.skips at skips
      simpa only [different, decide_false, Bool.or_false] using skips
    rw [List.filter_cons_of_neg (by simp only [present, Bool.not_true, Bool.false_eq_true,
      not_false_eq_true]), List.filter_filter]
    refine List.filter_congr fun other _ => ?_
    by_cases same : other.name = column.name
    · simp only [same, present, Bool.not_true, Bool.false_and]
    · simp only [same, ne_eq, not_false_eq_true, decide_true, Bool.and_true]

/-- A column that is not passed over counts, and afterwards its name is taken. -/
theorem pending_cons_of_new {table : Table} {column : Column}
    (new : table.skips column.name = false) (property : Property) (rest : List Column) :
    pending table (column :: rest) =
      column :: pending ((table.draftOf column).table.putProperty column.name property) rest := by
  have unchanged := @applyAttributes_table column.name (Table.startColumn table column.name)
    column.attributes
  unfold Table.skips at new
  rw [Bool.or_eq_false_iff] at new
  obtain ⟨absent, different⟩ := new
  have taken (name : Text) :
      ((table.draftOf column).table.putProperty column.name property).properties.hasKey name =
        (table.properties.hasKey name || decide (name = column.name)) := by
    show ((table.draftOf column).table.properties.insert _ _).hasKey name = _
    rw [Dict.hasKey_insert, show (table.draftOf column).table.properties = _ from unchanged.2]
    show ((table.properties.insert _ _).hasKey name || _) = _
    rw [Dict.hasKey_insert, Bool.or_assoc, Bool.or_self]
  unfold pending
  rw [counted, if_neg (of_decide_eq_false different), List.filter_cons_of_pos (by rw [absent]; rfl),
    List.filter_filter]
  show _ = column :: ((counted (table.draftOf column).table.name rest).filter _)
  rw [show (table.draftOf column).table.name = table.name from unchanged.1]
  congr 1
  refine List.filter_congr fun other _ => ?_
  rw [taken, Bool.not_or]
  congr 1
  exact decide_not

/-- Which property a table has under a name makes no difference to the columns that count. -/
theorem pending_putProperty (table : Table) (name : Text) (first second : Property)
    (columns : List Column) :
    pending (table.putProperty name first) columns =
      pending (table.putProperty name second) columns := by
  unfold pending Table.putProperty
  refine List.filter_congr fun column _ => ?_
  rw [Dict.hasKey_insert, Dict.hasKey_insert]

/-- The enumerations that columns draw from, in the order of the columns. -/
def drawn (columns : List Column) : List Text := columns.filterMap (enumerationName? ·.name)

/-- The columns before the first that cannot be read. -/
def readable (columns : List Column) : List Column := columns.takeWhile (·.failure?.isNone)

end Column

end ApiDoc
