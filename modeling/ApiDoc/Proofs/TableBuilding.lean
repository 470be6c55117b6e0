/-
This file unfolds the building of a table into its steps: a column is passed over, or its attributes
are read, and only then is its enumeration resolved, if it draws from one.
-/
import ApiDoc.Proofs.Attempts
import ApiDoc.Table.Build

namespace ApiDoc.Table

variable {σ : Type}

/-- The table with a property that waits for nothing but its enumeration, if it draws from one. -/
def finishColumn (source : EnumSource σ) (column : Text) (draft : Column.Draft) :
    Attempt (Cached σ) Table :=
  match draft.property.wanted? column with
  | none => pure (draft.table.putProperty column draft.property)
  | some name => do
    let definition ← EnumCache.resolve source name
    return draft.table.putProperty column (draft.property.asEnumerated.withValues definition)

/-- Listing the values of a property is resolving its enumeration, if it waits for one. -/
theorem enumerate_eq_finishColumn (source : EnumSource σ) (column : Text) (draft : Column.Draft) :
    (Attempt.ofFunction fun state => match draft.property.enumerate source column state with
      | (.error failure, _, state) => (.error failure, state)
      | (.ok _, property, state) => (.ok (draft.table.putProperty column property), state)) =
      finishColumn source column draft := by
  funext state
  unfold finishColumn Property.enumerate
  cases wanted : draft.property.wanted? column with
  | none => rfl
  | some name =>
    refine Eq.trans ?_ (Attempt.perform_bind _ _ state).symm
    rcases resolved : (EnumCache.resolve source name).perform state with ⟨outcome, after⟩
    cases outcome with
    | error => simp only [Attempt.ofFunction, ExceptT.mk, resolved]
    | ok =>
      simp only [Attempt.ofFunction, ExceptT.mk, resolved]
      rfl

/-- The draft that a column starts with. -/
def startColumn (table : Table) (column : Text) : Column.Draft :=
  let property := initialProperty table.name column
  { table := table.putProperty column property, property }

theorem addColumn_of_skips (source : EnumSource σ) {table : Table} {column : Column}
    (skips : table.skips column.name = true) : addColumn source table column = pure table :=
  if_pos skips

/-- A column whose attributes cannot be read fails before anything is asked. -/
theorem addColumn_of_unreadable (source : EnumSource σ) {table : Table} {column : Column}
    (new : table.skips column.name = false) {failure : Failure} {draft : Column.Draft}
    (unreadable : Column.applyAttributes column.name (startColumn table column.name)
      column.attributes = (.error failure, draft)) :
    addColumn source table column = throw failure := by
  unfold addColumn
  rw [new, if_neg Bool.false_ne_true]
  simp only [startColumn] at unreadable
  simp only [unreadable]

/-- A column whose attributes can be read is left with its enumeration. -/
theorem addColumn_of_readable (source : EnumSource σ) {table : Table} {column : Column}
    (new : table.skips column.name = false) {draft : Column.Draft}
    (readable : Column.applyAttributes column.name (startColumn table column.name)
      column.attributes = (.ok (), draft)) :
    addColumn source table column = finishColumn source column.name draft := by
  unfold addColumn
  rw [new, if_neg Bool.false_ne_true]
  simp only [startColumn] at readable
  simp only [readable]
  exact enumerate_eq_finishColumn source column.name draft

end ApiDoc.Table
