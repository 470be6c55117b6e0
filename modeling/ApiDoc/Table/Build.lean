/-
This file builds the schema of a table from the stream of its columns. The first column of a name
counts; later ones are passed over, and so is a column that is named like its table.
-/
import ApiDoc.Column.Attribute
import ApiDoc.Enumeration.Apply
import ApiDoc.Table.Feed

namespace ApiDoc.Table

variable {σ : Type}

/-- A column of this name is passed over. -/
def skips (table : Table) (column : Text) : Bool :=
  table.properties.hasKey column || column = table.name

/-- The property of a column before its attributes are read. -/
def initialProperty (table column : Text) : Property :=
  { description := Column.describe? table column }

/-- The table with the property of one more column. -/
def addColumn (source : EnumSource σ) (table : Table) (column : Column) :
    Attempt (Cached σ) Table :=
  if table.skips column.name then pure table
  else
    let property := initialProperty table.name column.name
    let draft := { table := table.putProperty column.name property, property }
    match Column.applyAttributes column.name draft column.attributes with
    | (.error failure, _) => throw failure
    | (.ok (), draft) => .ofFunction fun state =>
      match draft.property.enumerate source column.name state with
      | (.error failure, _, state) => (.error failure, state)
      | (.ok _, property, state) => (.ok (draft.table.putProperty column.name property), state)

/-- The table with the properties of columns, one after the other. -/
def addColumns (source : EnumSource σ) (table : Table) : List Column → Attempt (Cached σ) Table
  | [] => pure table
  | column :: rest => do addColumns source (← addColumn source table column) rest

/-- The table of a stream of columns. -/
def build (source : EnumSource σ) (name : Text) (columns : Feed Column) :
    Attempt (Cached σ) Table := do
  let table ← addColumns source { name } columns.items
  match columns.ending with
  | .ok () => return table
  | .error failure => throw failure

end ApiDoc.Table
